import EndpointGate.Proofs.Tally.Recording
import EndpointGate.Proofs.Tally.Sample
import Mathlib.Data.List.Nodup
import Mathlib.Data.String.Basic
import Mathlib.Tactic.Tauto

/-!
# What an exposition tells

A tally that has been used for a while has one counter for each key that a used series has
(`holds_after`), and its exposition lists them in strict order (`pairwise_sortedCounters`). As long as the
numbers are not rounded, tallies with the same text have the same counters and the same number of patterns
(`perm_of_expose_eq`). `exposition_tells` is both of these, for what any uses make of a new tally. Series that
are used have a line each just if no two of them have the same key (`Holds.mem_iff_iff_apart`).
-/

namespace EndpointGate.Tally

/-! ## Uses -/

/-- What is done with a tally. -/
inductive Use where
  | record (pattern method : String)
  | setPatterns (n : UInt64)
  /-- Asks for the counter of a series, which is there from then on. -/
  | read (s : Series)
  deriving DecidableEq, Repr

namespace Use

/-- The series that a counter is used of. -/
def series? : Use → Option Series
  | .record pattern method => some ⟨pattern, labelOf method⟩
  | .setPatterns _ => none
  | .read s => some s

def apply (t : Tally) : Use → Tally
  | .record pattern method => t.record pattern method
  | .setPatterns n => t.setPatterns n
  | .read s => t.touch s

end Use

/-- The tally after uses, one after another. -/
def after (t : Tally) (uses : List Use) : Tally := uses.foldl Use.apply t

/-- The counters of a tally are those of used series, one for each key that a used series has. -/
structure Holds (t : Tally) (used : List Series) : Prop where
  nodup : (t.counters.map (·.1.key)).Nodup
  subset : t.counters.map (·.1) ⊆ used
  known : ∀ s ∈ used, s.key ∈ t.counters.map (·.1.key)

/-- No number is too large to be written as it is. -/
structure IsExact (t : Tally) : Prop where
  counters : ∀ c ∈ t.counters, c.2.toNat ≤ Number.exactBound
  patterns : t.patterns.toInt.natAbs ≤ Number.exactBound

/-- The order of the lines: by label, then by pattern. -/
def Precedes (s s' : Series) : Prop := s.label < s'.label ∨ s.label = s'.label ∧ s.pattern < s'.pattern

/-- What the exposition of a tally tells, and of which series after uses. -/
structure Tells (t : Tally) (uses : List Use) : Prop where
  /-- There is one sample for each counter, and one for the number of patterns. -/
  samples : samples t.stem t.expose =
    t.sortedCounters.map (fun c => some (.declined c.1 (Number.shown c.2.toNat))) ++
      [some (.patterns (shownInt t.patterns.toInt))]
  perm : t.sortedCounters.Perm t.counters
  order : t.sortedCounters.Pairwise fun a b => Precedes a.1 b.1
  holds : t.Holds (uses.filterMap Use.series?)
  /-- The series of the counters are the used ones just if no two of these have the same key. -/
  each : (∀ s, s ∈ t.counters.map (·.1) ↔ s ∈ uses.filterMap Use.series?) ↔
    Series.Apart (uses.filterMap Use.series?)

variable {t t' : Tally} {stem : String} {used : List Series} {uses : List Use} {s s' : Series} {n : Nat}

/-! ## The counters after uses -/

theorem Holds.addTo (h : t.Holds used) (s : Series) (n : UInt64) :
    Holds { t with counters := addTo s n t.counters } (used ++ [s]) := by
  have hseries := map_fst_addTo s n t.counters
  have hkeys : (Tally.addTo s n t.counters).map (·.1.key) =
      t.counters.map (·.1.key) ++ if s.key ∈ t.counters.map (·.1.key) then [] else [s.key] := by
    have hmap := congrArg (List.map Series.key) hseries
    rw [List.map_map, List.map_append, List.map_map, apply_ite (List.map Series.key)] at hmap
    exact hmap
  refine ⟨?_, ?_, ?_⟩
  · show ((Tally.addTo s n t.counters).map (·.1.key)).Nodup
    rw [hkeys]
    split
    · rw [List.append_nil]
      exact h.nodup
    · rename_i hnew
      rw [← List.concat_eq_append]
      exact h.nodup.concat hnew
  · show (Tally.addTo s n t.counters).map (·.1) ⊆ used ++ [s]
    rw [hseries]
    refine List.append_subset.2 ⟨List.subset_append_of_subset_left _ h.subset, ?_⟩
    split
    · exact List.nil_subset _
    · exact List.subset_append_right _ _
  · intro s' hs'
    show s'.key ∈ (Tally.addTo s n t.counters).map (·.1.key)
    rw [mem_keys_addTo]
    rcases List.mem_append.1 hs' with hs' | hs'
    · exact .inr (h.known s' hs')
    · obtain rfl := List.mem_singleton.1 hs'
      exact .inl rfl

theorem Holds.apply (h : t.Holds used) (u : Use) : (u.apply t).Holds (used ++ u.series?.toList) := by
  cases u with
  | record pattern method => exact h.addTo _ _
  | setPatterns n =>
    show Holds (t.setPatterns n) (used ++ [])
    rw [List.append_nil]
    exact ⟨h.nodup, h.subset, h.known⟩
  | read s => exact h.addTo _ _

theorem Holds.after (h : t.Holds used) (uses : List Use) :
    (t.after uses).Holds (used ++ uses.filterMap Use.series?) := by
  induction uses generalizing t used with
  | nil =>
    rw [List.filterMap_nil, List.append_nil]
    exact h
  | cons u uses ih =>
    have hrest := ih (h.apply u)
    have hseries : u.series?.toList ++ uses.filterMap Use.series? = (u :: uses).filterMap Use.series? := by
      rw [List.filterMap_cons]
      cases u.series? <;> rfl
    rw [List.append_assoc, hseries] at hrest
    exact hrest

theorem holds_after (stem : String) (uses : List Use) :
    ((ofStem stem).after uses).Holds (uses.filterMap Use.series?) := by
  have hnew : (ofStem stem).Holds [] := ⟨List.nodup_nil, List.nil_subset _, fun _ => nofun⟩
  exact hnew.after uses

theorem stem_after (t : Tally) (uses : List Use) : (t.after uses).stem = t.stem := by
  induction uses generalizing t with
  | nil => rfl
  | cons u uses ih =>
    have hone : (u.apply t).stem = t.stem := by cases u <;> rfl
    exact (ih (u.apply t)).trans hone

theorem Holds.nodup_map_key (h : t.Holds used) : ((t.counters.map (·.1)).map Series.key).Nodup := by
  rw [List.map_map]
  exact h.nodup

theorem Holds.nodup_series (h : t.Holds used) : (t.counters.map (·.1)).Nodup := h.nodup_map_key.of_map

theorem Holds.mem_iff_iff_apart (h : t.Holds used) :
    (∀ s, s ∈ t.counters.map (·.1) ↔ s ∈ used) ↔ Series.Apart used := by
  constructor
  · intro hmem s hs s' hs' hkey
    exact List.inj_on_of_nodup_map h.nodup_map_key ((hmem s').2 hs') ((hmem s).2 hs) hkey
  · intro hapart s
    refine ⟨fun hs => h.subset hs, fun hs => ?_⟩
    obtain ⟨c, hc, hkey⟩ := List.mem_map.1 (h.known s hs)
    have hmem : c.1 ∈ t.counters.map (·.1) := List.mem_map_of_mem hc
    rwa [hapart s hs c.1 (h.subset hmem) hkey] at hmem

/-! ## The order of the lines -/

theorem before_iff : Series.before s s' = true ↔ Precedes s s' ∨ s = s' := by
  cases s
  cases s'
  simp only [Series.before, Precedes, Bool.or_eq_true, Bool.and_eq_true, decide_eq_true_eq, beq_iff_eq,
    Series.mk.injEq]
  tauto

theorem Precedes.trans {s s' s'' : Series} (h : Precedes s s') (h' : Precedes s' s'') : Precedes s s'' := by
  rcases h with h | ⟨h, hp⟩
  · rcases h' with h' | ⟨h', -⟩
    · exact .inl (h.trans h')
    · exact .inl (h' ▸ h)
  · rcases h' with h' | ⟨h', hp'⟩
    · exact .inl (h ▸ h')
    · exact .inr ⟨h.trans h', hp.trans hp'⟩

theorem not_precedes_self (s : Series) : ¬Precedes s s := by
  rintro (h | ⟨-, h⟩)
  · exact lt_irrefl _ h
  · exact lt_irrefl _ h

theorem precedes_trichotomy (s s' : Series) : Precedes s s' ∨ s = s' ∨ Precedes s' s := by
  rcases lt_trichotomy s.label s'.label with h | h | h
  · exact .inl (.inl h)
  · rcases lt_trichotomy s.pattern s'.pattern with hp | hp | hp
    · exact .inl (.inr ⟨h, hp⟩)
    · right
      left
      cases s
      cases s'
      cases h
      cases hp
      rfl
    · exact .inr (.inr (.inr ⟨h.symm, hp⟩))
  · exact .inr (.inr (.inl h))

theorem before_trans {s s' s'' : Series} (h : Series.before s s' = true) (h' : Series.before s' s'' = true) :
    Series.before s s'' = true := by
  rw [before_iff] at h h' ⊢
  rcases h with h | rfl
  · rcases h' with h' | rfl
    · exact .inl (h.trans h')
    · exact .inl h
  · exact h'

theorem before_total (s s' : Series) : (Series.before s s' || Series.before s' s) = true := by
  rw [Bool.or_eq_true, before_iff, before_iff]
  rcases precedes_trichotomy s s' with h | h | h
  · exact .inl (.inl h)
  · exact .inl (.inr h)
  · exact .inr (.inl h)

theorem perm_sortedCounters (t : Tally) : t.sortedCounters.Perm t.counters := List.mergeSort_perm _ _

theorem pairwise_sortedCounters (h : (t.counters.map (·.1)).Nodup) :
    t.sortedCounters.Pairwise fun a b => Precedes a.1 b.1 := by
  have hsorted : t.sortedCounters.Pairwise fun a b => Series.before a.1 b.1 = true := by
    apply List.pairwise_mergeSort
    · exact fun a b c => before_trans
    · exact fun a b => before_total a.1 b.1
  have hnodup : (t.sortedCounters.map (·.1)).Nodup := ((perm_sortedCounters t).map _).nodup_iff.2 h
  refine (hsorted.and (List.pairwise_map.1 hnodup)).imp ?_
  rintro a b ⟨hbefore, hne⟩
  exact (before_iff.1 hbefore).resolve_right hne

/-- The order of the lines does not depend on the order in which the counters came. -/
theorem sortedCounters_eq_of_perm (h : t.counters.Perm t'.counters) (hnodup : (t.counters.map (·.1)).Nodup) :
    t.sortedCounters = t'.sortedCounters := by
  have hperm := ((perm_sortedCounters t).trans h).trans (perm_sortedCounters t').symm
  refine hperm.eq_of_pairwise (fun a b _ _ hab hba => ?_) (pairwise_sortedCounters hnodup)
    (pairwise_sortedCounters ((h.map _).nodup_iff.1 hnodup))
  exact absurd (hab.trans hba) (not_precedes_self a.1)

/-! ## Numbers -/

/-- The greatest count that is not rounded has seventeen digits, of which none can be left out. -/
theorem shown_exactBound : Number.shown Number.exactBound = Number.exactBound.repr := by decide +kernel

theorem shown_of_le (h : n ≤ Number.exactBound) : Number.shown n = n.repr := by
  rcases Nat.eq_or_lt_of_le h with heq | hlt
  · rw [heq, shown_exactBound]
  · rw [Number.shown_of_lt hlt, Nat.toString_eq_repr]

/-- A number that is not rounded is read from its digits. -/
theorem ofDigitChars_shown (h : n ≤ Number.exactBound) :
    Nat.ofDigitChars 10 (Number.shown n).toList 0 = n := by
  rw [shown_of_le h, Nat.repr_eq_ofList_toDigits, String.toList_ofList, Nat.ofDigitChars_ten_toDigits]

theorem shown_inj {n m : Nat} (hn : n ≤ Number.exactBound) (hm : m ≤ Number.exactBound) :
    Number.shown n = Number.shown m ↔ n = m := by
  constructor
  · intro heq
    rw [← ofDigitChars_shown hn, heq, ofDigitChars_shown hm]
  · rintro rfl
    rfl

theorem minus_mem_shownInt_iff (n : Int) : '-' ∈ (shownInt n).toList ↔ n < 0 := by
  have hdigits : '-' ∉ (Number.shown n.natAbs).toList := by
    intro hmem
    exact absurd (isDigit_of_mem_shown hmem) (by decide)
  unfold shownInt
  split <;> simp [*]

theorem shownInt_inj {n m : Int} (hn : n.natAbs ≤ Number.exactBound) (hm : m.natAbs ≤ Number.exactBound) :
    shownInt n = shownInt m ↔ n = m := by
  constructor
  · intro heq
    have hsign : n < 0 ↔ m < 0 := by rw [← minus_mem_shownInt_iff, heq, minus_mem_shownInt_iff]
    unfold shownInt at heq
    simp only [hsign, String.append_right_inj, shown_inj hn hm] at heq
    omega
  · rintro rfl
    rfl

/-! ## Tallies with the same text -/

theorem eq_of_map_eq {α β : Type} {f : α → β} {xs ys : List α} (h : xs.map f = ys.map f)
    (hinj : ∀ x ∈ xs, ∀ y ∈ ys, f x = f y → x = y) : xs = ys := by
  induction xs generalizing ys with
  | nil => exact (List.map_eq_nil_iff.1 h.symm).symm
  | cons x xs ih =>
    cases ys with
    | nil => nomatch h
    | cons y ys =>
      obtain ⟨hhead, htail⟩ := List.cons.inj h
      rw [hinj x List.mem_cons_self y List.mem_cons_self hhead,
        ih htail fun a ha b hb => hinj a (List.mem_cons_of_mem x ha) b (List.mem_cons_of_mem y hb)]

theorem perm_of_expose_eq (hdeclined : isMetricName (declinedName stem) = true)
    (hpatterns : isMetricName (patternsName stem) = true) (ht : t.stem = stem) (ht' : t'.stem = stem)
    (hexact : t.IsExact) (hexact' : t'.IsExact) (h : t.expose = t'.expose) :
    t.counters.Perm t'.counters ∧ t.patterns = t'.patterns := by
  have hsamples : samples t.stem t.expose = samples t'.stem t'.expose := by rw [ht, ht', h]
  subst ht
  rw [samples_expose hdeclined hpatterns, samples_expose (ht' ▸ hdeclined) (ht' ▸ hpatterns)] at hsamples
  obtain ⟨hcounters, hlast⟩ := List.append_inj' hsamples (by simp only [List.length_singleton])
  constructor
  · have hsorted : t.sortedCounters = t'.sortedCounters := by
      refine eq_of_map_eq hcounters fun c hc c' hc' heq => ?_
      have hcount := hexact.counters c ((perm_sortedCounters t).subset hc)
      have hcount' := hexact'.counters c' ((perm_sortedCounters t').subset hc')
      rw [Option.some_inj, Sample.declined.injEq, shown_inj hcount hcount', UInt64.toNat_inj] at heq
      exact Prod.ext heq.1 heq.2
    have hperm := perm_sortedCounters t
    rw [hsorted] at hperm
    exact hperm.symm.trans (perm_sortedCounters t')
  · rw [List.singleton_inj, Option.some_inj, Sample.patterns.injEq,
      shownInt_inj hexact.patterns hexact'.patterns] at hlast
    exact Int64.toInt_inj.1 hlast

theorem expose_eq_of_perm (hstem : t.stem = t'.stem) (h : t.counters.Perm t'.counters)
    (hnodup : (t.counters.map (·.1)).Nodup) (hpatterns : t.patterns = t'.patterns) : t.expose = t'.expose := by
  have hempty : t.counters.isEmpty = t'.counters.isEmpty := by
    rw [Bool.eq_iff_iff, List.isEmpty_iff_length_eq_zero, List.isEmpty_iff_length_eq_zero, h.length_eq]
  unfold expose counterText patternsText
  rw [hempty, hstem, hpatterns, sortedCounters_eq_of_perm h hnodup]

theorem isMetricName_of_ofStem? (h : ofStem? stem = some t) :
    isMetricName (declinedName stem) = true ∧ isMetricName (patternsName stem) = true ∧ t = ofStem stem := by
  unfold ofStem? at h
  split at h
  · rename_i hnames
    exact ⟨hnames.1, hnames.2, (Option.some.inj h).symm⟩
  · nomatch h

theorem tells_after (hdeclined : isMetricName (declinedName stem) = true)
    (hpatterns : isMetricName (patternsName stem) = true) (uses : List Use) :
    ((ofStem stem).after uses).Tells uses := by
  have hholds := holds_after stem uses
  have hstem : ((ofStem stem).after uses).stem = stem := stem_after _ _
  refine ⟨samples_expose ?_ ?_, perm_sortedCounters _, pairwise_sortedCounters hholds.nodup_series, hholds,
    hholds.mem_iff_iff_apart⟩
  · rwa [hstem]
  · rwa [hstem]

/-- **Expositions.** Whatever is done with two tallies, they have the same text if and only if they have the same
counters and the same number of patterns, unless numbers are rounded. The text has one sample for each counter,
in order of label and pattern, from which pattern and label are read as they are. -/
theorem exposition_tells {stem : String} {t : Tally} (h : ofStem? stem = some t) :
    (∀ uses uses', (t.after uses).IsExact → (t.after uses').IsExact →
      ((t.after uses).expose = (t.after uses').expose ↔
        (t.after uses).counters.Perm (t.after uses').counters ∧
          (t.after uses).patterns = (t.after uses').patterns)) ∧
    ∀ uses, (t.after uses).Tells uses := by
  obtain ⟨hdeclined, hpatterns, rfl⟩ := isMetricName_of_ofStem? h
  refine ⟨fun uses uses' hexact hexact' => ⟨fun heq => ?_, fun ⟨hperm, heq⟩ => ?_⟩,
    tells_after hdeclined hpatterns⟩
  · exact perm_of_expose_eq hdeclined hpatterns (stem_after _ _) (stem_after _ _) hexact hexact' heq
  · have hstem : ((ofStem stem).after uses).stem = ((ofStem stem).after uses').stem := by
      rw [stem_after, stem_after]
    exact expose_eq_of_perm hstem hperm (holds_after stem uses).nodup_series heq

/-- A pattern that looks like a line of its own, counted and read in either order. -/
theorem exposition_tells_escapes :
    let uses : List Use := [.record "a\"\n#" "get", .setPatterns 2, .read ⟨"\\", "HEAD"⟩]
    let uses' : List Use := [.read ⟨"\\", "HEAD"⟩, .setPatterns 2, .record "a\"\n#" "GET"]
    ((ofStem "x").after uses).expose = ((ofStem "x").after uses').expose ∧
      samples "x" ((ofStem "x").after uses).expose =
        [some (.declined ⟨"a\"\n#", "GET"⟩ "1"), some (.declined ⟨"\\", "HEAD"⟩ "0"),
          some (.patterns "2")] := by
  intro uses uses'
  have hstem : ofStem? "x" = some (ofStem "x") := by decide +kernel
  obtain ⟨hsame, htells⟩ := exposition_tells hstem
  have hexact : ((ofStem "x").after uses).IsExact := ⟨by decide +kernel, by decide +kernel⟩
  have hexact' : ((ofStem "x").after uses').IsExact := ⟨by decide +kernel, by decide +kernel⟩
  have hsorted : ((ofStem "x").after uses).sortedCounters = ((ofStem "x").after uses).counters :=
    List.mergeSort_of_pairwise (by decide +kernel)
  refine ⟨(hsame uses uses' hexact hexact').2 ⟨by decide +kernel, rfl⟩, ?_⟩
  refine (htells uses).samples.trans ?_
  rw [hsorted]
  decide +kernel

/-- Two series with the same hash have one line, with the texts of the first one and the count of both. -/
theorem not_line_for_each_series :
    let first : Series := ⟨"/api/v1/wp5yqai5ccivd", "GET"⟩
    let second : Series := ⟨"/api/v1/7y4x3nafv62qk", "GET"⟩
    let uses : List Use := [.record first.pattern "GET", .record second.pattern "GET"]
    let text := ((ofStem defaultStem).after uses).expose
    samples defaultStem text = [some (.declined first "2"), some (.patterns "0")] ∧
      ¬∀ s ∈ uses.filterMap Use.series?, ∃ value, some (.declined s value) ∈ samples defaultStem text := by
  intro first second uses text
  have hcounters : ((ofStem defaultStem).after uses).counters = [(first, 2)] := by decide +kernel
  have hsorted : ((ofStem defaultStem).after uses).sortedCounters = [(first, 2)] := by
    rw [sortedCounters, hcounters]
    exact List.mergeSort_singleton _
  have hsamples : samples defaultStem text = [some (.declined first "2"), some (.patterns "0")] := by
    have htells : ((ofStem defaultStem).after uses).Tells uses :=
      tells_after (by decide +kernel) (by decide +kernel) uses
    refine htells.samples.trans ?_
    rw [hsorted]
    decide +kernel
  refine ⟨hsamples, fun hall => ?_⟩
  obtain ⟨value, hmem⟩ := hall second (by decide +kernel)
  rw [hsamples] at hmem
  revert hmem
  simp [first, second]

end EndpointGate.Tally
