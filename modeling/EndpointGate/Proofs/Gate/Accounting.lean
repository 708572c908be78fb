import EndpointGate.Gate
import EndpointGate.Proofs.Registry.Insertion
import EndpointGate.Proofs.Tally.Label
import EndpointGate.Proofs.Tally.Recording

/-!
# What a gate counts

A gate is asked to evaluate requests, to look up paths and to report routes, in any order. One inquiry counts
one series if it is a request that is declined, and nothing otherwise (`reply_eq`); the registry stays what it
is, so that a run counts the series of its declined requests (`run_eq`). `accounts_of_run` tells from this
what a run makes of the counters, of their sum and of the number of patterns. As counters are found by a hash,
one counts the requests of its own pattern and label only where no other series of the run has its hash.
-/

namespace EndpointGate

/-- What a gate can be asked. -/
inductive Inquiry where
  | evaluate (method uri : String)
  | lookup (path method : String)
  | disabledRoutes (routes : List Route)
  | report (routes : List Route)
  deriving DecidableEq, Repr

/-- What a gate replies. -/
inductive Reply where
  | decided (d : Decision)
  | found (e : Option Entry)
  /-- The lines on disabled routes, and what is logged. -/
  | listed (lines : List String) (events : List Event)
  deriving DecidableEq, Repr

/-- A reply to an inquiry. -/
abbrev Exchange := Inquiry × Reply

namespace Exchange

/-- The inquiry is a request that is declined. -/
def isDecline : Exchange → Bool
  | (.evaluate _ _, .decided (.decline _)) => true
  | _ => false

/-- The inquiry is a request that is declined with this pattern, and its method has this label. -/
def isDeclineAs (pattern label : String) : Exchange → Bool
  | (.evaluate method _, .decided (.decline d)) => d.pattern = pattern ∧ Tally.IsLabelOf label method
  | _ => false

/-- The inquiry is a request that is declined, and its series has this key. -/
def isDeclineUnder (key : UInt64) : Exchange → Bool
  | (.evaluate method _, .decided (.decline d)) => Series.key ⟨d.pattern, Tally.labelOf method⟩ = key
  | _ => false

/-- The series that is counted. -/
def series? : Exchange → Option Series
  | (.evaluate method _, .decided (.decline d)) => some ⟨d.pattern, Tally.labelOf method⟩
  | _ => none

end Exchange

namespace Gate

def reply (g : Gate) : Inquiry → Reply × Gate
  | .evaluate method uri => (.decided (g.evaluate method uri).1, (g.evaluate method uri).2)
  | .lookup path method => (.found (g.registry.lookup path method), g)
  | .disabledRoutes routes => (.listed (g.disabledRoutes routes) (g.findingEvents routes), g)
  | .report routes => (.listed (g.disabledRoutes routes) (g.reportEvents routes), g)

/-- Asks a gate one thing after another. -/
def run (g : Gate) : List Inquiry → List Exchange × Gate
  | [] => ([], g)
  | q :: qs => ((q, (g.reply q).1) :: ((g.reply q).2.run qs).1, ((g.reply q).2.run qs).2)

/-- What a run makes of the tally. -/
structure Accounts (g : Gate) (qs : List Inquiry) : Prop where
  /-- The counter of a series grows by the declined requests that are counted under its key. -/
  hashed : ∀ s : Series, (g.run qs).2.tally.count s =
    g.tally.count s + UInt64.ofNat ((g.run qs).1.countP (Exchange.isDeclineUnder s.key))
  /-- The counter of a pattern and a label grows by the requests that are declined with both, if no other series
  of the run has its key. -/
  counted : ∀ pattern label,
    Series.IsAlone ⟨pattern, label⟩ ((g.run qs).1.filterMap Exchange.series?) →
      (g.run qs).2.tally.count ⟨pattern, label⟩ = g.tally.count ⟨pattern, label⟩ +
        UInt64.ofNat ((g.run qs).1.countP (Exchange.isDeclineAs pattern label))
  /-- All counters together grow by the requests that are declined. -/
  total : (g.run qs).2.tally.total =
    g.tally.total + UInt64.ofNat ((g.run qs).1.countP Exchange.isDecline)
  /-- The order of the inquiries does not matter to any counter, nor to the texts of the counters if no two series
  of the run have the same key. -/
  order : ∀ qs', qs.Perm qs' →
    (∀ s, (g.run qs').2.tally.count? s = (g.run qs).2.tally.count? s) ∧
      (Series.Apart ((g.run qs).1.filterMap Exchange.series?) →
        (g.run qs').2.tally.find? = (g.run qs).2.tally.find?)
  /-- New counters are those of a pattern in the registry and a label, at most ten for each entry. -/
  created : ∃ new : List Series,
    (g.run qs).2.tally.counters.map (·.1) = g.tally.counters.map (·.1) ++ new ∧ new.Nodup ∧
      (∀ s ∈ new, s.pattern ∈ g.registry.entries.map (·.text) ∧ s.label ∈ Tally.labels) ∧
      new.length ≤ 10 * g.registry.size
  patterns : (g.run qs).2.tally.patterns = g.tally.patterns

variable {g : Gate} {q : Inquiry} {qs qs' : List Inquiry}

/-! ## One inquiry -/

theorem tally_evaluate (g : Gate) (method uri : String) :
    (g.evaluate method uri).2.tally =
      g.tally.recordAll (Exchange.series? (.evaluate method uri, .decided (g.evaluate method uri).1)).toList := by
  show (g.registry.judge method uri).tallyIn g.tally =
    g.tally.recordAll (Exchange.series? (.evaluate method uri, .decided (g.registry.judge method uri))).toList
  unfold Registry.judge
  cases g.registry.lookup (uriPath uri) (Text.asciiUppercase method) with
  | none => rfl
  | some e =>
    show g.tally.record e.text (Text.asciiUppercase method) =
      g.tally.recordAll [⟨e.text, Tally.labelOf method⟩]
    unfold Tally.record
    rw [Tally.labelOf_asciiUppercase]
    rfl

/-- A reply leaves a gate as it is, but for the series that is counted. -/
theorem reply_eq (g : Gate) (q : Inquiry) :
    (g.reply q).2 = { g with tally := g.tally.recordAll (Exchange.series? (q, (g.reply q).1)).toList } := by
  cases q with
  | evaluate method uri =>
    show (g.evaluate method uri).2 = { g with tally := _ }
    have htally := tally_evaluate g method uri
    show Gate.mk g.registry (g.evaluate method uri).2.tally = _
    rw [htally]
    rfl
  | lookup path method => rfl
  | disabledRoutes routes => rfl
  | report routes => rfl

/-- What is replied does not depend on the tally. -/
theorem reply_with_tally (g : Gate) (t : Tally) (q : Inquiry) :
    (reply { g with tally := t } q).1 = (g.reply q).1 := by
  cases q <;> rfl

theorem tally_reply_of_not_isDecline (h : Exchange.isDecline (q, (g.reply q).1) = false) :
    (g.reply q).2.tally = g.tally := by
  rw [reply_eq]
  cases hx : Exchange.series? (q, (g.reply q).1) with
  | none => rfl
  | some s =>
    exfalso
    revert h hx
    generalize (g.reply q).1 = a
    cases q <;> rcases a with (_ | _) | _ | _ <;> simp [Exchange.isDecline, Exchange.series?]

/-! ## Runs -/

theorem fst_run (g : Gate) (qs : List Inquiry) : (g.run qs).1 = qs.map fun q => (q, (g.reply q).1) := by
  induction qs generalizing g with
  | nil => rfl
  | cons q qs ih =>
    show (q, (g.reply q).1) :: ((g.reply q).2.run qs).1 = _
    rw [ih, reply_eq]
    simp only [reply_with_tally, List.map_cons]

theorem run_eq (g : Gate) (qs : List Inquiry) :
    (g.run qs).2 = { g with tally := g.tally.recordAll ((g.run qs).1.filterMap Exchange.series?) } := by
  induction qs generalizing g with
  | nil => rfl
  | cons q qs ih =>
    show ((g.reply q).2.run qs).2 = Gate.mk g.registry
      (g.tally.recordAll (((q, (g.reply q).1) :: ((g.reply q).2.run qs).1).filterMap Exchange.series?))
    rw [ih, List.filterMap_cons]
    generalize ((g.reply q).2.run qs).1 = xs
    rw [reply_eq]
    cases Exchange.series? (q, (g.reply q).1) <;> rfl

/-! ## The series of a run -/

theorem label_mem_labels {x : Exchange} {s : Series} (h : x.series? = some s) : s.label ∈ Tally.labels := by
  obtain ⟨q, a⟩ := x
  revert h
  cases q <;> rcases a with (_ | _) | _ | _ <;> simp [Exchange.series?]
  rintro rfl
  exact Tally.labelOf_mem_labels _

theorem isSome_series? (x : Exchange) : x.series?.isSome = x.isDecline := by
  obtain ⟨q, a⟩ := x
  cases q <;> rcases a with (_ | _) | _ | _ <;> rfl

theorem isDeclineUnder_eq (key : UInt64) (x : Exchange) :
    x.isDeclineUnder key = x.series?.any (·.key == key) := by
  obtain ⟨q, a⟩ := x
  cases q <;> rcases a with (_ | _) | _ | _ <;> rfl

theorem isDeclineAs_iff {pattern label : String} {x : Exchange} :
    x.isDeclineAs pattern label = true ↔ x.series? = some ⟨pattern, label⟩ := by
  obtain ⟨q, a⟩ := x
  cases q <;> rcases a with (_ | _) | _ | _ <;>
    simp [Exchange.isDeclineAs, Exchange.series?, Tally.labelOf_eq_iff]

theorem pattern_mem_of_series? {s : Series} (h : Exchange.series? (q, (g.reply q).1) = some s) :
    s.pattern ∈ g.registry.entries.map (·.text) := by
  cases q with
  | evaluate method uri =>
    revert h
    show Exchange.series? (.evaluate method uri, .decided (g.registry.judge method uri)) = some s → _
    unfold Registry.judge
    cases he : g.registry.lookup (uriPath uri) (Text.asciiUppercase method) with
    | none => nofun
    | some e =>
      rintro ⟨⟩
      exact List.mem_map_of_mem (List.mem_of_find?_eq_some he)
  | lookup path method => nomatch h
  | disabledRoutes routes => nomatch h
  | report routes => nomatch h

/-- The series that a gate can count. -/
def possibleSeries (g : Gate) : List Series :=
  g.registry.entries.flatMap fun e => Tally.labels.map fun label => ⟨e.text, label⟩

theorem length_possibleSeries (g : Gate) : g.possibleSeries.length = 10 * g.registry.size := by
  unfold possibleSeries Registry.size
  induction g.registry.entries with
  | nil => rfl
  | cons e es ih =>
    rw [List.flatMap_cons, List.length_append, ih, List.length_map, List.length_cons]
    have hlabels : Tally.labels.length = 10 := rfl
    omega

theorem mem_possibleSeries {s : Series} :
    s ∈ g.possibleSeries ↔ s.pattern ∈ g.registry.entries.map (·.text) ∧ s.label ∈ Tally.labels := by
  unfold possibleSeries
  rw [List.mem_flatMap, List.mem_map]
  constructor
  · rintro ⟨e, he, hs⟩
    obtain ⟨label, hlabel, rfl⟩ := List.mem_map.1 hs
    exact ⟨⟨e, he, rfl⟩, hlabel⟩
  · rintro ⟨⟨e, he, hpattern⟩, hlabel⟩
    refine ⟨e, he, List.mem_map.2 ⟨s.label, hlabel, ?_⟩⟩
    cases s
    cases hpattern
    rfl

theorem series_run_subset (g : Gate) (qs : List Inquiry) :
    (g.run qs).1.filterMap Exchange.series? ⊆ g.possibleSeries := by
  intro s hs
  obtain ⟨x, hx, hsome⟩ := List.mem_filterMap.1 hs
  rw [fst_run] at hx
  obtain ⟨q, -, rfl⟩ := List.mem_map.1 hx
  exact mem_possibleSeries.2 ⟨pattern_mem_of_series? hsome, label_mem_labels hsome⟩

/-! ## Accounting -/

theorem series_run_perm (g : Gate) (h : qs.Perm qs') :
    ((g.run qs).1.filterMap Exchange.series?).Perm ((g.run qs').1.filterMap Exchange.series?) := by
  rw [fst_run, fst_run]
  exact (h.map _).filterMap _

/-- Where a series is alone, the requests under its key are those with its pattern and label. -/
theorem countP_isDeclineUnder {xs : List Exchange} {pattern label : String}
    (h : Series.IsAlone ⟨pattern, label⟩ (xs.filterMap Exchange.series?)) :
    xs.countP (Exchange.isDeclineUnder (Series.key ⟨pattern, label⟩)) =
      xs.countP (Exchange.isDeclineAs pattern label) := by
  apply List.countP_congr
  intro x hx
  rw [isDeclineUnder_eq, isDeclineAs_iff, Option.any_eq_true]
  constructor
  · rintro ⟨s, hs, hkey⟩
    rw [hs, h s (List.mem_filterMap.2 ⟨x, hx, hs⟩) (beq_iff_eq.1 hkey)]
  · intro hs
    exact ⟨_, hs, beq_self_eq_true _⟩

theorem exists_created_run (g : Gate) (qs : List Inquiry) :
    ∃ new : List Series,
      (g.run qs).2.tally.counters.map (·.1) = g.tally.counters.map (·.1) ++ new ∧ new.Nodup ∧
        (∀ s ∈ new, s.pattern ∈ g.registry.entries.map (·.text) ∧ s.label ∈ Tally.labels) ∧
        new.length ≤ 10 * g.registry.size := by
  obtain ⟨new, hmap, hnodup, -, hsub⟩ :=
    Tally.exists_created g.tally ((g.run qs).1.filterMap Exchange.series?)
  have hpossible : new ⊆ g.possibleSeries := fun s hs => series_run_subset g qs (hsub hs)
  have hnew : new.Nodup := hnodup.of_map _
  refine ⟨new, ?_, hnew, fun s hs => mem_possibleSeries.1 (hpossible hs), ?_⟩
  · rw [run_eq]
    exact hmap
  · rw [← length_possibleSeries]
    exact (List.subperm_of_subset hnew hpossible).length_le

theorem count_run (g : Gate) (qs : List Inquiry) (s : Series) :
    (g.run qs).2.tally.count s =
      g.tally.count s + UInt64.ofNat ((g.run qs).1.countP (Exchange.isDeclineUnder s.key)) := by
  have hcount : ((g.run qs).1.filterMap Exchange.series?).countP (·.key == s.key) =
      (g.run qs).1.countP (Exchange.isDeclineUnder s.key) := by
    rw [List.countP_filterMap]
    apply List.countP_congr
    intro x _
    rw [isDeclineUnder_eq]
    cases x.series? <;> rfl
  rw [← hcount, ← Tally.count_recordAll, run_eq]

theorem accounts (g : Gate) (qs : List Inquiry) : g.Accounts qs where
  hashed := count_run g qs
  counted pattern label halone := by rw [count_run, countP_isDeclineUnder halone]
  total := by
    have hcount : ((g.run qs).1.filterMap Exchange.series?).length = (g.run qs).1.countP Exchange.isDecline := by
      rw [List.length_filterMap_eq_countP]
      apply List.countP_congr
      intro x _
      rw [isSome_series?]
    rw [← hcount, ← Tally.total_recordAll, run_eq]
  order qs' h := by
    rw [run_eq, run_eq]
    refine ⟨fun s => ?_, fun hapart => ?_⟩
    · exact (Tally.count?_recordAll_perm g.tally (series_run_perm g h) s).symm
    · exact (Tally.find?_recordAll_perm g.tally (series_run_perm g h) hapart).symm
  created := exists_created_run g qs
  patterns := by
    rw [run_eq]
    rfl

/-- **Accounting.** A run counts the requests that it declines and nothing else, each under the hash of its
pattern and the label of its method, whatever has been counted before; the number of patterns stays that of the
declared texts. -/
theorem accounts_of_run :
    (∀ (ds : List Declaration) (tally : Tally) (qs : List Inquiry),
      (ofTally (Registry.empty.declare ds) tally).Accounts qs ∧
        ((ofTally (Registry.empty.declare ds) tally).run qs).2.tally.patterns =
          Int64.ofNat (Registry.texts ds).toFinset.card) ∧
    ∀ (g : Gate) (q : Inquiry),
      Exchange.isDecline (q, (g.reply q).1) = false → (g.reply q).2.tally = g.tally := by
  refine ⟨fun ds tally qs => ?_, fun g q => tally_reply_of_not_isDecline⟩
  have h := accounts (ofTally (Registry.empty.declare ds) tally) qs
  have hrecords : (Registry.empty.declare ds).Records ds := Registry.records_empty.declare ds
  refine ⟨h, ?_⟩
  rw [h.patterns]
  show (UInt64.ofNat (Registry.empty.declare ds).size).toInt64 = _
  rw [hrecords.size_eq, UInt64.toInt64_ofNat']

/-- Two requests under one pattern, and one that is declined by another pattern with a label of its own. -/
theorem accounts_of_run_apart :
    let g := ofTally (Registry.empty.declare [⟨"/a/*", .any⟩, ⟨"/b", .only ["PURGE"]⟩])
      (Tally.ofStem Tally.defaultStem)
    let qs : List Inquiry :=
      [.evaluate "get" "/a/1?x=1", .evaluate "PURGE" "/b", .lookup "/a/1" "GET", .evaluate "GET" "/a/2",
        .evaluate "GET" "/b"]
    (g.run qs).2.tally.count ⟨"/a/*", "GET"⟩ = g.tally.count ⟨"/a/*", "GET"⟩ + 2 ∧
      (g.run qs).2.tally.count ⟨"/b", "OTHER"⟩ = g.tally.count ⟨"/b", "OTHER"⟩ + 1 ∧
      (g.run qs).2.tally.total = g.tally.total + 3 ∧ (g.run qs).2.tally.patterns = 2 := by
  intro g qs
  obtain ⟨h, hpatterns⟩ := accounts_of_run.1 [⟨"/a/*", .any⟩, ⟨"/b", .only ["PURGE"]⟩]
    (Tally.ofStem Tally.defaultStem) qs
  refine ⟨(h.counted "/a/*" "GET" ?_).trans ?_, (h.counted "/b" "OTHER" ?_).trans ?_, h.total.trans ?_,
    hpatterns.trans ?_⟩ <;> decide +kernel

/-- Two patterns that have the same hash with a label behind them: a request for each of them is counted, both
under the first one. -/
theorem not_counted_colliding :
    let first := "/api/v1/wp5yqai5ccivd"
    let second := "/api/v1/7y4x3nafv62qk"
    let g := ofTally (Registry.empty.declare [⟨first, .any⟩, ⟨second, .any⟩]) (Tally.ofStem Tally.defaultStem)
    let qs : List Inquiry := [.evaluate "GET" first, .evaluate "GET" second]
    (g.run qs).1.countP (Exchange.isDeclineAs first "GET") = 1 ∧
      (g.run qs).2.tally.count ⟨first, "GET"⟩ ≠ g.tally.count ⟨first, "GET"⟩ + UInt64.ofNat 1 := by
  decide +kernel

end Gate

end EndpointGate
