import EndpointGate.Proofs.Pattern.Literal
import Mathlib.Logic.Relation

/-!
# Repeated slashes

Of the slashes of a text a pattern and a path are matched by the segments between them, by whether one leads
and by whether one trails (`Alike`). Where there is a segment at all, a slash trails just if it is the last
character, so that the shape of the text decides (`SameShape.alike`). A run of slashes that becomes longer or
shorter leaves the shape as it is (`Stretches.sameShape`): patterns and paths can be written with any number
of slashes in a row (`ignores_slash_runs`).
-/

namespace EndpointGate.Pattern

/-- There is something between the slashes. -/
def HasSegment (s : String) : Prop := ∃ c ∈ s.toList, c ≠ '/'

/-- The texts start alike and end alike, with a slash or without one, and have the same segments. -/
structure SameShape (s t : String) : Prop where
  lead : LeadsWithSlash s ↔ LeadsWithSlash t
  last : s.toList.getLast? = some '/' ↔ t.toList.getLast? = some '/'
  parts : slashParts s = slashParts t

/-- The texts do not differ in anything that pattern and path are matched by. -/
structure Alike (s t : String) : Prop where
  lead : LeadsWithSlash s ↔ LeadsWithSlash t
  parts : slashParts s = slashParts t
  trail : TrailsWithSlash s ↔ TrailsWithSlash t

/-- A run of slashes in the one text has another length in the other. -/
def Stretches (s t : String) : Prop :=
  ∃ front back m n, 0 < m ∧ 0 < n ∧ s.toList = front ++ List.replicate m '/' ++ back ∧
    t.toList = front ++ List.replicate n '/' ++ back

/-- The texts differ in the lengths of their runs of slashes. -/
def SameButSlashRuns : String → String → Prop := Relation.ReflTransGen Stretches

variable {s t u pattern pattern' path path' : String} {front back : List Char} {m n : Nat}

/-! ## Texts that are matched alike -/

theorem Alike.refl (s : String) : Alike s s := ⟨Iff.rfl, rfl, Iff.rfl⟩

theorem Alike.symm (h : Alike s t) : Alike t s := ⟨h.lead.symm, h.parts.symm, h.trail.symm⟩

theorem Alike.describes (h : Alike pattern pattern') (h' : Alike path path') (hd : Describes pattern path) :
    Describes pattern' path' := by
  obtain ⟨hlead, htakes, htrail⟩ := hd
  rw [h.lead, h'.lead] at hlead
  rw [h.parts, h'.parts] at htakes
  rw [h.parts, h.trail, h'.trail] at htrail
  exact ⟨hlead, htakes, htrail⟩

theorem Alike.matches?_eq (h : Alike pattern pattern') (h' : Alike path path') :
    (compile pattern').matches? path' = (compile pattern).matches? path := by
  rw [Bool.eq_iff_iff, matches?_compile, matches?_compile]
  exact ⟨h.symm.describes h'.symm, h.describes h'⟩

/-! ## Texts of the same shape -/

theorem SameShape.refl (s : String) : SameShape s s := ⟨Iff.rfl, Iff.rfl, rfl⟩

theorem SameShape.trans (h : SameShape s t) (h' : SameShape t u) : SameShape s u :=
  ⟨h.lead.trans h'.lead, h.last.trans h'.last, h.parts.trans h'.parts⟩

theorem hasSegment_iff : HasSegment s ↔ slashParts s ≠ [] := by
  have hflatten := flatten_slashParts s
  constructor
  · rintro ⟨c, hc, hne⟩ hnil
    rw [hnil] at hflatten
    have hslash := List.filter_eq_nil_iff.1 hflatten.symm c hc
    simp [isSlash, hne] at hslash
  · intro hparts
    obtain ⟨part, hpart⟩ := List.exists_mem_of_ne_nil _ hparts
    have hne : part ≠ [] := by simpa using (List.mem_filter.1 hpart).2
    obtain ⟨c, hc⟩ := List.exists_mem_of_ne_nil _ hne
    have hmem : c ∈ (slashParts s).flatten := List.mem_flatten.2 ⟨part, hpart, hc⟩
    rw [hflatten, List.mem_filter] at hmem
    exact ⟨c, hmem.1, by simpa [isSlash] using hmem.2⟩

theorem SameShape.hasSegment (h : SameShape s t) (hs : HasSegment s) : HasSegment t := by
  rw [hasSegment_iff] at hs ⊢
  rwa [← h.parts]

/-- Beside a segment every last slash trails. -/
theorem trailsWithSlash_iff (h : HasSegment s) : TrailsWithSlash s ↔ s.toList.getLast? = some '/' := by
  refine ⟨And.right, fun hlast => ⟨?_, hlast⟩⟩
  obtain ⟨c, hc, hne⟩ := h
  obtain ⟨front, hfront⟩ := List.getLast?_eq_some_iff.1 hlast
  rw [← one_lt_length_iff hlast, hfront, List.length_append, List.length_singleton,
    Nat.lt_add_left_iff_pos, List.length_pos_iff]
  rintro rfl
  rw [hfront] at hc
  exact hne (List.mem_singleton.1 hc)

theorem SameShape.alike (h : SameShape s t) (hs : HasSegment s) : Alike s t where
  lead := h.lead
  parts := h.parts
  trail := (trailsWithSlash_iff hs).trans (h.last.trans (trailsWithSlash_iff (h.hasSegment hs)).symm)

/-! ## Runs of slashes -/

theorem pathParts_run (hm : 0 < m) (front back : List Char) :
    pathParts (front ++ List.replicate m '/' ++ back) = pathParts front ++ pathParts back := by
  obtain ⟨k, rfl⟩ := Nat.exists_eq_add_one.2 hm
  have hslash : isSlash '/' = true := rfl
  have hslashes : ∀ c ∈ List.replicate k '/', isSlash c = true := by
    intro c hc
    rw [List.eq_of_mem_replicate hc]
    rfl
  rw [List.replicate_succ, List.append_assoc, List.cons_append]
  unfold pathParts
  rw [Text.fields_append_cons hslash, Text.fields_append_of_ends hslashes]

theorem head?_run (hm : 0 < m) (front back : List Char) :
    (front ++ List.replicate m '/' ++ back).head? = (front ++ ['/']).head? := by
  obtain ⟨k, rfl⟩ := Nat.exists_eq_add_one.2 hm
  cases front <;> rfl

theorem getLast?_run (hm : 0 < m) (front back : List Char) :
    (front ++ List.replicate m '/' ++ back).getLast? = ('/' :: back).getLast? := by
  obtain ⟨k, rfl⟩ := Nat.exists_eq_add_one.2 hm
  rw [List.replicate_succ', ← List.append_assoc, List.append_assoc, List.singleton_append,
    List.getLast?_append_cons]

theorem Stretches.sameShape (h : Stretches s t) : SameShape s t := by
  obtain ⟨front, back, m, n, hm, hn, hs, ht⟩ := h
  refine ⟨?_, ?_, ?_⟩
  · unfold LeadsWithSlash
    rw [hs, ht, head?_run hm, head?_run hn]
  · rw [hs, ht, getLast?_run hm, getLast?_run hn]
  · rw [← pathParts_eq_slashParts, ← pathParts_eq_slashParts, hs, ht, pathParts_run hm, pathParts_run hn]

/-- Any number of runs may become longer or shorter. -/
theorem SameButSlashRuns.sameShape (h : SameButSlashRuns s t) : SameShape s t := by
  induction h with
  | refl => exact .refl s
  | tail _ hstep ih => exact ih.trans hstep.sameShape

/-- **Runs of slashes.** How many slashes there are in a row does not matter, in the pattern and in the path.
The verdict depends on the path by its shape alone. -/
theorem ignores_slash_runs :
    (∀ pattern pattern' path path', HasSegment pattern → HasSegment path →
      SameButSlashRuns pattern pattern' → SameButSlashRuns path path' →
      (compile pattern').matches? path' = (compile pattern).matches? path) ∧
    ∀ pattern path path', HasSegment path → SameShape path path' →
      (compile pattern).matches? path' = (compile pattern).matches? path := by
  constructor
  · intro pattern pattern' path path' hpattern hpath hruns hruns'
    exact (hruns.sameShape.alike hpattern).matches?_eq (hruns'.sameShape.alike hpath)
  · intro pattern path path' hpath hshape
    exact (Alike.refl pattern).matches?_eq (hshape.alike hpath)

/-- More slashes at the start of a pattern and behind its `**`, and inside and at the end of a path. -/
theorem ignores_slash_runs_around_any :
    SameButSlashRuns "/a/**/b/" "///a/**//b/" ∧ SameButSlashRuns "/a/x/y/b/" "/a/x//y/b///" ∧
      (compile "///a/**//b/").matches? "/a/x//y/b///" = (compile "/a/**/b/").matches? "/a/x/y/b/" ∧
      (compile "/a/**/b/").matches? "/a/x/y/b/" = true := by
  have hstart : Stretches "/a/**/b/" "///a/**/b/" :=
    ⟨[], "a/**/b/".toList, 1, 3, by decide, by decide, by decide, by decide⟩
  have hbehind : Stretches "///a/**/b/" "///a/**//b/" :=
    ⟨"///a/**".toList, "b/".toList, 1, 2, by decide, by decide, by decide, by decide⟩
  have hinside : Stretches "/a/x/y/b/" "/a/x//y/b/" :=
    ⟨"/a/x".toList, "y/b/".toList, 1, 2, by decide, by decide, by decide, by decide⟩
  have hend : Stretches "/a/x//y/b/" "/a/x//y/b///" :=
    ⟨"/a/x//y/b".toList, [], 1, 3, by decide, by decide, by decide, by decide⟩
  have hpattern : SameButSlashRuns "/a/**/b/" "///a/**//b/" := .tail (.single hstart) hbehind
  have hpath : SameButSlashRuns "/a/x/y/b/" "/a/x//y/b///" := .tail (.single hinside) hend
  refine ⟨hpattern, hpath, ?_, by decide⟩
  exact ignores_slash_runs.1 _ _ _ _ ⟨'a', by decide, by decide⟩ ⟨'a', by decide, by decide⟩ hpattern hpath

-- Among texts of slashes alone the length does matter.
example : (compile "/").matches? "/" = true ∧ (compile "/").matches? "//" = false := by decide

end EndpointGate.Pattern
