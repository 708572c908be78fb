import EndpointGate.Pattern.Basic
import EndpointGate.Proofs.Pattern.Segment
import EndpointGate.Proofs.Pattern.Walk
import EndpointGate.Proofs.Text.Runs

/-!
# What a pattern matches

`Describes` says which paths the text of a pattern describes, without compiling it: by the slash they
start with, by the segments between slashes, and by the slash they end with. `matches?_compile` says that
the compiled pattern matches just these paths.
-/

namespace EndpointGate.Pattern

/-! ## The reference -/

/-- The texts between the slashes, without the empty ones. -/
def slashParts (s : String) : List (List Char) := (s.toList.splitOn '/').filter (· ≠ [])

/-- The segments of a pattern text take the segments of a path: `**` any number of them, each other one a
segment that it reads. -/
inductive Takes : List (List Char) → List (List Char) → Prop
  | nil : Takes [] []
  | any (taken : List (List Char)) {ps qs : List (List Char)} (h : Takes ps qs) :
    Takes (['*', '*'] :: ps) (taken ++ qs)
  | one {p q : List Char} {ps qs : List (List Char)} (hp : p ≠ ['*', '*']) (hr : Segment.Reads p q)
    (h : Takes ps qs) : Takes (p :: ps) (q :: qs)

/-- The text starts with a slash. -/
def LeadsWithSlash (s : String) : Prop := s.toList.head? = some '/'

/-- The text is longer than one octet and ends with a slash. -/
def TrailsWithSlash (s : String) : Prop := 1 < s.utf8ByteSize ∧ s.toList.getLast? = some '/'

/-- The pattern text describes the path. -/
structure Describes (pattern path : String) : Prop where
  lead : LeadsWithSlash pattern ↔ LeadsWithSlash path
  takes : Takes (slashParts pattern) (slashParts path)
  trail : (slashParts pattern).getLast? = some ['*', '*'] ∨
    (TrailsWithSlash pattern ↔ TrailsWithSlash path)

/-! ## Slashes -/

theorem pathParts_eq_slashParts (s : String) : pathParts s.toList = slashParts s := by
  unfold pathParts Text.fields slashParts
  rw [Text.pieces_eq_splitOnP]
  refine List.filter_congr fun p _ => ?_
  cases p <;> rfl

theorem any_isSlash_iff {c : Option Char} : c.any isSlash = true ↔ c = some '/' := by
  cases c with
  | none => exact ⟨nofun, nofun⟩
  | some c => exact beq_iff_eq.trans (Option.some_inj).symm

theorem startsWithSlash_iff (s : String) : startsWithSlash s.toList = true ↔ LeadsWithSlash s :=
  any_isSlash_iff

/-- In front of a last slash there are characters exactly when there are octets. -/
theorem one_lt_length_iff {s : String} (h : s.toList.getLast? = some '/') :
    1 < s.toList.length ↔ 1 < s.utf8ByteSize := by
  obtain ⟨front, hfront⟩ := List.getLast?_eq_some_iff.1 h
  have hs : s = String.ofList front ++ "/" := by
    rw [← String.ofList_toList (s := s), hfront, String.ofList_append]
  have hone : "/".utf8ByteSize = 1 := rfl
  have hzero : (String.ofList front).utf8ByteSize = 0 ↔ front = [] := by
    rw [String.utf8ByteSize_eq_zero_iff, ← String.toList_inj, String.toList_ofList]
    rfl
  rw [hfront, List.length_append, hs, String.utf8ByteSize_append, hone, List.length_singleton,
    Nat.lt_add_left_iff_pos, Nat.lt_add_left_iff_pos, List.length_pos_iff, Nat.pos_iff_ne_zero]
  exact not_congr hzero.symm

theorem endsWithSlash_iff (s : String) : endsWithSlash s.toList = true ↔ TrailsWithSlash s := by
  unfold endsWithSlash TrailsWithSlash
  rw [Bool.and_eq_true, decide_eq_true_iff, any_isSlash_iff]
  exact and_congr_left one_lt_length_iff

/-! ## Segments in a row -/

theorem spans_anyPath_iff {rest : List Segment} {path : List (List Char)} :
    spans (.anyPath :: rest) path = true ↔
      ∃ taken left, path = taken ++ left ∧ spans rest left = true := by
  rw [spans_anyPath, List.any_eq_true]
  constructor
  · rintro ⟨left, hl, h⟩
    obtain ⟨taken, rfl⟩ := (List.mem_tails _ _).1 hl
    exact ⟨taken, left, rfl, h⟩
  · rintro ⟨taken, left, rfl, h⟩
    exact ⟨left, (List.mem_tails _ _).2 (List.suffix_append _ _), h⟩

/-- One `anyPath` matches what two in a row match. -/
theorem spans_cons (segment : Segment) (rest : List Segment) (path : List (List Char)) :
    spans (Segment.cons segment rest) path = spans (segment :: rest) path := by
  unfold Segment.cons
  split
  · rw [Bool.eq_iff_iff]
    refine Iff.trans ?_ spans_anyPath_iff.symm
    constructor
    · exact fun h => ⟨[], path, rfl, h⟩
    · rintro ⟨taken, left, rfl, h⟩
      obtain ⟨taken', left', rfl, hs⟩ := spans_anyPath_iff.1 h
      exact spans_anyPath_iff.2 ⟨taken ++ taken', left', (List.append_assoc _ _ _).symm, hs⟩
  · rfl

/-- The compiled segments match what the segments of the text take. -/
theorem spans_ofParts {ps qs : List (List Char)} :
    spans (Segment.ofParts ps) qs = true ↔ Takes ps qs := by
  constructor
  · intro h
    induction ps generalizing qs with
    | nil =>
      obtain rfl := List.isEmpty_iff.1 h
      exact .nil
    | cons p ps ih =>
      rw [Segment.ofParts_cons, spans_cons] at h
      by_cases hp : p = ['*', '*']
      · rw [Segment.ofText_eq_anyPath_iff.2 hp] at h
        obtain ⟨taken, left, rfl, hleft⟩ := spans_anyPath_iff.1 h
        exact hp ▸ .any taken (ih hleft)
      · have hseg : Segment.ofText p ≠ .anyPath := fun h => hp (Segment.ofText_eq_anyPath_iff.1 h)
        cases qs with
        | nil =>
          rw [spans_cons_nil hseg] at h
          exact absurd h nofun
        | cons q qs =>
          rw [spans_cons_cons hseg, Bool.and_eq_true] at h
          exact .one hp ((Segment.accepts_ofText hp).1 h.1) (ih h.2)
  · intro h
    induction h with
    | nil => rfl
    | any taken _ ih =>
      rw [Segment.ofParts_cons, spans_cons, Segment.ofText_eq_anyPath_iff.2 rfl]
      exact spans_anyPath_iff.2 ⟨taken, _, rfl, ih⟩
    | one hp hr _ ih =>
      have hseg := fun h => hp (Segment.ofText_eq_anyPath_iff.1 h)
      rw [Segment.ofParts_cons, spans_cons, spans_cons_cons hseg, ih, Bool.and_true]
      exact (Segment.accepts_ofText hp).2 hr

theorem getLast?_cons (segment : Segment) (rest : List Segment) :
    (Segment.cons segment rest).getLast? = (segment :: rest).getLast? := by
  unfold Segment.cons
  split
  · rw [List.getLast?_cons_cons]
  · rfl

theorem getLast?_ofParts (ps : List (List Char)) :
    (Segment.ofParts ps).getLast? = ps.getLast?.map Segment.ofText := by
  induction ps with
  | nil => rfl
  | cons p ps ih =>
    rw [Segment.ofParts_cons, getLast?_cons, List.getLast?_cons, ih, List.getLast?_cons]
    cases ps.getLast? <;> rfl

theorem endsOpen_compile (pattern : String) :
    (compile pattern).endsOpen = true ↔ (slashParts pattern).getLast? = some ['*', '*'] := by
  unfold endsOpen compile
  rw [beq_iff_eq, getLast?_ofParts, pathParts_eq_slashParts, Option.map_eq_some_iff]
  constructor
  · rintro ⟨p, hp, h⟩
    rw [hp, Segment.ofText_eq_anyPath_iff.1 h]
  · exact fun h => ⟨_, h, Segment.ofText_eq_anyPath_iff.2 rfl⟩

/-- **Patterns.** A compiled pattern matches the paths that its text describes. -/
theorem matches?_compile (pattern path : String) :
    (compile pattern).matches? path = true ↔ Describes pattern path := by
  have hlead : (startsWithSlash path.toList == (compile pattern).absolute) = true ↔
      (LeadsWithSlash pattern ↔ LeadsWithSlash path) := by
    rw [beq_iff_eq, Bool.eq_iff_iff, startsWithSlash_iff]
    exact (iff_congr Iff.rfl (startsWithSlash_iff pattern)).trans iff_comm
  have htakes : matchesParts (compile pattern).segments (pathParts path.toList) = true ↔
      Takes (slashParts pattern) (slashParts path) := by
    show matchesParts (Segment.ofParts (pathParts pattern.toList)) _ = true ↔ _
    rw [matchesParts_eq_spans, pathParts_eq_slashParts, pathParts_eq_slashParts]
    exact spans_ofParts
  have htrail : (endsWithSlash path.toList == (compile pattern).trailing) = true ↔
      (TrailsWithSlash pattern ↔ TrailsWithSlash path) := by
    rw [beq_iff_eq, Bool.eq_iff_iff, endsWithSlash_iff]
    exact (iff_congr Iff.rfl (endsWithSlash_iff pattern)).trans iff_comm
  unfold matches? matchesPath
  rw [Bool.and_eq_true, Bool.and_eq_true, Bool.or_eq_true, hlead, htakes, htrail, endsOpen_compile]
  constructor
  · rintro ⟨⟨h1, h2⟩, h3⟩
    exact ⟨h1, h2, h3⟩
  · rintro ⟨h1, h2, h3⟩
    exact ⟨⟨h1, h2⟩, h3⟩

end EndpointGate.Pattern
