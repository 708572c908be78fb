import EndpointGate.Pattern.Walk
import Mathlib.Data.List.Infix

/-!
# The walk finds what trying finds

`spans` tries for every `anyPath` each number of path segments, with nothing written down. The walk
answers the same (`matchesParts_eq_spans`).

The memo of a walk is `Sound` when each verdict in it is the one of `spans` for the rest of the pattern
and the rest of the path that its slot stands for. A visit `Decides` a function when on a sound memo it
gives the value of that function and leaves a sound memo; each part of the walk does
(`decides_reuse`, `decides_anyRest`, `decides_walk`).
-/

namespace EndpointGate.Pattern

/-! ## Trying -/

/-- The segments match the whole path: `anyPath` any number of path segments, each other one a path
segment it accepts. -/
def spans : List Segment → List (List Char) → Bool
  | [], path => path.isEmpty
  | .anyPath :: rest, path => path.tails.any (spans rest)
  | _ :: _, [] => false
  | segment :: rest, part :: parts => segment.accepts part && spans rest parts

theorem spans_anyPath (rest : List Segment) (path : List (List Char)) :
    spans (.anyPath :: rest) path = path.tails.any (spans rest) := by
  rw [spans]

theorem spans_cons_nil {segment : Segment} (h : segment ≠ .anyPath) (rest : List Segment) :
    spans (segment :: rest) [] = false := by
  rw [spans]
  exact h

theorem spans_cons_cons {segment : Segment} (h : segment ≠ .anyPath) (rest : List Segment)
    (part : List Char) (parts : List (List Char)) :
    spans (segment :: rest) (part :: parts) = (segment.accepts part && spans rest parts) := by
  rw [spans]
  exact h

/-- `anyPath` at the end takes whatever is left. -/
theorem spans_anyPath_nil (path : List (List Char)) : spans [.anyPath] path = true := by
  rw [spans_anyPath, List.any_eq_true]
  exact ⟨[], (List.mem_tails _ _).2 List.nil_suffix, rfl⟩

/-! ## Sound memos -/

section Memo

variable {segments : List Segment} {path : List (List Char)} {memo : Memo}

/-- The verdict that belongs into a slot. -/
def verdictAt (segments : List Segment) (path : List (List Char)) (slot : Nat) : Bool :=
  spans (segments.drop (slot / (path.length + 1))) (path.drop (slot % (path.length + 1)))

theorem verdictAt_slot {p s : Nat} (hs : s ≤ path.length) :
    verdictAt segments path (p * (path.length + 1) + s) =
      spans (segments.drop p) (path.drop s) := by
  have hlt : s < path.length + 1 := Nat.lt_succ_of_le hs
  unfold verdictAt
  rw [Nat.mul_add_mod_of_lt hlt, Nat.add_comm, Nat.add_mul_div_right _ _ (Nat.succ_pos _),
    Nat.div_eq_of_lt hlt, Nat.zero_add]

/-- Every verdict that is written down is right. -/
def Memo.Sound (segments : List Segment) (path : List (List Char)) (memo : Memo) : Prop :=
  ∀ slot known, memo.get? slot = some known → known = verdictAt segments path slot

theorem Memo.sound_empty (size : Nat) : (Memo.empty size).Sound segments path := by
  intro slot known h
  unfold Memo.get? Memo.empty at h
  rw [Array.getElem?_replicate] at h
  split at h <;> exact absurd h nofun

theorem Memo.get?_fill_ne (memo : Memo) {slot i : Nat} (verdict : Bool) (h : slot ≠ i) :
    (memo.fill slot verdict).get? i = memo.get? i := by
  unfold Memo.get? Memo.fill
  rw [Array.getElem?_setIfInBounds_ne h]

theorem Memo.eq_of_get?_fill {slot : Nat} {verdict known : Bool}
    (h : (memo.fill slot verdict).get? slot = some known) : known = verdict := by
  unfold Memo.get? Memo.fill at h
  rw [Array.getElem?_setIfInBounds_self] at h
  split at h
  · exact (Option.some.inj h).symm
  · exact absurd h nofun

theorem Memo.Sound.fill (h : memo.Sound segments path) {slot : Nat} {verdict : Bool}
    (hv : verdict = verdictAt segments path slot) : (memo.fill slot verdict).Sound segments path := by
  intro i known hi
  by_cases hsi : slot = i
  · subst hsi
    exact (Memo.eq_of_get?_fill hi).trans hv
  · rw [memo.get?_fill_ne verdict hsi] at hi
    exact h i known hi

/-! ## Visits -/

/-- On a sound memo the result is `verdict`, and the memo it leaves is sound. -/
def Gives (segments : List Segment) (path : List (List Char)) (verdict : Bool)
    (result : Bool × Memo) : Prop :=
  result.1 = verdict ∧ result.2.Sound segments path

/-- From every place of the path the visit gives the value of `f` on the rest of the path. -/
def Decides (segments : List Segment) (path : List (List Char)) (visit : Visit)
    (f : List (List Char) → Bool) : Prop :=
  ∀ s memo, s ≤ path.length → memo.Sound segments path →
    Gives segments path (f (path.drop s)) (visit (path.drop s) s memo)

theorem gives_reuse (h : memo.Sound segments path) {slot : Nat} {work : Memo → Bool × Memo}
    (hwork : Gives segments path (verdictAt segments path slot) (work memo)) :
    Gives segments path (verdictAt segments path slot) (memo.reuse slot work) := by
  unfold Memo.reuse
  cases hk : memo.get? slot with
  | some known => exact ⟨h slot known hk, h⟩
  | none => exact ⟨hwork.1, hwork.2.fill hwork.1⟩

/-- Looking a verdict up first decides the same. -/
theorem decides_reuse {p : Nat} {rest : List Segment} (hp : segments.drop p = rest) {work : Visit}
    (hwork : Decides segments path work (spans rest)) :
    Decides segments path
      (fun left s memo => memo.reuse (p * (path.length + 1) + s) (work left s)) (spans rest) := by
  intro s memo hs hm
  have hslot : verdictAt segments path (p * (path.length + 1) + s) =
      spans (segments.drop p) (path.drop s) := verdictAt_slot hs
  rw [hp] at hslot
  have hgives := hwork s memo hs hm
  rw [← hslot] at hgives ⊢
  exact gives_reuse hm hgives

theorem decides_anyRest {visit : Visit} {f : List (List Char) → Bool}
    (h : Decides segments path visit f) :
    Decides segments path (anyRest visit) fun left => left.tails.any f := by
  intro s memo hs hm
  -- the induction is on the path that is left
  obtain ⟨n, hn⟩ := Nat.exists_eq_add_of_le hs
  induction n generalizing s memo with
  | zero =>
    have hnil : path.drop s = [] := List.drop_eq_nil_of_le (by omega)
    have hgives := h s memo hs hm
    rw [hnil] at hgives ⊢
    show Gives segments path (([] : List (List Char)).tails.any f) _
    rw [List.tails, List.any_cons, List.any_nil, Bool.or_false, anyRest]
    exact hgives
  | succ n ih =>
    have hcons := List.drop_eq_getElem_cons (l := path) (i := s) (by omega)
    obtain ⟨h1, h2⟩ := h s memo hs hm
    have hlater := ih (s + 1) (visit (path.drop s) s memo).2 (by omega) h2 (by omega)
    rw [hcons] at h1 h2 hlater ⊢
    show Gives segments path ((path[s] :: path.drop (s + 1)).tails.any f) _
    rw [List.tails, List.any_cons, anyRest, ← h1]
    generalize visit (path[s] :: path.drop (s + 1)) s memo = result at h2 hlater ⊢
    obtain ⟨verdict, after⟩ := result
    cases verdict with
    | true => exact ⟨rfl, h2⟩
    | false => exact hlater

/-- A visit that takes one path segment, if the segment accepts it, and goes on behind it. -/
def takeOne (segment : Segment) (visit : Visit) : Visit
  | [], _, memo => (false, memo)
  | part :: parts, s, memo =>
    if segment.accepts part then visit parts (s + 1) memo else (false, memo)

theorem decides_takeOne {segment : Segment} (hseg : segment ≠ .anyPath) {visit : Visit}
    {rest : List Segment} (h : Decides segments path visit (spans rest)) :
    Decides segments path (takeOne segment visit) (spans (segment :: rest)) := by
  intro s memo hs hm
  obtain rfl | hlt := Nat.eq_or_lt_of_le hs
  · rw [List.drop_length, spans_cons_nil hseg]
    exact ⟨rfl, hm⟩
  · have hlater := h (s + 1) memo hlt hm
    rw [List.drop_eq_getElem_cons hlt, spans_cons_cons hseg]
    by_cases ha : segment.accepts path[s] = true
    · rw [takeOne, if_pos ha, ha, Bool.true_and]
      exact hlater
    · rw [takeOne, if_neg ha, Bool.eq_false_iff.2 ha, Bool.false_and]
      exact ⟨rfl, hm⟩

/-! ## The walk -/

theorem walk_anyPath (width : Nat) (next : Segment) (rest : List Segment) (p : Nat) :
    walk width (.anyPath :: next :: rest) p = fun left s memo =>
      memo.reuse (p * width + s) (anyRest (walk width (next :: rest) (p + 1)) left s) :=
  rfl

theorem walk_cons {segment : Segment} (h : segment ≠ .anyPath) (width : Nat) (rest : List Segment)
    (p : Nat) :
    walk width (segment :: rest) p = fun left s memo =>
      memo.reuse (p * width + s) (takeOne segment (walk width rest (p + 1)) left s) := by
  funext left s memo
  cases segment with
  | anyPath => exact absurd rfl h
  | literal text => cases left <;> rfl
  | glob tokens => cases left <;> rfl

theorem decides_walk {p : Nat} {rest : List Segment} (hp : segments.drop p = rest) :
    Decides segments path (walk (path.length + 1) rest p) (spans rest) := by
  induction rest generalizing p with
  | nil => exact decides_reuse hp fun s memo _ hm => ⟨rfl, hm⟩
  | cons segment rest ih =>
    have hnext : segments.drop (p + 1) = rest := by rw [← List.drop_drop, hp]; rfl
    by_cases hseg : segment = .anyPath
    · subst hseg
      cases rest with
      | nil => exact decides_reuse hp fun s memo _ hm => ⟨(spans_anyPath_nil _).symm, hm⟩
      | cons next rest =>
        rw [walk_anyPath]
        refine decides_reuse hp fun s memo hs hm => ?_
        rw [spans_anyPath]
        exact decides_anyRest (ih hnext) s memo hs hm
    · rw [walk_cons hseg]
      exact decides_reuse hp (decides_takeOne hseg (ih hnext))

end Memo

/-- **Walking.** The walk answers what trying answers. -/
theorem matchesParts_eq_spans (segments : List Segment) (path : List (List Char)) :
    matchesParts segments path = spans segments path :=
  (decides_walk (p := 0) rfl 0 _ (Nat.zero_le _) (Memo.sound_empty _)).1

end EndpointGate.Pattern
