import EndpointGate.Proofs.Pattern.Walk

/-!
# Runs of a walk

Here a walk goes step by step. It comes to a pair of positions and finds the verdict in the memo or begins
to work it out, and it hands each verdict to the pair that waits for it; a log tells what it does with the
memo. Steps leave no choice (`Step.unique`). From each pair of positions a run of them comes to the verdict
and the memo of the walk from there (`retraces_walk`), and so from the start to the end of the whole walk
(`moves_finish`).
-/

namespace EndpointGate.Pattern

variable (segments : List Segment) (path : List (List Char))

/-- The slot of a pair of positions. -/
abbrev slotOf (p s : Nat) : Nat := p * (path.length + 1) + s

/-- What trying finds for the rest of the pattern and the rest of the path. -/
abbrev spansFrom (p s : Nat) : Bool := spans (segments.drop p) (path.drop s)

namespace Walk

/-! ## Steps -/

/-- A pair of positions in work. For an `anyPath` with segments behind it, `tried` is the place of the path
from which they are being tried. -/
structure Work where
  p : Nat
  s : Nat
  tried : Option Nat
  deriving DecidableEq, Repr

/-- The place to try next, after a failure and before the end of the path. -/
def Work.retry? (w : Work) (verdict : Bool) : Option Nat :=
  match w.tried, verdict with
  | some k, false => if k < path.length then some (k + 1) else none
  | _, _ => none

/-- What a walk is about to do. -/
inductive Task where
  /-- To come to a pair of positions. -/
  | visit (p s : Nat)
  /-- To hand a verdict to the pair that waits for it. -/
  | answer (verdict : Bool)
  deriving DecidableEq, Repr

/-- A moment of a walk. The pair in front of `work` waits for the next verdict. -/
structure Moment where
  task : Task
  work : List Work
  memo : Memo
  deriving DecidableEq, Repr

/-- A use of the memo. -/
inductive Access where
  /-- The verdict was there. -/
  | found (slot : Nat)
  /-- There was none, and work on it begins. -/
  | begun (slot : Nat)
  /-- The verdict was written down. -/
  | filled (slot : Nat)
  deriving DecidableEq, Repr

def Access.slot : Access → Nat
  | .found slot | .begun slot | .filled slot => slot

/-- The slots on which work has begun, in order. -/
def begun (log : List Access) : List Nat :=
  log.filterMap fun
    | .begun slot => some slot
    | _ => none

@[simp] theorem begun_append (log more : List Access) :
    begun (log ++ more) = begun log ++ begun more :=
  List.filterMap_append

/-- Nothing is in work, and every slot is empty. -/
def Moment.start : Moment := ⟨.visit 0 0, [], .empty ((segments.length + 1) * (path.length + 1))⟩

/-- The walk from a pair of positions has its verdict and leaves its memo. -/
def Moment.answered (now : Moment) (p s : Nat) : Moment :=
  let result := walk (path.length + 1) (segments.drop p) p (path.drop s) s now.memo
  ⟨.answer result.1, now.work, result.2⟩

/-- The whole walk has its verdict and leaves its memo. -/
def Moment.finish : Moment :=
  ⟨.answer (matchesParts segments path), [],
    (walk (path.length + 1) segments 0 path 0 (Moment.start segments path).memo).2⟩

/-- What the work on a pair of positions begins with: the place that is tried first, if there is a choice, and
the task. -/
def enter (p s : Nat) : Option Nat × Task :=
  match segments[p]? with
  | none => (none, .answer (s == path.length))
  | some .anyPath => if p + 1 = segments.length then (none, .answer true) else (some s, .visit (p + 1) s)
  | some segment =>
    match path[s]? with
    | none => (none, .answer false)
    | some part => (none, if segment.accepts part then .visit (p + 1) (s + 1) else .answer false)

/-- A step from one moment to the next, and what it does with the memo. When nothing waits for a verdict, it
is that of the walk, and no step follows. -/
inductive Step : Moment → List Access → Moment → Prop
  | found {p s : Nat} {work : List Work} {memo : Memo} {known : Bool}
    (h : memo.get? (slotOf path p s) = some known) :
    Step ⟨.visit p s, work, memo⟩ [.found (slotOf path p s)] ⟨.answer known, work, memo⟩
  | begun {p s : Nat} {work : List Work} {memo : Memo} (h : memo.get? (slotOf path p s) = none) :
    Step ⟨.visit p s, work, memo⟩ [.begun (slotOf path p s)]
      ⟨(enter segments path p s).2, ⟨p, s, (enter segments path p s).1⟩ :: work, memo⟩
  | again {w : Work} {work : List Work} {memo : Memo} {verdict : Bool} {k : Nat}
    (h : w.retry? path verdict = some k) :
    Step ⟨.answer verdict, w :: work, memo⟩ []
      ⟨.visit (w.p + 1) k, { w with tried := some k } :: work, memo⟩
  | filled {w : Work} {work : List Work} {memo : Memo} {verdict : Bool}
    (h : w.retry? path verdict = none) :
    Step ⟨.answer verdict, w :: work, memo⟩ [.filled (slotOf path w.p w.s)]
      ⟨.answer verdict, work, memo.fill (slotOf path w.p w.s) verdict⟩

/-- Steps take a walk from one moment to the other; the log tells what they do with the memo. -/
inductive Moves : List Access → Moment → Moment → Prop
  | refl (now : Moment) : Moves [] now now
  | step {new log : List Access} {now next last : Moment} (h : Step segments path now new next)
    (hrest : Moves log next last) : Moves (new ++ log) now last

variable {segments path} {log more new : List Access} {now next last : Moment} {work : List Work}
  {memo : Memo} {p s k : Nat} {verdict : Bool}

/-- At the end of the path there is nothing more to try. -/
theorem retry?_of_le (hk : path.length ≤ k) : Work.retry? path ⟨p, s, some k⟩ verdict = none := by
  cases verdict with
  | true => rfl
  | false => exact if_neg (Nat.not_lt_of_le hk)

theorem retry?_of_lt (hk : k < path.length) :
    Work.retry? path ⟨p, s, some k⟩ false = some (k + 1) :=
  if_pos hk

/-- A step leaves no choice. -/
theorem Step.unique (h : Step segments path now new next) (h' : Step segments path now more last) :
    next = last := by
  cases h with
  | found hk =>
    cases h' with
    | found hk' => rw [Option.some.inj (hk.symm.trans hk')]
    | begun hk' => nomatch hk.symm.trans hk'
  | begun hk =>
    cases h' with
    | found hk' => nomatch hk.symm.trans hk'
    | begun => rfl
  | again hk =>
    cases h' with
    | again hk' => rw [Option.some.inj (hk.symm.trans hk')]
    | filled hk' => nomatch hk.symm.trans hk'
  | filled hk =>
    cases h' with
    | again hk' => nomatch hk.symm.trans hk'
    | filled => rfl

/-! ### Beginning work -/

theorem drop_succ_of_drop_eq {segment : Segment} {rest : List Segment}
    (hp : segments.drop p = segment :: rest) : segments.drop (p + 1) = rest := by
  rw [← List.tail_drop, hp, List.tail_cons]

theorem enter_nil (hp : segments.drop p = []) (hs : s ≤ path.length) :
    enter segments path p s = (none, .answer (path.drop s).isEmpty) := by
  have hend : (path.drop s).isEmpty = (s == path.length) := by
    rw [Bool.eq_iff_iff, List.isEmpty_iff, List.drop_eq_nil_iff, beq_iff_eq]
    omega
  unfold enter
  rw [← List.head?_drop, hp, hend]
  rfl

theorem enter_last (hp : segments.drop p = [.anyPath]) :
    enter segments path p s = (none, .answer true) := by
  have hlen := congrArg List.length hp
  rw [List.length_drop, List.length_singleton] at hlen
  unfold enter
  rw [← List.head?_drop, hp]
  exact if_pos (by omega)

theorem enter_anyPath {next : Segment} {rest : List Segment}
    (hp : segments.drop p = .anyPath :: next :: rest) :
    enter segments path p s = (some s, .visit (p + 1) s) := by
  have hlen := congrArg List.length hp
  rw [List.length_drop, List.length_cons, List.length_cons] at hlen
  unfold enter
  rw [← List.head?_drop, hp]
  exact if_neg (by omega)

theorem enter_end {segment : Segment} {rest : List Segment} (hseg : segment ≠ .anyPath)
    (hp : segments.drop p = segment :: rest) (hs : path.drop s = []) :
    enter segments path p s = (none, .answer false) := by
  unfold enter
  rw [← List.head?_drop, hp, ← List.head?_drop, hs]
  cases segment with
  | anyPath => exact absurd rfl hseg
  | literal text => rfl
  | glob tokens => rfl

theorem enter_part {segment : Segment} {rest : List Segment} {part : List Char}
    {parts : List (List Char)} (hseg : segment ≠ .anyPath) (hp : segments.drop p = segment :: rest)
    (hs : path.drop s = part :: parts) :
    enter segments path p s =
      (none, if segment.accepts part then .visit (p + 1) (s + 1) else .answer false) := by
  unfold enter
  rw [← List.head?_drop, hp, ← List.head?_drop, hs]
  cases segment with
  | anyPath => exact absurd rfl hseg
  | literal text => rfl
  | glob tokens => rfl

/-! ## Retracing a walk -/

theorem Moves.single (h : Step segments path now new next) : Moves segments path new now next := by
  have hmoves := Moves.step h (.refl next)
  rwa [List.append_nil] at hmoves

theorem Moves.trans (h : Moves segments path log now next)
    (hmore : Moves segments path more next last) : Moves segments path (log ++ more) now last := by
  induction h with
  | refl => exact hmore
  | step hstep _ ih =>
    rw [List.append_assoc]
    exact .step hstep (ih hmore)

/-- A run goes on to where the walk ends, if a run from the same moment ends there. -/
theorem Moves.rest (h : Moves segments path log now next)
    (hlast : Moves segments path more now (.finish segments path)) :
    ∃ rest, Moves segments path rest next (.finish segments path) := by
  induction h generalizing more with
  | refl => exact ⟨more, hlast⟩
  | step hstep _ ih =>
    cases hlast with
    | refl => nomatch hstep
    | step hstep' hrest =>
      obtain rfl := hstep.unique hstep'
      exact ih hrest

/-- From each place of the path a run comes to the verdict and the memo of the visit, whatever is in work. -/
def Retraces (segments : List Segment) (path : List (List Char)) (p : Nat) (visit : Visit) : Prop :=
  ∀ s work memo, s ≤ path.length → ∃ log, Moves segments path log ⟨.visit p s, work, memo⟩
    ⟨.answer (visit (path.drop s) s memo).1, work, (visit (path.drop s) s memo).2⟩

/-- A run brings the pair in work to this result, with nothing left to try. -/
def ComesTo (segments : List Segment) (path : List (List Char)) (now : Moment) (p s : Nat)
    (work : List Work) (result : Bool × Memo) : Prop :=
  ∃ log tried, Moves segments path log now ⟨.answer result.1, ⟨p, s, tried⟩ :: work, result.2⟩ ∧
    Work.retry? path ⟨p, s, tried⟩ result.1 = none

theorem comesTo_self (verdict : Bool) :
    ComesTo segments path ⟨.answer verdict, ⟨p, s, none⟩ :: work, memo⟩ p s work (verdict, memo) :=
  ⟨[], none, .refl _, rfl⟩

/-- Looking a verdict up first comes to the same. -/
theorem moves_reuse {body : Memo → Bool × Memo}
    (h : ComesTo segments path ⟨(enter segments path p s).2, ⟨p, s, (enter segments path p s).1⟩ :: work, memo⟩
      p s work (body memo)) :
    ∃ log, Moves segments path log ⟨.visit p s, work, memo⟩
      ⟨.answer (memo.reuse (slotOf path p s) body).1, work,
        (memo.reuse (slotOf path p s) body).2⟩ := by
  unfold Memo.reuse
  cases hk : memo.get? (slotOf path p s) with
  | some known => exact ⟨_, .single (.found hk)⟩
  | none =>
    obtain ⟨log, tried, hmoves, hdone⟩ := h
    exact ⟨_, (Moves.single (.begun hk)).trans (hmoves.trans (.single (.filled hdone)))⟩

theorem comesTo_anyRest {visit : Visit} (h : Retraces segments path (p + 1) visit) (hk : k ≤ path.length) :
    ComesTo segments path ⟨.visit (p + 1) k, ⟨p, s, some k⟩ :: work, memo⟩ p s work
      (anyRest visit (path.drop k) k memo) := by
  -- the induction is on the path that is left
  obtain ⟨n, hn⟩ := Nat.exists_eq_add_of_le hk
  induction n generalizing k memo with
  | zero =>
    have hnil : path.drop k = [] := List.drop_eq_nil_of_le (by omega)
    obtain ⟨log, hmoves⟩ := h k (⟨p, s, some k⟩ :: work) memo hk
    rw [hnil] at hmoves ⊢
    exact ⟨log, some k, hmoves, retry?_of_le (by omega)⟩
  | succ n ih =>
    have hlt : k < path.length := by omega
    have hcons := List.drop_eq_getElem_cons hlt
    obtain ⟨log, hmoves⟩ := h k (⟨p, s, some k⟩ :: work) memo hk
    have hlater : ComesTo segments path
        ⟨.visit (p + 1) (k + 1), ⟨p, s, some (k + 1)⟩ :: work, (visit (path.drop k) k memo).2⟩ p s work
        (anyRest visit (path.drop (k + 1)) (k + 1) (visit (path.drop k) k memo).2) :=
      ih hlt (by omega)
    rw [hcons] at hmoves hlater ⊢
    rw [anyRest]
    generalize visit (path[k] :: path.drop (k + 1)) k memo = result at hmoves hlater ⊢
    obtain ⟨verdict, after⟩ := result
    cases verdict with
    | true => exact ⟨log, some k, hmoves, rfl⟩
    | false =>
      obtain ⟨log', tried, hmoves', hdone⟩ := hlater
      exact ⟨_, tried, hmoves.trans (.trans (.single (.again (retry?_of_lt hlt))) hmoves'), hdone⟩

theorem comesTo_takeOne {segment : Segment} {rest : List Segment} (hseg : segment ≠ .anyPath)
    (hp : segments.drop p = segment :: rest) {visit : Visit} (h : Retraces segments path (p + 1) visit)
    (hs : s ≤ path.length) :
    ComesTo segments path ⟨(enter segments path p s).2, ⟨p, s, (enter segments path p s).1⟩ :: work, memo⟩ p s work
      (takeOne segment visit (path.drop s) s memo) := by
  obtain rfl | hlt := Nat.eq_or_lt_of_le hs
  · rw [enter_end hseg hp List.drop_length, List.drop_length]
    exact comesTo_self false
  · rw [enter_part hseg hp (List.drop_eq_getElem_cons hlt), List.drop_eq_getElem_cons hlt, takeOne]
    by_cases ha : segment.accepts path[s] = true
    · rw [if_pos ha, if_pos ha]
      obtain ⟨log, hmoves⟩ := h (s + 1) (⟨p, s, none⟩ :: work) memo hlt
      exact ⟨log, none, hmoves, rfl⟩
    · rw [if_neg ha, if_neg ha]
      exact comesTo_self false

/-- Runs retrace the walk. -/
theorem retraces_walk {rest : List Segment} (hp : segments.drop p = rest) :
    Retraces segments path p (walk (path.length + 1) rest p) := by
  induction rest generalizing p with
  | nil =>
    intro s work memo hs
    refine moves_reuse ?_
    rw [enter_nil hp hs]
    exact comesTo_self _
  | cons segment rest ih =>
    have hnext := drop_succ_of_drop_eq hp
    intro s work memo hs
    by_cases hseg : segment = .anyPath
    · subst hseg
      cases rest with
      | nil =>
        refine moves_reuse ?_
        rw [enter_last hp]
        exact comesTo_self true
      | cons next rest =>
        rw [walk_anyPath]
        refine moves_reuse ?_
        rw [enter_anyPath hp]
        exact comesTo_anyRest (ih hnext) hs
    · rw [walk_cons hseg]
      exact moves_reuse (comesTo_takeOne hseg hp (ih hnext) hs)

theorem moves_finish (segments : List Segment) (path : List (List Char)) :
    ∃ log, Moves segments path log (.start segments path) (.finish segments path) :=
  retraces_walk rfl 0 [] _ (Nat.zero_le _)

end Walk

end EndpointGate.Pattern
