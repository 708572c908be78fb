import EndpointGate.Proofs.Pattern.Scan
import EndpointGate.Proofs.Pattern.WalkRun
import Mathlib.Data.List.Perm.Subperm

/-!
# The memo of a walk

Two invariants hold along a run of a walk. A moment is `Valid` when the memo is sound, each pair in work waits
for the verdict that is on its way, and its slot is still empty. The log of a run `Accounts` for a moment when
each slot on which work has begun is written down or still in work, and none comes twice. Every kind of step
keeps both (`valid_step`, `accounts_step`); `walk_remembers` says what that comes to.
-/

namespace EndpointGate.Pattern

/-! ## Filling a slot -/

@[simp] theorem Memo.size_fill (memo : Memo) (slot : Nat) (verdict : Bool) :
    (memo.fill slot verdict).slots.size = memo.slots.size :=
  Array.size_setIfInBounds

theorem Memo.get?_fill_self {memo : Memo} {slot : Nat} (verdict : Bool) (h : slot < memo.slots.size) :
    (memo.fill slot verdict).get? slot = some verdict := by
  unfold Memo.get? Memo.fill
  rw [Array.getElem?_setIfInBounds_self, if_pos h]
  rfl

/-- Every verdict that is there stays there. -/
def Memo.Grows (memo after : Memo) : Prop :=
  ∀ slot known, memo.get? slot = some known → after.get? slot = some known

theorem Memo.grows_fill {memo : Memo} {slot : Nat} (verdict : Bool) (h : memo.get? slot = none) :
    memo.Grows (memo.fill slot verdict) := by
  intro i known hi
  rwa [memo.get?_fill_ne verdict (by rintro rfl; rw [h] at hi; exact absurd hi nofun)]

namespace Walk

variable (segments : List Segment) (path : List (List Char))

/-! ## What is waited for -/

/-- What trying finds for the rest of the pattern and the rests of the path from the place `k` on. -/
def spansBehind (p k : Nat) : Bool := (path.drop k).tails.any (spans (segments.drop p))

/-- With this verdict the pair comes to what trying finds, unless there is a place left to try. -/
def Work.Expects (w : Work) (verdict : Bool) : Prop :=
  match w.tried with
  | none => verdict = spansFrom segments path w.p w.s
  | some k => w.p < segments.length ∧ k ≤ path.length ∧ verdict = spansFrom segments path (w.p + 1) k ∧
    spansFrom segments path w.p w.s = spansBehind segments path (w.p + 1) k

/-- The pair in front waits for this verdict of a pair in this row, each other one for that of the pair in
front of it. -/
inductive Awaits : List Work → Nat → Bool → Prop
  | nil (verdict : Bool) : Awaits [] 0 verdict
  | cons {w : Work} {work : List Work} {verdict : Bool} (hp : w.p ≤ segments.length)
    (hs : w.s ≤ path.length) (hw : w.Expects segments path verdict)
    (hwork : Awaits work w.p (spansFrom segments path w.p w.s)) : Awaits (w :: work) (w.p + 1) verdict

/-- What the walk is about to do gives the verdict that the pairs in work wait for. -/
def Task.Serves (work : List Work) : Task → Prop
  | .visit p s =>
    p ≤ segments.length ∧ s ≤ path.length ∧ Awaits segments path work p (spansFrom segments path p s)
  | .answer verdict => ∃ row, Awaits segments path work row verdict

variable {segments path} {p s k row : Nat} {verdict : Bool} {w : Work} {work : List Work}

theorem spansBehind_of_lt (hk : k < path.length) :
    spansBehind segments path p k =
      (spansFrom segments path p k || spansBehind segments path p (k + 1)) := by
  unfold spansBehind spansFrom
  rw [List.drop_eq_getElem_cons hk, List.tails, List.any_cons]

theorem spansBehind_length :
    spansBehind segments path p path.length = spansFrom segments path p path.length := by
  unfold spansBehind spansFrom
  rw [List.drop_length]
  exact Bool.or_false _

theorem spansFrom_anyPath {rest : List Segment} (hp : segments.drop p = .anyPath :: rest) :
    spansFrom segments path p s = spansBehind segments path (p + 1) s := by
  rw [spansFrom, hp, spans_anyPath, spansBehind, drop_succ_of_drop_eq hp]

theorem spansFrom_of_ne {segment : Segment} {rest : List Segment} (hseg : segment ≠ .anyPath)
    (hp : segments.drop p = segment :: rest) (hs : s < path.length) :
    spansFrom segments path p s =
      (segment.accepts path[s] && spansFrom segments path (p + 1) (s + 1)) := by
  rw [spansFrom, hp, List.drop_eq_getElem_cons hs, spans_cons_cons hseg, spansFrom, drop_succ_of_drop_eq hp]

theorem slotOf_lt (hp : p ≤ segments.length) (hs : s ≤ path.length) :
    slotOf path p s < (segments.length + 1) * (path.length + 1) :=
  Scan.lex_lt (y := 0) (Nat.lt_succ_of_le hp) (Nat.lt_succ_of_le hs)

/-- The pairs in work stand in rows above the one whose verdict is waited for. -/
theorem Awaits.slot_lt (h : Awaits segments path work row verdict) (hw : w ∈ work) (s : Nat) :
    slotOf path w.p w.s < slotOf path row s := by
  induction h generalizing s with
  | nil => nomatch hw
  | @cons v work _ _ hs _ _ ih =>
    have hv : slotOf path v.p v.s < slotOf path (v.p + 1) s :=
      Scan.lex_lt (Nat.lt_succ_self _) (Nat.lt_succ_of_le hs)
    cases hw with
    | head => exact hv
    | tail _ hw => exact Nat.lt_trans (ih hw v.s) hv

/-- Where a pair tries the next place, it had no success before. -/
theorem serves_again (h : Awaits segments path (w :: work) row verdict)
    (hk : w.retry? path verdict = some k) :
    Task.Serves segments path ({ w with tried := some k } :: work) (.visit (w.p + 1) k) := by
  cases h with
  | cons hp hs hw hwork =>
    obtain ⟨p, s, tried⟩ := w
    cases tried with
    | none => nomatch hk
    | some j =>
      obtain ⟨hlt, -, hv, hspans⟩ := hw
      cases verdict with
      | true => nomatch hk
      | false =>
        have hj : j < path.length := by
          by_contra hj
          rw [retry?_of_le (Nat.le_of_not_lt hj)] at hk
          nomatch hk
        rw [retry?_of_lt hj] at hk
        obtain rfl := Option.some.inj hk
        rw [spansBehind_of_lt hj, ← hv, Bool.false_or] at hspans
        exact ⟨hlt, hj, .cons hp hs ⟨hlt, hj, rfl, hspans⟩ hwork⟩

/-- Where a pair has no more to try, the verdict is its own. -/
theorem eq_spansFrom_of_retry? (h : Awaits segments path (w :: work) row verdict)
    (hk : w.retry? path verdict = none) : verdict = spansFrom segments path w.p w.s := by
  cases h with
  | cons hp hs hw hwork =>
    obtain ⟨p, s, tried⟩ := w
    cases tried with
    | none => exact hw
    | some j =>
      obtain ⟨-, hj, hv, hspans⟩ := hw
      obtain rfl | hlt := Nat.eq_or_lt_of_le hj
      · exact hv.trans (hspans.trans spansBehind_length).symm
      · cases verdict with
        | true => rw [hspans, spansBehind_of_lt hlt, ← hv, Bool.true_or]
        | false =>
          rw [retry?_of_lt hlt] at hk
          nomatch hk

/-- The work on a pair begins with what gives its verdict. -/
theorem serves_enter (hp : p ≤ segments.length) (hs : s ≤ path.length)
    (h : Awaits segments path work p (spansFrom segments path p s)) :
    (enter segments path p s).2.Serves segments path (⟨p, s, (enter segments path p s).1⟩ :: work) := by
  have hanswer {verdict : Bool} (hv : verdict = spansFrom segments path p s) :
      Task.Serves segments path (⟨p, s, none⟩ :: work) (.answer verdict) :=
    ⟨_, .cons hp hs hv h⟩
  obtain rfl | hlt := Nat.eq_or_lt_of_le hp
  · rw [enter_nil List.drop_length hs]
    exact hanswer (by rw [spansFrom, List.drop_length, spans])
  have hdrop := List.drop_eq_getElem_cons hlt
  by_cases hseg : segments[p] = .anyPath
  · rw [hseg] at hdrop
    cases hrest : segments.drop (p + 1) with
    | nil =>
      rw [hrest] at hdrop
      rw [enter_last hdrop]
      exact hanswer (by rw [spansFrom, hdrop, spans_anyPath_nil])
    | cons next rest =>
      rw [hrest] at hdrop
      rw [enter_anyPath hdrop]
      exact ⟨hlt, hs, .cons hp hs ⟨hlt, hs, rfl, spansFrom_anyPath hdrop⟩ h⟩
  · obtain rfl | hsl := Nat.eq_or_lt_of_le hs
    · rw [enter_end hseg hdrop List.drop_length]
      exact hanswer (by rw [spansFrom, hdrop, List.drop_length, spans_cons_nil hseg])
    · have hspans := spansFrom_of_ne hseg hdrop hsl
      rw [enter_part hseg hdrop (List.drop_eq_getElem_cons hsl)]
      by_cases ha : segments[p].accepts path[s] = true
      · rw [if_pos ha]
        rw [ha, Bool.true_and] at hspans
        exact ⟨hlt, hsl, .cons hp hs hspans.symm h⟩
      · rw [if_neg ha]
        rw [Bool.eq_false_iff.2 ha, Bool.false_and] at hspans
        exact hanswer hspans.symm

/-! ## Valid moments -/

variable {now next last : Moment} {log new : List Access}

/-- The memo is sound and has a slot for each pair of positions. The pairs in work wait for the verdict that is
on its way, and have none yet. -/
structure Moment.Valid (segments : List Segment) (path : List (List Char)) (now : Moment) : Prop where
  size : now.memo.slots.size = (segments.length + 1) * (path.length + 1)
  sound : now.memo.Sound segments path
  serves : now.task.Serves segments path now.work
  empty : ∀ w ∈ now.work, now.memo.get? (slotOf path w.p w.s) = none

theorem valid_start : (Moment.start segments path).Valid segments path where
  size := Array.size_replicate
  sound := Memo.sound_empty _
  serves := ⟨Nat.zero_le _, Nat.zero_le _, .nil _⟩
  empty := nofun

/-- A slot that is filled is empty before. -/
theorem grows_step (h : Step segments path now new next) (hnow : now.Valid segments path) :
    now.memo.Grows next.memo := by
  cases h with
  | found | begun | again => exact fun _ _ h => h
  | filled => exact Memo.grows_fill _ (hnow.empty _ (List.mem_cons_self ..))

theorem valid_step (h : Step segments path now new next) (hnow : now.Valid segments path) :
    next.Valid segments path := by
  obtain ⟨hsize, hsound, hserves, hempty⟩ := hnow
  cases h with
  | @found p s _ _ known hk =>
    obtain ⟨-, hs, hawaits⟩ := hserves
    obtain rfl : known = spansFrom segments path p s := (hsound _ _ hk).trans (verdictAt_slot hs)
    exact ⟨hsize, hsound, ⟨p, hawaits⟩, hempty⟩
  | @begun p s _ _ hk =>
    obtain ⟨hp, hs, hawaits⟩ := hserves
    exact ⟨hsize, hsound, serves_enter hp hs hawaits, List.forall_mem_cons.2 ⟨hk, hempty⟩⟩
  | again hk =>
    obtain ⟨row, hawaits⟩ := hserves
    rw [List.forall_mem_cons] at hempty
    exact ⟨hsize, hsound, serves_again hawaits hk, List.forall_mem_cons.2 hempty⟩
  | filled hk =>
    obtain ⟨row, hawaits⟩ := hserves
    obtain rfl := eq_spansFrom_of_retry? hawaits hk
    cases hawaits with
    | cons hp hs hw hwork =>
      refine ⟨(Memo.size_fill ..).trans hsize, hsound.fill (verdictAt_slot hs).symm, ⟨_, hwork⟩, ?_⟩
      intro v hv
      rw [Memo.get?_fill_ne _ _ (Nat.ne_of_gt (hwork.slot_lt hv _))]
      exact hempty v (List.mem_cons_of_mem _ hv)

/-! ## Logs -/

/-- The slot is filled, or work on it is going on. -/
def Moment.Attends (path : List (List Char)) (now : Moment) (slot : Nat) : Prop :=
  now.memo.get? slot ≠ none ∨ ∃ w ∈ now.work, slotOf path w.p w.s = slot

/-- The memo has the slots of the log. The slots on which work has begun are filled or in work, and none comes
twice. -/
structure Accounts (path : List (List Char)) (log : List Access) (now : Moment) : Prop where
  in_bounds : ∀ access ∈ log, access.slot < now.memo.slots.size
  nodup : (begun log).Nodup
  attended : ∀ slot ∈ begun log, now.Attends path slot
  count : (begun log).length = now.memo.worked + now.work.length

theorem accounts_start : Accounts path [] (Moment.start segments path) :=
  ⟨nofun, .nil, nofun, rfl⟩

variable {slot : Nat}

theorem slot_lt_of_step (h : Step segments path now new next) (hnow : now.Valid segments path) :
    ∀ access ∈ new, access.slot < now.memo.slots.size := by
  rw [hnow.size]
  cases h with
  | found | begun =>
    obtain ⟨hp, hs, -⟩ := hnow.serves
    exact List.forall_mem_singleton.2 (slotOf_lt hp hs)
  | again => exact nofun
  | filled =>
    obtain ⟨_, hawaits⟩ := hnow.serves
    cases hawaits with
    | cons hp hs => exact List.forall_mem_singleton.2 (slotOf_lt hp hs)

/-- Work begins on an empty slot, and on none that is in work. -/
theorem not_attends_of_mem_begun (h : Step segments path now new next) (hnow : now.Valid segments path)
    (hslot : slot ∈ begun new) : ¬ now.Attends path slot := by
  cases h with
  | @begun p s _ _ hk =>
    obtain rfl := List.mem_singleton.1 hslot
    obtain ⟨-, -, hawaits⟩ := hnow.serves
    rintro (hfilled | ⟨w, hw, hws⟩)
    · exact hfilled hk
    · exact Nat.ne_of_lt (hawaits.slot_lt hw s) hws
  | found | again | filled => nomatch hslot

theorem attends_of_mem_begun (h : Step segments path now new next) (hslot : slot ∈ begun new) :
    next.Attends path slot := by
  cases h with
  | begun =>
    obtain rfl := List.mem_singleton.1 hslot
    exact .inr ⟨_, List.mem_cons_self .., rfl⟩
  | found | again | filled => nomatch hslot

/-- A slot leaves work only when it is filled. -/
theorem attends_step (h : Step segments path now new next) (hnow : now.Valid segments path)
    (hslot : now.Attends path slot) : next.Attends path slot := by
  obtain hfilled | ⟨w, hw, rfl⟩ := hslot
  · obtain ⟨known, hknown⟩ := Option.ne_none_iff_exists'.1 hfilled
    exact .inl (Option.ne_none_iff_exists'.2 ⟨known, grows_step h hnow _ _ hknown⟩)
  · cases h with
    | found => exact .inr ⟨w, hw, rfl⟩
    | begun => exact .inr ⟨w, List.mem_cons_of_mem _ hw, rfl⟩
    | again =>
      cases hw with
      | head => exact .inr ⟨_, List.mem_cons_self .., rfl⟩
      | tail _ hw => exact .inr ⟨w, List.mem_cons_of_mem _ hw, rfl⟩
    | filled hk =>
      cases hw with
      | head =>
        have hlt := slot_lt_of_step (.filled hk) hnow _ (List.mem_cons_self ..)
        exact .inl (Option.ne_none_iff_exists'.2 ⟨_, Memo.get?_fill_self _ hlt⟩)
      | tail _ hw => exact .inr ⟨w, hw, rfl⟩

theorem count_step (h : Step segments path now new next) :
    now.memo.worked + now.work.length + (begun new).length = next.memo.worked + next.work.length := by
  cases h with
  | found | begun | again => rfl
  | filled => exact (Nat.succ_add_eq_add_succ ..).symm

theorem accounts_step (h : Step segments path now new next) (hnow : now.Valid segments path)
    (ha : Accounts path log now) : Accounts path (log ++ new) next where
  in_bounds := by
    rw [(valid_step h hnow).size, ← hnow.size]
    exact List.forall_mem_append.2 ⟨ha.in_bounds, slot_lt_of_step h hnow⟩
  nodup := by
    rw [begun_append, List.nodup_append]
    refine ⟨ha.nodup, ?_, ?_⟩
    · cases h with
      | begun => exact List.pairwise_singleton _ _
      | found | again | filled => exact .nil
    · rintro slot hold _ hnew rfl
      exact not_attends_of_mem_begun h hnow hnew (ha.attended slot hold)
  attended := by
    rw [begun_append]
    exact List.forall_mem_append.2 ⟨fun slot hold => attends_step h hnow (ha.attended slot hold),
      fun slot hnew => attends_of_mem_begun h hnew⟩
  count := by rw [begun_append, List.length_append, ha.count, count_step h]

/-! ## Runs -/

theorem Moves.valid (h : Moves segments path log now last) (hnow : now.Valid segments path) :
    last.Valid segments path := by
  induction h with
  | refl => exact hnow
  | step hstep _ ih => exact ih (valid_step hstep hnow)

theorem Moves.accounts {before : List Access} (h : Moves segments path log now last)
    (hnow : now.Valid segments path) (ha : Accounts path before now) :
    Accounts path (before ++ log) last := by
  induction h generalizing before with
  | refl => rwa [List.append_nil]
  | step hstep _ ih =>
    rw [← List.append_assoc]
    exact ih (valid_step hstep hnow) (accounts_step hstep hnow ha)

/-- On a run no verdict is changed, and none is worked out a second time. -/
theorem Moves.keeps {known : Bool} (h : Moves segments path log now last)
    (hnow : now.Valid segments path) (hslot : now.memo.get? slot = some known) :
    last.memo.get? slot = some known ∧ slot ∉ begun log := by
  induction h with
  | refl => exact ⟨hslot, nofun⟩
  | step hstep _ ih =>
    obtain ⟨hlast, hlog⟩ := ih (valid_step hstep hnow) (grows_step hstep hnow _ _ hslot)
    refine ⟨hlast, ?_⟩
    rw [begun_append, List.mem_append, not_or]
    refine ⟨fun hnew => ?_, hlog⟩
    exact not_attends_of_mem_begun hstep hnow hnew (.inl (Option.ne_none_iff_exists'.2 ⟨_, hslot⟩))

/-- Work begins at most once on each slot of the memo. -/
theorem Accounts.length_begun_le (h : Accounts path log now) :
    (begun log).length ≤ now.memo.slots.size := by
  have hsub : begun log ⊆ List.range now.memo.slots.size := by
    intro slot hslot
    obtain ⟨access, haccess, heq⟩ := List.mem_filterMap.1 hslot
    cases access with
    | begun =>
      obtain rfl := Option.some.inj heq
      exact List.mem_range.2 (h.in_bounds _ haccess)
    | found | filled => nomatch heq
  exact (h.nodup.subperm hsub).length_le.trans_eq List.length_range

/-- Where a run comes to a pair of positions, it goes on to what the walk from there leaves. -/
theorem moves_answered (hnow : now.Valid segments path) (htask : now.task = .visit p s) :
    ∃ log, Moves segments path log now (now.answered segments path p s) := by
  obtain ⟨task, work, memo⟩ := now
  obtain rfl : task = .visit p s := htask
  obtain ⟨-, hs, -⟩ := hnow.serves
  exact retraces_walk rfl s work memo hs

/-- **Remembering.** The walk answers what trying answers. Every run from its start goes on to its end, and on
the way, where it comes to a pair of positions, to what the walk from there leaves. Until then each slot it
uses is one of the memo, each verdict written down is what trying finds for the rest of the pattern and the
rest of the path, and work begins at most once on each slot. A verdict once written down is neither changed
nor worked out again. -/
theorem walk_remembers (segments : List Segment) (path : List (List Char)) :
    matchesParts segments path = spans segments path ∧
    (Moment.finish segments path).memo.worked ≤ (segments.length + 1) * (path.length + 1) ∧
    ∀ log now, Moves segments path log (.start segments path) now →
      (∃ rest, Moves segments path rest now (.finish segments path)) ∧
      (∀ p s, now.task = .visit p s →
        ∃ more, Moves segments path more now (now.answered segments path p s)) ∧
      now.memo.slots.size = (segments.length + 1) * (path.length + 1) ∧
      (∀ access ∈ log, access.slot < now.memo.slots.size) ∧
      (∀ p s known, s ≤ path.length → now.memo.get? (slotOf path p s) = some known →
        known = spans (segments.drop p) (path.drop s)) ∧
      (begun log).Nodup ∧ (begun log).length ≤ (segments.length + 1) * (path.length + 1) ∧
      ∀ more later, Moves segments path more now later → ∀ slot known,
        now.memo.get? slot = some known → later.memo.get? slot = some known ∧ slot ∉ begun more := by
  obtain ⟨whole, hwhole⟩ := moves_finish segments path
  have hinv : ∀ log now, Moves segments path log (.start segments path) now →
      now.Valid segments path ∧ Accounts path log now := fun log now hmoves =>
    ⟨hmoves.valid valid_start, hmoves.accounts valid_start accounts_start⟩
  refine ⟨matchesParts_eq_spans segments path, ?_, fun log now hmoves => ?_⟩
  · obtain ⟨hvalid, haccounts⟩ := hinv _ _ hwhole
    have hle := haccounts.length_begun_le
    rw [haccounts.count, hvalid.size] at hle
    exact Nat.le_of_add_right_le hle
  · obtain ⟨hvalid, haccounts⟩ := hinv _ _ hmoves
    have hle := haccounts.length_begun_le
    rw [hvalid.size] at hle
    refine ⟨hmoves.rest hwhole, ?_, hvalid.size, haccounts.in_bounds, ?_, haccounts.nodup, hle, ?_⟩
    · exact fun p s htask => moves_answered hvalid htask
    · exact fun p s known hs hknown => (hvalid.sound _ known hknown).trans (verdictAt_slot hs)
    · exact fun more later hmore slot known hknown => hmore.keeps hvalid hknown

/-- Behind two `anyPath`s in a row the same pair of positions is come to a second time. -/
theorem walk_remembers_adjacent :
    let segments : List Segment := [.anyPath, .anyPath, .literal ['a']]
    let path := [['b']]
    let log : List Access :=
      [.begun 0, .begun 2, .begun 4, .filled 4, .begun 5, .filled 5, .filled 2, .begun 3]
    let now : Moment := ⟨.visit 2 1, [⟨1, 1, some 1⟩, ⟨0, 0, some 1⟩],
      ⟨#[none, none, some false, none, some false, some false, none, none], 3⟩⟩
    let later : Moment := ⟨.answer false, now.work, now.memo⟩
    Moves segments path log (.start segments path) now ∧
      Moves segments path [.found 5] now later ∧
      (∃ rest, Moves segments path rest now (.finish segments path)) ∧
      (∃ more, Moves segments path more now (now.answered segments path 2 1)) ∧
      now.memo.get? 5 = some false ∧ false = spans [.literal ['a']] [] ∧
      (begun log).Nodup ∧ (begun log).length ≤ 8 ∧
      later.memo.get? 5 = some false ∧ 5 ∉ begun [.found 5] := by
  intro segments path log now later
  have hmoves : Moves segments path log (.start segments path) now := by
    -- the log as the steps put it together
    show Moves _ _ ([_] ++ ([_] ++ ([_] ++ ([_] ++ ([] ++ ([_] ++ ([_] ++ ([_] ++ ([] ++ ([_] ++ [])))))))))) _ _
    exact .step (.begun rfl) (.step (.begun rfl) (.step (.begun rfl) (.step (.filled rfl)
      (.step (.again rfl) (.step (.begun rfl) (.step (.filled rfl) (.step (.filled rfl)
        (.step (.again rfl) (.step (.begun rfl) (.refl _))))))))))
  have hmore : Moves segments path [.found 5] now later := .single (.found rfl)
  obtain ⟨-, -, hruns⟩ := walk_remembers segments path
  obtain ⟨hrest, hanswered, -, -, hright, hnodup, hle, hkeeps⟩ := hruns log now hmoves
  exact ⟨hmoves, hmore, hrest, hanswered 2 1 rfl, rfl, hright 2 1 false (Nat.le_refl _) rfl, hnodup, hle,
    hkeeps _ later hmore 5 false rfl⟩

end Walk

end EndpointGate.Pattern
