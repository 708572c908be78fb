import EndpointGate.Tally.Basic
import Mathlib.Data.List.Perm.Basic
import Mathlib.Data.UInt

/-!
# Recording series

`recordAll` counts a list of series, one after another. What this does to a tally is told by the values of
its counters (`count?_recordAll`), by their sum (`total_recordAll`) and by the series that are added
(`exists_created`). The series may come in any order: every key finds the same value afterwards
(`count?_recordAll_perm`), and the same series if no two of them have one key (`find?_recordAll_perm`).
-/

namespace EndpointGate

/-- No other one of these series has the key of this one. -/
def Series.IsAlone (s : Series) (ss : List Series) : Prop := ∀ s' ∈ ss, s'.key = s.key → s' = s

/-- No two of these series have the same key. -/
def Series.Apart (ss : List Series) : Prop := ∀ s ∈ ss, s.IsAlone ss

instance (s : Series) (ss : List Series) : Decidable (s.IsAlone ss) :=
  inferInstanceAs (Decidable (∀ s' ∈ ss, s'.key = s.key → s' = s))

instance (ss : List Series) : Decidable (Series.Apart ss) :=
  inferInstanceAs (Decidable (∀ s ∈ ss, s.IsAlone ss))

namespace Tally

/-- Counts series one after another. -/
def recordAll (t : Tally) (ss : List Series) : Tally :=
  { t with counters := ss.foldl (fun cs s => addTo s 1 cs) t.counters }

/-- The counter that a key finds, with the series that it was created for. -/
def find? (t : Tally) (key : UInt64) : Option (Series × UInt64) := t.counters.find? (·.1.key == key)

/-- The sum of all counters. -/
def total (t : Tally) : UInt64 := (t.counters.map (·.2)).sum

variable {t : Tally} {s : Series} {ss ss' : List Series}

@[simp] theorem recordAll_nil (t : Tally) : t.recordAll [] = t := rfl

theorem recordAll_cons (t : Tally) (s : Series) (ss : List Series) :
    t.recordAll (s :: ss) = (t.recordAll [s]).recordAll ss := rfl

/-! ## Values -/

theorem add_one_add_ofNat (a : UInt64) (n : Nat) : a + 1 + UInt64.ofNat n = a + UInt64.ofNat (n + 1) := by
  rw [UInt64.ofNat_add, UInt64.add_assoc, UInt64.add_comm 1]
  rfl

theorem count?_recordAll (t : Tally) (ss : List Series) (s : Series) :
    (t.recordAll ss).count? s =
      if ss.countP (·.key == s.key) = 0 then t.count? s
      else some (t.count s + UInt64.ofNat (ss.countP (·.key == s.key))) := by
  induction ss generalizing t with
  | nil => rfl
  | cons s' ss ih =>
    have hvalue : (t.recordAll [s']).count? s = if s.key = s'.key then some (t.count s + 1) else t.count? s :=
      count?_with_addTo t s' s 1
    have hcount : (t.recordAll [s']).count s = t.count s + if s.key = s'.key then 1 else 0 :=
      count_with_addTo t s' s 1
    rw [recordAll_cons, ih, hvalue, hcount, List.countP_cons]
    by_cases h : s.key = s'.key
    · rw [if_pos h, if_pos h, if_pos (beq_iff_eq.2 h.symm), if_neg (Nat.succ_ne_zero _), ← add_one_add_ofNat]
      split
      · rename_i hnone
        rw [hnone]
        exact congrArg some (UInt64.add_zero _).symm
      · rfl
    · simp [h, Ne.symm h]

theorem count_recordAll (t : Tally) (ss : List Series) (s : Series) :
    (t.recordAll ss).count s = t.count s + UInt64.ofNat (ss.countP (·.key == s.key)) := by
  rw [count, count?_recordAll]
  split
  · rename_i hnone
    rw [hnone]
    exact (UInt64.add_zero _).symm
  · rfl

theorem sum_addTo (s : Series) (n : UInt64) (cs : List (Series × UInt64)) :
    ((addTo s n cs).map (·.2)).sum = (cs.map (·.2)).sum + n := by
  induction cs with
  | nil => simp [addTo]
  | cons c cs ih =>
    obtain ⟨s', m⟩ := c
    unfold addTo
    split
    · simp only [List.map_cons, List.sum_cons]
      rw [UInt64.add_assoc, UInt64.add_assoc, UInt64.add_comm n]
    · simp only [List.map_cons, List.sum_cons]
      rw [ih, UInt64.add_assoc]

theorem total_recordAll (t : Tally) (ss : List Series) :
    (t.recordAll ss).total = t.total + UInt64.ofNat ss.length := by
  induction ss generalizing t with
  | nil => simp
  | cons s ss ih =>
    have hone : (t.recordAll [s]).total = t.total + 1 := sum_addTo s 1 t.counters
    rw [recordAll_cons, ih, hone, List.length_cons, add_one_add_ofNat]

/-! ## Series -/

theorem map_fst_addTo (s : Series) (n : UInt64) (cs : List (Series × UInt64)) :
    (addTo s n cs).map (·.1) =
      cs.map (·.1) ++ if s.key ∈ cs.map (·.1.key) then [] else [s] := by
  induction cs with
  | nil => simp [addTo]
  | cons c cs ih =>
    obtain ⟨s', m⟩ := c
    unfold addTo
    by_cases h : s'.key = s.key
    · simp [h]
    · have hmem : s.key ∈ ((s', m) :: cs).map (·.1.key) ↔ s.key ∈ cs.map (·.1.key) := by
        rw [List.map_cons, List.mem_cons]
        exact or_iff_right (Ne.symm h)
      simp only [hmem]
      simp only [h, if_false, List.map_cons, ih, List.cons_append]

theorem mem_keys_addTo (s : Series) (n : UInt64) (cs : List (Series × UInt64)) (key : UInt64) :
    key ∈ (addTo s n cs).map (·.1.key) ↔ key = s.key ∨ key ∈ cs.map (·.1.key) := by
  have hkeys (l : List (Series × UInt64)) : l.map (·.1.key) = (l.map (·.1)).map (·.key) := by
    simp
  rw [hkeys, map_fst_addTo, List.map_append, ← hkeys, List.mem_append]
  split
  · rename_i h
    simp only [List.map_nil, List.not_mem_nil, or_false]
    constructor
    · exact Or.inr
    · rintro (rfl | hmem)
      · exact h
      · exact hmem
  · simp [or_comm]

/-- The series that counting adds are among the counted ones, each once. -/
theorem exists_created (t : Tally) (ss : List Series) :
    ∃ created, (t.recordAll ss).counters.map (·.1) = t.counters.map (·.1) ++ created ∧
      (created.map (·.key)).Nodup ∧ (∀ s ∈ created, s.key ∉ t.counters.map (·.1.key)) ∧ created ⊆ ss := by
  induction ss generalizing t with
  | nil => exact ⟨[], by simp, .nil, nofun, List.nil_subset _⟩
  | cons s ss ih =>
    obtain ⟨created, hmap, hnodup, hnew, hsub⟩ := ih (t.recordAll [s])
    have hone : (t.recordAll [s]).counters = addTo s 1 t.counters := rfl
    rw [← recordAll_cons, hone, map_fst_addTo, List.append_assoc] at hmap
    have hnew' : ∀ s' ∈ created, s'.key ≠ s.key ∧ s'.key ∉ t.counters.map (·.1.key) := by
      intro s' hs'
      have := hnew s' hs'
      rwa [hone, mem_keys_addTo, not_or] at this
    refine ⟨_, hmap, ?_⟩
    split
    · exact ⟨hnodup, fun s' hs' => (hnew' s' hs').2, List.subset_cons_of_subset s hsub⟩
    · rename_i hs
      refine ⟨?_, List.forall_mem_cons.2 ⟨hs, fun s' hs' => (hnew' s' hs').2⟩, ?_⟩
      · rw [List.singleton_append, List.map_cons, List.nodup_cons]
        refine ⟨fun hmem => ?_, hnodup⟩
        obtain ⟨s', hs', heq⟩ := List.mem_map.1 hmem
        exact (hnew' s' hs').1 heq
      · exact List.cons_subset_cons s hsub

/-! ## Order -/

theorem count?_recordAll_perm (t : Tally) (h : ss.Perm ss') (s : Series) :
    (t.recordAll ss).count? s = (t.recordAll ss').count? s := by
  rw [count?_recordAll, count?_recordAll, h.countP_eq]

/-- What counting a series makes of the counter with its key. -/
def bump (s : Series) : Option (Series × UInt64) → Series × UInt64
  | none => (s, 1)
  | some (s', m) => (s', m + 1)

theorem find?_recordAll_one (t : Tally) (s : Series) (key : UInt64) :
    (t.recordAll [s]).find? key = if key = s.key then some (bump s (t.find? key)) else t.find? key := by
  show (addTo s 1 t.counters).find? (·.1.key == key) =
    if key = s.key then some (bump s (t.counters.find? (·.1.key == key)))
    else t.counters.find? (·.1.key == key)
  induction t.counters with
  | nil =>
    by_cases h : key = s.key
    · simp [addTo, bump, h]
    · simp [addTo, h, Ne.symm h]
  | cons c cs ih =>
    obtain ⟨s', m⟩ := c
    by_cases hs : s'.key = s.key
    · by_cases h : key = s.key
      · simp [addTo, bump, hs, h]
      · simp [addTo, hs, h, Ne.symm h]
    · by_cases h : s'.key = key
      · have hne : key ≠ s.key := h ▸ hs
        simp [addTo, h, hne]
      · simp only [addTo, hs, if_false, List.find?_cons, beq_false_of_ne h]
        exact ih

/-- What counting does to the counters that keys find. -/
def bumpAt (s : Series) (f : UInt64 → Option (Series × UInt64)) : UInt64 → Option (Series × UInt64) :=
  fun key => if key = s.key then some (bump s (f key)) else f key

theorem find?_recordAll (t : Tally) (ss : List Series) :
    (t.recordAll ss).find? = ss.foldl (fun f s => bumpAt s f) t.find? := by
  induction ss generalizing t with
  | nil => rfl
  | cons s ss ih =>
    have hone : (t.recordAll [s]).find? = bumpAt s t.find? := by
      funext key
      exact find?_recordAll_one t s key
    rw [recordAll_cons, ih, hone]
    rfl

/-- Series that are the same where their keys are may be counted in either order. -/
theorem bumpAt_comm {s s' : Series} (h : s.key = s'.key → s = s')
    (f : UInt64 → Option (Series × UInt64)) : bumpAt s (bumpAt s' f) = bumpAt s' (bumpAt s f) := by
  funext key
  unfold bumpAt
  by_cases hs : key = s.key
  · by_cases hs' : key = s'.key
    · rw [h (hs.symm.trans hs')]
    · simp [hs, hs ▸ hs']
  · simp [hs]

theorem find?_recordAll_perm (t : Tally) (h : ss.Perm ss') (hapart : Series.Apart ss) :
    (t.recordAll ss).find? = (t.recordAll ss').find? := by
  rw [find?_recordAll, find?_recordAll]
  apply h.foldl_eq'
  intro s hs s' hs' f
  exact bumpAt_comm (hapart s hs s' hs') f

/-- Of two series with one key, the counter has the texts of the one that comes first. -/
example :
    let first : Series := ⟨"/api/v1/wp5yqai5ccivd", "GET"⟩
    let second : Series := ⟨"/api/v1/7y4x3nafv62qk", "GET"⟩
    ¬Series.Apart [first, second] ∧
      ((ofStem defaultStem).recordAll [first, second]).find? first.key = some (first, 2) ∧
      ((ofStem defaultStem).recordAll [second, first]).find? first.key = some (second, 2) := by
  decide +kernel

end Tally

end EndpointGate
