/-!
# Counts as floating-point numbers

A count written through a 64-bit binary floating-point number: it is first rounded to 53 significant
bits, and the result is written with the fewest digits that round back to it, filled up with zeros.
`shown_of_lt` says that counts of at most 53 significant bits are written as they are.
-/

namespace EndpointGate.Number

/-- The binary floating-point number nearest to `n`; a tie goes to the even significand. -/
def nearest (n : Nat) : Nat :=
  let spare := n.log2 - 52
  let unit := Nat.pow 2 spare
  let down := n / unit
  let rest := n % unit
  if unit < 2 * rest ∨ (unit = 2 * rest ∧ down % 2 = 1) then (down + 1) * unit else down * unit

/-- The multiple of the largest power `10 ^ k`, `k ≤ places`, that rounds to `v`; of two such neighbours
of `v` the nearer one. -/
def shortest (v : Nat) : Nat → Nat
  | 0 => v
  | places + 1 =>
    let grid := Nat.pow 10 (places + 1)
    let below := v / grid * grid
    let above := below + grid
    if nearest below = v then
      if nearest above = v ∧ above - v < v - below then above else below
    else if nearest above = v then above
    else shortest v places

/-- The digits written for the count `n`. -/
def shown (n : Nat) : String := toString (shortest (nearest n) (nearest n).log2)

/-- Counts below this one have at most 53 significant bits. -/
def exactBound : Nat := Nat.pow 2 53

theorem nearest_of_lt {n : Nat} (h : n < exactBound) : nearest n = n := by
  have hs : n.log2 - 52 = 0 := by
    by_cases h0 : n = 0
    · subst h0; decide
    · have := (Nat.log2_lt h0).2 h
      omega
  simp [nearest, hs, Nat.mod_one]

theorem exactBound_le_nearest {n : Nat} (h : exactBound ≤ n) : exactBound ≤ nearest n := by
  have h0 : n ≠ 0 := Nat.ne_of_gt (Nat.lt_of_lt_of_le (by decide) h)
  have hl : 53 ≤ n.log2 := (Nat.le_log2 h0).2 h
  have hp : Nat.pow 2 52 * Nat.pow 2 (n.log2 - 52) = Nat.pow 2 n.log2 :=
    (Nat.pow_add 2 52 (n.log2 - 52)).symm.trans (congrArg (Nat.pow 2) (by omega))
  have hd : Nat.pow 2 52 ≤ n / Nat.pow 2 (n.log2 - 52) :=
    (Nat.le_div_iff_mul_le (Nat.two_pow_pos _)).2 (Nat.le_trans (Nat.le_of_eq hp)
      (Nat.log2_self_le h0))
  have hu : 2 ≤ Nat.pow 2 (n.log2 - 52) :=
    Nat.le_trans (by decide : 2 ≤ Nat.pow 2 1) (Nat.pow_le_pow_right (by decide) (by omega))
  have hm : exactBound ≤ n / Nat.pow 2 (n.log2 - 52) * Nat.pow 2 (n.log2 - 52) :=
    Nat.le_trans (by decide) (Nat.mul_le_mul hd hu)
  simp only [nearest]
  split
  · exact Nat.le_trans hm (Nat.mul_le_mul_right _ (Nat.le_succ _))
  · exact hm

theorem eq_of_nearest_eq {a v : Nat} (h : v < exactBound) (ha : nearest a = v) : a = v := by
  rcases Nat.lt_or_ge a exactBound with hs | hs
  · rwa [nearest_of_lt hs] at ha
  · exact absurd h (Nat.not_lt.2 (Nat.le_trans (exactBound_le_nearest hs) (Nat.le_of_eq ha)))

theorem shortest_of_lt {v : Nat} (h : v < exactBound) (places : Nat) : shortest v places = v := by
  induction places with
  | zero => rfl
  | succ places ih =>
    have hb := Nat.div_mul_le_self v (Nat.pow 10 (places + 1))
    have hn := nearest_of_lt (Nat.lt_of_le_of_lt hb h)
    unfold shortest
    simp only [hn]
    split
    · rename_i he
      rw [he]
      simp
    · split
      · exact eq_of_nearest_eq h ‹_›
      · exact ih

theorem shown_of_lt {n : Nat} (h : n < exactBound) : shown n = toString n := by
  simp [shown, nearest_of_lt h, shortest_of_lt h]

end EndpointGate.Number
