import EndpointGate.Proofs.Text.LetterCase
import EndpointGate.Text.UpperCase

/-!
# What upper case is made of

A character is its own upper case, or its upper case consists of characters from `A` on in the order of
code points (`mem_upperChar`). No upper case is empty. Hence the upper case of a text is an asterisk only
where the text is one.
-/

namespace EndpointGate.Text

/-- Every character of the run has a character as its upper case, from `A` on. -/
theorem upperRuns_range : ∀ r ∈ upperRuns, 65 ≤ r.upper ∧
    (r.upper + (r.last - r.first) < 0xD800 ∨
      0xDFFF < r.upper ∧ r.upper + (r.last - r.first) < 0x110000) := by
  decide +kernel

theorem upperExpansions_range : ∀ x ∈ upperExpansions, x.2 ≠ [] ∧ ∀ u ∈ x.2, 65 ≤ u ∧ u < 0xD800 := by
  decide +kernel

theorem asciiUpper_eq_or (c : Char) : asciiUpper c = c ∨ 65 ≤ (asciiUpper c).toNat := by
  rw [← Char.toNat_inj, asciiUpper_toNat]
  split_ifs <;> omega

/-- The code points of an upper case are the one that is asked for, or they belong to characters from `A`
on. -/
theorem upperCodes_range (n : Nat) : upperCodes n = [n] ∨
    upperCodes n ≠ [] ∧ ∀ u ∈ upperCodes n, 65 ≤ u ∧ (u < 0xD800 ∨ 0xDFFF < u ∧ u < 0x110000) := by
  unfold upperCodes
  split
  · rename_i x us hx
    right
    obtain ⟨hne, hus⟩ := upperExpansions_range _ (List.mem_of_find?_eq_some hx)
    exact ⟨hne, fun u hu => ⟨(hus u hu).1, .inl (hus u hu).2⟩⟩
  · split
    · rename_i r hr
      right
      refine ⟨List.cons_ne_nil _ _, fun u hu => ?_⟩
      obtain rfl := List.mem_singleton.1 hu
      have hrange := upperRuns_range r (List.mem_of_find?_eq_some hr)
      have hcovers := List.find?_some hr
      simp only [CaseRun.covers, Bool.and_eq_true, decide_eq_true_eq] at hcovers
      omega
    · exact .inl rfl

theorem upperChar_ne_nil (c : Char) : upperChar c ≠ [] := by
  unfold upperChar
  split
  · exact List.cons_ne_nil _ _
  · obtain h | ⟨h, -⟩ := upperCodes_range c.toNat
    · simp [h]
    · simpa using h

theorem mem_upperChar {c d : Char} (h : d ∈ upperChar c) : d = c ∨ 65 ≤ d.toNat := by
  unfold upperChar at h
  split at h
  · obtain rfl := List.mem_singleton.1 h
    exact asciiUpper_eq_or c
  · obtain ⟨u, hu, rfl⟩ := List.mem_map.1 h
    obtain hcodes | ⟨-, hcodes⟩ := upperCodes_range c.toNat
    · rw [hcodes, List.mem_singleton] at hu
      left
      rw [hu, Char.ofNat_toNat]
    · right
      rw [toNat_ofNat_of_isValidChar (hcodes u hu).2]
      exact (hcodes u hu).1

theorem upper_eq_nil_iff {cs : List Char} : upper cs = [] ↔ cs = [] := by
  cases cs with
  | nil => simp [upper]
  | cons c cs => simp [upper, upperChar_ne_nil]

theorem upper_eq_asterisk_iff {cs : List Char} : upper cs = ['*'] ↔ cs = ['*'] := by
  constructor
  · intro h
    cases cs with
    | nil => exact absurd h nofun
    | cons c cs =>
      have hc : upperChar c ++ upper cs = ['*'] := h
      obtain ⟨hnil, -⟩ | ⟨hone, hrest⟩ := List.append_eq_singleton_iff.1 hc
      · exact absurd hnil (upperChar_ne_nil c)
      · obtain rfl := upper_eq_nil_iff.1 hrest
        have hmem : '*' ∈ upperChar c := by rw [hone]; exact List.mem_singleton_self _
        obtain rfl | hlt := mem_upperChar hmem
        · rfl
        · exact absurd hlt (by decide)
  · rintro rfl
    decide

end EndpointGate.Text
