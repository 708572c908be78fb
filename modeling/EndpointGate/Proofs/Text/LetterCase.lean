import EndpointGate.Text.Case
import Mathlib.Data.List.Basic

/-!
# Texts that differ in letter case

Both case mappings forget just the case of ASCII letters: texts have the same lower case if and only if they
have the same upper case.
-/

namespace EndpointGate.Text

theorem toNat_ofNat_of_isValidChar {n : Nat} (h : n < 0xD800 ∨ 0xDFFF < n ∧ n < 0x110000) :
    (Char.ofNat n).toNat = n := by
  have hvalid : n.isValidChar := h
  unfold Char.ofNat
  rw [dif_pos hvalid]
  rfl

theorem asciiUpper_toNat (c : Char) :
    (asciiUpper c).toNat = if 97 ≤ c.toNat ∧ c.toNat ≤ 122 then c.toNat - 32 else c.toNat := by
  have hiff : ('a' ≤ c ∧ c ≤ 'z') ↔ (97 ≤ c.toNat ∧ c.toNat ≤ 122) := Iff.rfl
  unfold asciiUpper
  by_cases h : 97 ≤ c.toNat ∧ c.toNat ≤ 122
  · rw [if_pos (hiff.2 h), if_pos h, toNat_ofNat_of_isValidChar (by omega)]
  · rw [if_neg (fun hc => h (hiff.1 hc)), if_neg h]

theorem asciiLower_toNat (c : Char) :
    (asciiLower c).toNat = if 65 ≤ c.toNat ∧ c.toNat ≤ 90 then c.toNat + 32 else c.toNat := by
  have hiff : ('A' ≤ c ∧ c ≤ 'Z') ↔ (65 ≤ c.toNat ∧ c.toNat ≤ 90) := Iff.rfl
  unfold asciiLower
  by_cases h : 65 ≤ c.toNat ∧ c.toNat ≤ 90
  · rw [if_pos (hiff.2 h), if_pos h, toNat_ofNat_of_isValidChar (by omega)]
  · rw [if_neg (fun hc => h (hiff.1 hc)), if_neg h]

theorem asciiUpper_asciiLower (c : Char) : asciiUpper (asciiLower c) = asciiUpper c := by
  apply Char.toNat_inj.1
  simp only [asciiUpper_toNat, asciiLower_toNat]
  split_ifs <;> omega

theorem asciiLower_asciiUpper (c : Char) : asciiLower (asciiUpper c) = asciiLower c := by
  apply Char.toNat_inj.1
  simp only [asciiUpper_toNat, asciiLower_toNat]
  split_ifs <;> omega

theorem asciiUpper_asciiUpper (c : Char) : asciiUpper (asciiUpper c) = asciiUpper c := by
  apply Char.toNat_inj.1
  simp only [asciiUpper_toNat]
  split_ifs <;> omega

theorem asciiUppercase_asciiLowercase (s : String) :
    asciiUppercase (asciiLowercase s) = asciiUppercase s := by
  apply String.ext
  simp [Function.comp_def, asciiUpper_asciiLower]

theorem asciiLowercase_asciiUppercase (s : String) :
    asciiLowercase (asciiUppercase s) = asciiLowercase s := by
  apply String.ext
  simp [Function.comp_def, asciiLower_asciiUpper]

@[simp] theorem asciiUppercase_asciiUppercase (s : String) :
    asciiUppercase (asciiUppercase s) = asciiUppercase s := by
  apply String.ext
  simp [Function.comp_def, asciiUpper_asciiUpper]

theorem asciiLowercase_eq_iff {s t : String} :
    asciiLowercase s = asciiLowercase t ↔ asciiUppercase s = asciiUppercase t := by
  constructor
  · intro h
    rw [← asciiUppercase_asciiLowercase s, h, asciiUppercase_asciiLowercase]
  · intro h
    rw [← asciiLowercase_asciiUppercase s, h, asciiLowercase_asciiUppercase]

end EndpointGate.Text
