import EndpointGate.Text.Hash
import Mathlib.Data.String.Basic
import Mathlib.Tactic.SplitIfs

/-!
# The order of the octets

UTF-8 keeps the order of the characters: a longer encoding starts with a greater octet, and encodings of one
length are the digits of the character to the base 64 (`utf8EncodeChar_append_lt`). So texts are in the order
that their octets are in (`octets_lt_iff`).
-/

namespace EndpointGate.Text

variable {c d : Char} {cs ds : List Char} {s t : String}

theorem octets_eq_flatMap (s : String) : octets s = s.toList.flatMap String.utf8EncodeChar := by
  rw [octets, String.toUTF8_eq_toByteArray, ← String.utf8Encode_toList, List.utf8Encode,
    List.toList_data_toByteArray]

/-- The octets of a lesser character come first, whatever follows them. -/
theorem utf8EncodeChar_append_lt (h : c < d) (xs ys : List UInt8) :
    String.utf8EncodeChar c ++ xs < String.utf8EncodeChar d ++ ys := by
  have hlt : c.val.toNat < d.val.toNat := h
  have hmax : d.val.toNat < 0x110000 := by
    have hvalid := d.valid
    simp only [UInt32.isValidChar, Nat.isValidChar] at hvalid
    omega
  have htwice : ∀ n, n / 4096 = n / 64 / 64 := by omega
  have hthrice : ∀ n, n / 262144 = n / 64 / 64 / 64 := by omega
  unfold String.utf8EncodeChar
  simp only [htwice, hthrice]
  generalize c.val.toNat = m at *
  generalize d.val.toNat = n at *
  -- A case for each pair of lengths, of which the first is not the greater one.
  split_ifs <;> first
    | omega
    | simp only [List.cons_append, List.nil_append, List.cons_lt_cons_iff, UInt8.lt_iff_toNat_lt,
        ← UInt8.toNat_inj, UInt8.toNat_ofNat']
      omega

theorem flatMap_utf8EncodeChar_lt (h : cs < ds) :
    cs.flatMap String.utf8EncodeChar < ds.flatMap String.utf8EncodeChar := by
  induction h with
  | @nil d ds =>
    have hne : String.utf8EncodeChar d ≠ [] := by
      apply List.ne_nil_of_length_pos
      rw [String.length_utf8EncodeChar]
      exact d.utf8Size_pos
    obtain ⟨x, xs, hxs⟩ := List.exists_cons_of_ne_nil hne
    rw [List.flatMap_nil, List.flatMap_cons, hxs]
    exact List.nil_lt_cons _ _
  | rel h => exact utf8EncodeChar_append_lt h _ _
  | cons _ ih =>
    rw [List.flatMap_cons, List.flatMap_cons]
    exact List.append_left_lt ih

theorem octets_lt_iff : octets s < octets t ↔ s < t := by
  have hmono : ∀ {s t : String}, s < t → octets s < octets t := by
    intro s t h
    rw [octets_eq_flatMap, octets_eq_flatMap]
    exact flatMap_utf8EncodeChar_lt (String.lt_iff_toList_lt.1 h)
  refine ⟨fun h => ?_, hmono⟩
  rcases lt_trichotomy s t with hst | rfl | hts
  · exact hst
  · exact absurd h (List.lt_irrefl _)
  · exact absurd h (List.lt_asymm (hmono hts))

end EndpointGate.Text
