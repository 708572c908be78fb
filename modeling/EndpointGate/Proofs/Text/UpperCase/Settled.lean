import EndpointGate.Proofs.Text.UpperCase
import EndpointGate.Text.Blank
import Mathlib.Data.List.Basic

/-!
# Texts in upper case

A text in upper case stays as it is (`upper_upper`), and an upper case brings no brackets, commas and blanks
with it (`isPlain_of_mem_upper`). Both are a matter of the tables: the code points of `capitals`, which are
upper cases of others, are none of `nonCapitals`. Sets of code points are kept as the bits of numbers, so that
the two meet if their numbers have a bit in common.
-/

namespace EndpointGate.Text

/-! ## Sets of code points -/

def CaseRun.codes (r : CaseRun) : List Nat :=
  (List.range ((r.last - r.first) / r.step + 1)).map fun k => r.first + k * r.step

def codeBits (codes : List Nat) : Nat := codes.foldr (fun n bits => 1 <<< n ||| bits) 0

def runBits (runs : List CaseRun) : Nat := runs.foldr (fun r bits => codeBits r.codes ||| bits) 0

theorem testBit_codeBits {codes : List Nat} {n : Nat} (h : n ∈ codes) :
    (codeBits codes).testBit n = true := by
  induction codes with
  | nil => exact absurd h List.not_mem_nil
  | cons m codes ih =>
    show (1 <<< m ||| codeBits codes).testBit n = true
    rw [Nat.testBit_or, Bool.or_eq_true]
    rcases List.mem_cons.1 h with rfl | h
    · left
      simp [Nat.testBit_shiftLeft]
    · exact .inr (ih h)

theorem CaseRun.mem_codes {r : CaseRun} {n : Nat} (h : r.covers n = true) : n ∈ r.codes := by
  simp only [covers, Bool.and_eq_true, decide_eq_true_eq, beq_iff_eq] at h
  obtain ⟨⟨hfirst, hlast⟩, hstep⟩ := h
  refine List.mem_map.2 ⟨(n - r.first) / r.step, List.mem_range.2 ?_, ?_⟩
  · exact Nat.lt_succ_of_le (Nat.div_le_div_right (by omega))
  · rw [Nat.div_mul_cancel (Nat.dvd_of_mod_eq_zero hstep)]
    omega

theorem testBit_runBits {runs : List CaseRun} {r : CaseRun} {n : Nat} (hr : r ∈ runs)
    (h : r.covers n = true) : (runBits runs).testBit n = true := by
  induction runs with
  | nil => exact absurd hr List.not_mem_nil
  | cons q runs ih =>
    show (codeBits q.codes ||| runBits runs).testBit n = true
    rw [Nat.testBit_or, Bool.or_eq_true]
    rcases List.mem_cons.1 hr with rfl | hr
    · exact .inl (testBit_codeBits (CaseRun.mem_codes h))
    · exact .inr (ih hr)

/-! ## Capitals -/

/-- The upper cases of characters outside ASCII that are not their own. -/
def capitals : List CaseRun :=
  upperRuns.map (fun r => ⟨r.upper, r.upper + (r.last - r.first), r.step, r.upper⟩) ++
    (upperExpansions.flatMap (·.2)).map fun u => ⟨u, u, 1, u⟩

/-- Brackets, and the blanks outside ASCII. -/
def plainGaps : List CaseRun :=
  [⟨0x5B, 0x5B, 1, 0⟩, ⟨0x5D, 0x5D, 1, 0⟩, ⟨0x85, 0x85, 1, 0⟩, ⟨0xA0, 0xA0, 1, 0⟩,
    ⟨0x1680, 0x1680, 1, 0⟩, ⟨0x2000, 0x200A, 1, 0⟩, ⟨0x2028, 0x2029, 1, 0⟩, ⟨0x202F, 0x202F, 1, 0⟩,
    ⟨0x205F, 0x205F, 1, 0⟩, ⟨0x3000, 0x3000, 1, 0⟩]

/-- The characters with another upper case, the brackets and the blanks. -/
def nonCapitals : List CaseRun :=
  ⟨0x61, 0x7A, 1, 0x41⟩ :: upperRuns ++ upperExpansions.map (fun x => ⟨x.1, x.1, 1, x.1⟩) ++ plainGaps

theorem capitals_disjoint : runBits capitals &&& runBits nonCapitals = 0 := by
  decide +kernel

theorem not_covers_of_capital {r s : CaseRun} (hr : r ∈ capitals) (hs : s ∈ nonCapitals) {u : Nat}
    (hu : r.covers u = true) : s.covers u = false := by
  by_contra hcovers
  have hboth : (runBits capitals &&& runBits nonCapitals).testBit u = true := by
    rw [Nat.testBit_and, testBit_runBits hr hu, testBit_runBits hs (by simpa using hcovers)]
    rfl
  rw [capitals_disjoint, Nat.zero_testBit] at hboth
  exact absurd hboth nofun

theorem covers_single {n u : Nat} : CaseRun.covers ⟨n, n, 1, n⟩ u = true ↔ u = n := by
  simp only [CaseRun.covers, Bool.and_eq_true, decide_eq_true_eq, beq_iff_eq]
  omega

/-- A code point of an upper case belongs to a character that is its own upper case, or it is one of the
capitals. -/
theorem upperCodes_eq_or (n : Nat) :
    upperCodes n = [n] ∨ ∀ u ∈ upperCodes n, ∃ r ∈ capitals, r.covers u = true := by
  unfold upperCodes
  split
  · rename_i x us hx
    right
    intro u hu
    have hmem : u ∈ upperExpansions.flatMap (·.2) :=
      List.mem_flatMap.2 ⟨_, List.mem_of_find?_eq_some hx, hu⟩
    exact ⟨_, List.mem_append_right _ (List.mem_map_of_mem hmem), covers_single.2 rfl⟩
  · split
    · rename_i r hr
      right
      intro u hu
      obtain rfl := List.mem_singleton.1 hu
      refine ⟨_, List.mem_append_left _ (List.mem_map_of_mem (List.mem_of_find?_eq_some hr)), ?_⟩
      have hcovers := List.find?_some hr
      simp only [CaseRun.covers, Bool.and_eq_true, decide_eq_true_eq, beq_iff_eq] at hcovers ⊢
      obtain ⟨⟨hfirst, hlast⟩, hstep⟩ := hcovers
      refine ⟨⟨by omega, by omega⟩, ?_⟩
      rwa [Nat.add_sub_cancel_left]
    · exact .inl rfl

theorem upperCodes_of_capital {r : CaseRun} (hr : r ∈ capitals) {u : Nat} (hu : r.covers u = true) :
    upperCodes u = [u] := by
  have hexpansions : upperExpansions.find? (·.1 == u) = none := by
    rw [List.find?_eq_none]
    intro x hx hxu
    have hmem : (⟨x.1, x.1, 1, x.1⟩ : CaseRun) ∈ nonCapitals :=
      List.mem_append_left _ (List.mem_append_right _ (List.mem_map_of_mem hx))
    have hno := not_covers_of_capital hr hmem hu
    rw [covers_single.2 (beq_iff_eq.1 hxu).symm] at hno
    exact absurd hno nofun
  have hruns : upperRuns.find? (·.covers u) = none := by
    rw [List.find?_eq_none]
    intro s hs hsu
    have hmem : s ∈ nonCapitals :=
      List.mem_append_left _ (List.mem_append_left _ (List.mem_cons_of_mem _ hs))
    rw [not_covers_of_capital hr hmem hu] at hsu
    exact absurd hsu nofun
  unfold upperCodes
  rw [hexpansions, hruns]

/-! ## Characters -/

theorem upperChar_of_ascii {c : Char} (h : c.toNat < 0x80) : upperChar c = [asciiUpper c] := if_pos h

theorem upperChar_of_not_ascii {c : Char} (h : ¬c.toNat < 0x80) :
    upperChar c = (upperCodes c.toNat).map Char.ofNat := if_neg h

/-- A character of an upper case is in upper case already, an ASCII letter or a capital. -/
theorem mem_upperChar_cases {c d : Char} (h : d ∈ upperChar c) :
    (d = c ∧ upperChar c = [c]) ∨ (65 ≤ d.toNat ∧ d.toNat ≤ 90) ∨ ∃ r ∈ capitals, r.covers d.toNat = true := by
  by_cases hc : c.toNat < 0x80
  · have hupper := upperChar_of_ascii hc
    rw [hupper, List.mem_singleton] at h
    by_cases hletter : 97 ≤ c.toNat ∧ c.toNat ≤ 122
    · right
      left
      rw [h, asciiUpper_toNat, if_pos hletter]
      omega
    · left
      have hself : asciiUpper c = c := by
        rw [← Char.toNat_inj, asciiUpper_toNat, if_neg hletter]
      rw [h, hupper, hself]
      exact ⟨rfl, rfl⟩
  · have hupper := upperChar_of_not_ascii hc
    rw [hupper] at h
    obtain ⟨u, hu, rfl⟩ := List.mem_map.1 h
    rcases upperCodes_range c.toNat with hself | ⟨-, hrange⟩
    · left
      rw [hself, List.mem_singleton] at hu
      rw [hupper, hself, hu, List.map_singleton, Char.ofNat_toNat]
      exact ⟨rfl, rfl⟩
    · rw [toNat_ofNat_of_isValidChar (hrange u hu).2]
      rcases upperCodes_eq_or c.toNat with hself | hcapital
      · left
        rw [hself, List.mem_singleton] at hu
        rw [hupper, hself, hu, List.map_singleton, Char.ofNat_toNat]
        exact ⟨rfl, rfl⟩
      · exact .inr (.inr (hcapital u hu))

/-- A character that is no small letter is in upper case if the tables have nothing else for it. -/
theorem upperChar_eq_self {d : Char} (hletter : ¬(97 ≤ d.toNat ∧ d.toNat ≤ 122))
    (hcodes : ¬d.toNat < 0x80 → upperCodes d.toNat = [d.toNat]) : upperChar d = [d] := by
  by_cases hd : d.toNat < 0x80
  · rw [upperChar_of_ascii hd, List.singleton_inj, ← Char.toNat_inj, asciiUpper_toNat, if_neg hletter]
  · rw [upperChar_of_not_ascii hd, hcodes hd, List.map_singleton, Char.ofNat_toNat]

theorem upperChar_of_mem {c d : Char} (h : d ∈ upperChar c) : upperChar d = [d] := by
  rcases mem_upperChar_cases h with ⟨rfl, hself⟩ | hletter | ⟨r, hr, hu⟩
  · exact hself
  · exact upperChar_eq_self (by omega) fun hd => absurd hd (by omega)
  · refine upperChar_eq_self ?_ fun _ => upperCodes_of_capital hr hu
    have hno := not_covers_of_capital (s := ⟨0x61, 0x7A, 1, 0x41⟩) hr (by simp [nonCapitals]) hu
    simp only [CaseRun.covers, Nat.mod_one] at hno
    simpa using hno

/-- The character may stand in a name: it is no blank, no bracket and no comma. -/
def IsPlain (c : Char) : Prop := isBlank c = false ∧ c ≠ '[' ∧ c ≠ ']' ∧ c ≠ ','

theorem isPlain_of_letter {d : Char} (h : 65 ≤ d.toNat ∧ d.toNat ≤ 90) : IsPlain d := by
  refine ⟨?_, ?_, ?_, ?_⟩
  · simp only [isBlank, Bool.or_eq_false_iff, Bool.and_eq_false_iff, decide_eq_false_iff_not,
      beq_eq_false_iff_ne]
    omega
  all_goals
    rintro rfl
    revert h
    decide

theorem isPlain_of_capital {d : Char} {r : CaseRun} (hr : r ∈ capitals) (h : r.covers d.toNat = true)
    (hd : 65 ≤ d.toNat) : IsPlain d := by
  have hgap (s : CaseRun) (hs : s ∈ plainGaps) : s.covers d.toNat = false :=
    not_covers_of_capital hr (List.mem_append_right _ hs) h
  simp [plainGaps, CaseRun.covers, Nat.mod_one] at hgap
  refine ⟨?_, ?_, ?_, ?_⟩
  · simp only [isBlank, Bool.or_eq_false_iff, Bool.and_eq_false_iff, decide_eq_false_iff_not,
      beq_eq_false_iff_ne]
    omega
  all_goals
    rintro rfl
    revert hgap hd
    decide

/-- An upper case brings nothing that may not stand in a name. -/
theorem isPlain_of_mem_upperChar {c d : Char} (h : d ∈ upperChar c) (hc : IsPlain c) : IsPlain d := by
  have hfrom := mem_upperChar h
  rcases mem_upperChar_cases h with ⟨rfl, -⟩ | hletter | ⟨r, hr, hu⟩
  · exact hc
  · exact isPlain_of_letter hletter
  · rcases hfrom with rfl | hd
    · exact hc
    · exact isPlain_of_capital hr hu hd

/-! ## Texts -/

theorem isPlain_of_mem_upper {cs : List Char} (h : ∀ c ∈ cs, IsPlain c) : ∀ d ∈ upper cs, IsPlain d := by
  intro d hd
  obtain ⟨c, hc, hdc⟩ := List.mem_flatMap.1 hd
  exact isPlain_of_mem_upperChar hdc (h c hc)

theorem upper_eq_self {cs : List Char} (h : ∀ c ∈ cs, upperChar c = [c]) : upper cs = cs := by
  induction cs with
  | nil => rfl
  | cons c cs ih =>
    have hcs := ih fun d hd => h d (List.mem_cons_of_mem c hd)
    unfold upper at hcs ⊢
    rw [List.flatMap_cons, hcs, h c List.mem_cons_self]
    rfl

/-- What is in upper case stays as it is. -/
theorem upper_upper (cs : List Char) : upper (upper cs) = upper cs := by
  apply upper_eq_self
  intro d hd
  obtain ⟨c, -, hdc⟩ := List.mem_flatMap.1 hd
  exact upperChar_of_mem hdc

end EndpointGate.Text
