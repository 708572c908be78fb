import EndpointGate.Gate
import Mathlib.Data.List.TakeWhile

/-!
# Sample paths

Filling takes every colon, plus and star out of a path and adds nothing but placeholders
(`mayOccur_of_mem_fill`). So a path without braces is its own sample just when it has none of the three
(`sample_eq_self_iff`), and the gate sees the whole sample of a path that has neither query nor fragment
(`uriPath_sample`).
-/

namespace EndpointGate.Route

/-- The character begins no parameter outside of braces. -/
def IsLiteral (c : Char) : Prop := c ≠ ':' ∧ c ≠ '+' ∧ c ≠ '*'

/-- The character may be in a filled text: it is one of the placeholder or of those that stay. -/
def MayOccur (c : Char) (cs : List Char) : Prop := c ∈ placeholder ∨ c ∈ cs ∧ IsLiteral c

variable {within : Within} {cs : List Char} {c d : Char} {path : String}

theorem MayOccur.cons (h : MayOccur c cs) : MayOccur c (d :: cs) :=
  h.imp_right fun h => ⟨List.mem_cons_of_mem d h.1, h.2⟩

theorem isLiteral_of_endsColon (h : endsColon c = true) : IsLiteral c := by
  simp only [endsColon, Bool.or_eq_true, beq_iff_eq] at h
  rcases h with (rfl | rfl) | rfl <;> simp [IsLiteral]

theorem mayOccur_of_mem_fill (h : c ∈ fill within cs) : MayOccur c cs := by
  fun_induction fill within cs with
  | case1 => exact absurd h List.not_mem_nil
  | case2 _ ih | case3 _ _ _ ih | case5 _ _ _ ih => exact (ih h).cons
  | case4 d cs hend ih =>
    rcases List.mem_cons.1 h with rfl | h
    · exact .inr ⟨List.mem_cons_self, isLiteral_of_endsColon hend⟩
    · exact (ih h).cons
  | case6 _ _ _ ih | case7 _ _ ih | case8 _ _ _ _ _ ih =>
    rcases List.mem_append.1 h with h | h
    · exact .inl h
    · exact (ih h).cons
  | case9 d cs _ hcolon hwild ih =>
    rcases List.mem_cons.1 h with rfl | h
    · exact .inr ⟨List.mem_cons_self, hcolon, not_or.1 hwild⟩
    · exact (ih h).cons

theorem isLiteral_of_mem_fill (h : c ∈ fill within cs) : IsLiteral c := by
  have hplaceholder : ∀ c ∈ placeholder, IsLiteral c := by simp [placeholder, IsLiteral]
  rcases mayOccur_of_mem_fill h with h | h
  · exact hplaceholder c h
  · exact h.2

theorem fill_eq_self (hbrace : '{' ∉ cs) (h : ∀ c ∈ cs, IsLiteral c) : fill .none cs = cs := by
  induction cs with
  | nil => rfl
  | cons c cs ih =>
    obtain ⟨hcolon, hplus, hstar⟩ := h c List.mem_cons_self
    have hopen : c ≠ '{' := fun hc => hbrace (hc ▸ List.mem_cons_self)
    have htail : fill .none cs = cs :=
      ih (fun hc => hbrace (List.mem_cons_of_mem c hc)) fun d hd => h d (List.mem_cons_of_mem c hd)
    simp [fill, hopen, hcolon, hplus, hstar, htail]

/-! ## Whole paths -/

theorem toList_sample (path : String) : (sample path).toList = fill .none path.toList :=
  String.toList_ofList

theorem isLiteral_of_mem_sample (h : c ∈ (sample path).toList) : IsLiteral c := by
  rw [toList_sample] at h
  exact isLiteral_of_mem_fill h

theorem sample_eq_self_iff (hbrace : '{' ∉ path.toList) :
    sample path = path ↔ ∀ c ∈ path.toList, IsLiteral c := by
  constructor
  · intro h c hc
    rw [← h] at hc
    exact isLiteral_of_mem_sample hc
  · intro h
    rw [← String.toList_inj, toList_sample, fill_eq_self hbrace h]

/-- A character that no placeholder has is in a sample only if it is in the path. -/
theorem not_mem_sample (hc : c ∉ placeholder) (h : c ∉ path.toList) : c ∉ (sample path).toList := by
  intro hmem
  rw [toList_sample] at hmem
  rcases mayOccur_of_mem_fill hmem with hp | hp
  · exact hc hp
  · exact h hp.1

theorem uriPath_eq_self (hquery : '?' ∉ path.toList) (hfragment : '#' ∉ path.toList) :
    uriPath path = path := by
  unfold uriPath
  rw [List.takeWhile_eq_self_iff.2, String.ofList_toList]
  intro c hc
  have hne : c ≠ '?' ∧ c ≠ '#' := ⟨fun h => hquery (h ▸ hc), fun h => hfragment (h ▸ hc)⟩
  simp [hne]

theorem uriPath_sample (hquery : '?' ∉ path.toList) (hfragment : '#' ∉ path.toList) :
    uriPath (sample path) = sample path :=
  uriPath_eq_self (not_mem_sample (by decide) hquery) (not_mem_sample (by decide) hfragment)

end EndpointGate.Route
