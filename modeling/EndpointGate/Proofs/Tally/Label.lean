import EndpointGate.Proofs.Text.LetterCase
import EndpointGate.Tally.Basic

/-!
# Method labels

A method has one of ten labels, by `labelOf_eq_iff` the one that `IsLabelOf` describes.
-/

namespace EndpointGate.Tally

/-- The labels that methods have. -/
def labels : List String := labelledMethods ++ [otherLabel]

/-- The method has this label: it is the same method but for letter case, or there is no such one. -/
def IsLabelOf (label method : String) : Prop :=
  (label ∈ labelledMethods ∧ Text.asciiLowercase label = Text.asciiLowercase method) ∨
    (label = otherLabel ∧ ∀ m ∈ labelledMethods, Text.asciiLowercase m ≠ Text.asciiLowercase method)

instance (label method : String) : Decidable (IsLabelOf label method) :=
  inferInstanceAs (Decidable ((_ ∧ _) ∨ (_ ∧ _)))

variable {label label' method : String}

theorem asciiUppercase_of_mem (h : label ∈ labelledMethods) : Text.asciiUppercase label = label := by
  revert label
  decide

theorem asciiLowercase_eq_iff_of_mem (h : label ∈ labelledMethods) :
    Text.asciiLowercase label = Text.asciiLowercase method ↔ Text.asciiUppercase method = label := by
  rw [Text.asciiLowercase_eq_iff, asciiUppercase_of_mem h]
  exact eq_comm

theorem labelOf_eq_iff : labelOf method = label ↔ IsLabelOf label method := by
  unfold labelOf IsLabelOf
  by_cases hm : Text.asciiUppercase method ∈ labelledMethods
  · rw [if_pos hm]
    constructor
    · rintro rfl
      exact .inl ⟨hm, (asciiLowercase_eq_iff_of_mem hm).2 rfl⟩
    · rintro (⟨hl, heq⟩ | ⟨-, hno⟩)
      · exact (asciiLowercase_eq_iff_of_mem hl).1 heq
      · exact absurd ((asciiLowercase_eq_iff_of_mem hm).2 rfl) (hno _ hm)
  · rw [if_neg hm]
    constructor
    · rintro rfl
      refine .inr ⟨rfl, fun m hl heq => hm ?_⟩
      rwa [(asciiLowercase_eq_iff_of_mem hl).1 heq]
    · rintro (⟨hl, heq⟩ | ⟨rfl, -⟩)
      · rw [(asciiLowercase_eq_iff_of_mem hl).1 heq] at hm
        exact absurd hl hm
      · rfl

theorem labelOf_mem_labels (method : String) : labelOf method ∈ labels := by
  unfold labelOf labels
  rw [List.mem_append, List.mem_singleton]
  split
  · rename_i h
    exact .inl h
  · exact .inr rfl

@[simp] theorem labelOf_asciiUppercase (method : String) :
    labelOf (Text.asciiUppercase method) = labelOf method := by
  unfold labelOf
  rw [Text.asciiUppercase_asciiUppercase]

end EndpointGate.Tally
