import Mathlib.Data.List.Basic
import Mathlib.Data.List.Induction

/-!
# Lists without repeats

`FirstOccurrences all xs` says that `xs` holds every element of `all` once, in the order in which they
occur first. There is one such list (`FirstOccurrences.eq`), and erasing duplicates finds it.
-/

namespace EndpointGate

variable {α : Type} [DecidableEq α] {all xs ys : List α}

/-- Every element of a list once, in the order of the first occurrences. -/
structure FirstOccurrences (all xs : List α) : Prop where
  mem_iff : ∀ a, a ∈ xs ↔ a ∈ all
  order : xs.Pairwise fun a b => all.idxOf a < all.idxOf b

theorem FirstOccurrences.nodup (h : FirstOccurrences all xs) : xs.Nodup := by
  apply h.order.imp
  rintro a b hlt rfl
  exact Nat.lt_irrefl _ hlt

theorem FirstOccurrences.ne_nil (h : FirstOccurrences all xs) (hne : all ≠ []) : xs ≠ [] := by
  rintro rfl
  obtain ⟨a, ha⟩ := List.exists_mem_of_ne_nil all hne
  exact List.not_mem_nil ((h.mem_iff a).2 ha)

theorem FirstOccurrences.of_nodup (h : xs.Nodup) : FirstOccurrences xs xs := by
  refine ⟨fun _ => Iff.rfl, List.pairwise_iff_getElem.2 fun i j hi hj hlt => ?_⟩
  rwa [h.idxOf_getElem, h.idxOf_getElem]

theorem FirstOccurrences.perm (hx : FirstOccurrences all xs) (hy : FirstOccurrences all ys) :
    xs.Perm ys := by
  rw [List.perm_ext_iff_of_nodup hx.nodup hy.nodup]
  intro a
  rw [hx.mem_iff, hy.mem_iff]

theorem FirstOccurrences.eq (hx : FirstOccurrences all xs) (hy : FirstOccurrences all ys) : xs = ys := by
  apply (hx.perm hy).eq_of_pairwise _ hx.order hy.order
  intro a b _ _ hab hba
  exact absurd (Nat.lt_trans hab hba) (Nat.lt_irrefl _)

theorem firstOccurrences_nil : FirstOccurrences ([] : List α) [] := ⟨fun _ => Iff.rfl, .nil⟩

/-- What has occurred before adds nothing, a new element comes last. -/
theorem FirstOccurrences.concat (h : FirstOccurrences all xs) (a : α) :
    FirstOccurrences (all ++ [a]) (if a ∈ all then xs else xs ++ [a]) := by
  have hold : xs.Pairwise fun b c => (all ++ [a]).idxOf b < (all ++ [a]).idxOf c := by
    apply h.order.imp_of_mem
    intro b c hb hc hlt
    rwa [List.idxOf_append_of_mem ((h.mem_iff b).1 hb), List.idxOf_append_of_mem ((h.mem_iff c).1 hc)]
  by_cases ha : a ∈ all
  · rw [if_pos ha]
    refine ⟨fun b => ?_, hold⟩
    rw [h.mem_iff, List.mem_append, List.mem_singleton]
    constructor
    · exact Or.inl
    · rintro (hb | rfl)
      · exact hb
      · exact ha
  · rw [if_neg ha]
    refine ⟨fun b => ?_, ?_⟩
    · rw [List.mem_append, List.mem_append, h.mem_iff]
    · apply List.pairwise_append.2
      refine ⟨hold, List.pairwise_singleton _ _, fun b hb c hc => ?_⟩
      obtain rfl := List.mem_singleton.1 hc
      have hball := (h.mem_iff b).1 hb
      rw [List.idxOf_append_of_mem hball, List.idxOf_append_of_notMem ha]
      have := List.idxOf_lt_length_of_mem hball
      omega

theorem firstOccurrences_eraseDups (all : List α) : FirstOccurrences all all.eraseDups := by
  induction all using List.reverseRecOn with
  | nil => exact firstOccurrences_nil
  | append_singleton all a ih =>
    have h := ih.concat a
    have hremove : [a].removeAll all = if a ∈ all then [] else [a] := by
      by_cases ha : a ∈ all <;> simp [List.removeAll, ha]
    rw [List.eraseDups_append, hremove]
    by_cases ha : a ∈ all
    · rw [if_pos ha] at h ⊢
      simpa using h
    · rw [if_neg ha] at h ⊢
      simpa [List.eraseDups_cons] using h

theorem eraseDups_eq_iff : all.eraseDups = xs ↔ FirstOccurrences all xs := by
  constructor
  · rintro rfl
    exact firstOccurrences_eraseDups all
  · exact (firstOccurrences_eraseDups all).eq

end EndpointGate
