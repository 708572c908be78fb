import EndpointGate.Proofs.Pattern.Language
import EndpointGate.Proofs.Text.Runs

/-!
# Patterns without wildcards

Such a pattern has itself for a path (`matches?_literal_self`), and a path that it matches can differ from
it in slashes only (`mem_iff_of_matches?_literal`).
-/

namespace EndpointGate.Pattern

/-- The text stands for itself. -/
def HasNoWild (text : List Char) : Prop := ∀ c ∈ text, isWild c = false

variable {ps qs : List (List Char)} {pattern path : String} {c : Char}

theorem takes_iff_eq (h : ∀ p ∈ ps, HasNoWild p) : Takes ps qs ↔ ps = qs := by
  constructor
  · intro ht
    induction ht with
    | nil => rfl
    | any => exact absurd (h _ List.mem_cons_self '*' List.mem_cons_self) nofun
    | one _ hr _ ih =>
      rw [(Segment.reads_iff_eq (h _ List.mem_cons_self)).1 hr,
        ih fun p hp => h p (List.mem_cons_of_mem _ hp)]
  · rintro rfl
    induction ps with
    | nil => exact .nil
    | cons p ps ih =>
      have hp := h p List.mem_cons_self
      refine .one ?_ ((Segment.reads_iff_eq hp).2 rfl) (ih fun q hq => h q (List.mem_cons_of_mem p hq))
      rintro rfl
      exact absurd (hp '*' List.mem_cons_self) nofun

/-! ## Characters of segments -/

theorem flatten_slashParts (s : String) : (slashParts s).flatten = s.toList.filter fun c => !isSlash c := by
  rw [← pathParts_eq_slashParts]
  exact (Text.runs_fields isSlash s.toList).flatten_eq

theorem hasNoWild_slashParts (h : HasNoWild pattern.toList) : ∀ p ∈ slashParts pattern, HasNoWild p := by
  intro p hp c hc
  have hmem : c ∈ (slashParts pattern).flatten := List.mem_flatten.2 ⟨p, hp, hc⟩
  rw [flatten_slashParts] at hmem
  exact h c (List.mem_of_mem_filter hmem)

/-! ## Literal patterns -/

theorem matches?_literal_self (h : HasNoWild path.toList) : (compile path).matches? path = true := by
  apply (matches?_compile path path).2
  exact ⟨Iff.rfl, (takes_iff_eq (hasNoWild_slashParts h)).2 rfl, .inr Iff.rfl⟩

theorem mem_iff_of_matches?_literal (h : HasNoWild pattern.toList)
    (hm : (compile pattern).matches? path = true) (hc : c ≠ '/') :
    c ∈ path.toList ↔ c ∈ pattern.toList := by
  have htakes := ((matches?_compile pattern path).1 hm).takes
  have hparts := (takes_iff_eq (hasNoWild_slashParts h)).1 htakes
  have hmem (s : String) : c ∈ (slashParts s).flatten ↔ c ∈ s.toList := by
    simp [flatten_slashParts, isSlash, hc]
  rw [← hmem path, ← hmem pattern, hparts]

end EndpointGate.Pattern
