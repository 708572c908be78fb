import EndpointGate.Proofs.Pattern.Scan

/-!
# What a segment of a pattern matches

`Segment.Reads` says what the text of a pattern segment stands for, without compiling it: `?` for any
character, `*` for any text, a template variable for any text, everything else for itself.
`Segment.accepts_ofText` says that the compiled segment accepts just that: it does not matter that
wildcards in a row become one, nor that a segment without wildcards is compared as a whole.
-/

namespace EndpointGate.Pattern

namespace Segment

/-- The text of a pattern segment, read from left to right, takes the path segment. A template variable
ends at the first closing brace; an opening brace without a closing one after it stands for itself. -/
inductive Reads : List Char → List Char → Prop
  | nil : Reads [] []
  | one (c : Char) {ps cs : List Char} (h : Reads ps cs) : Reads ('?' :: ps) (c :: cs)
  | star (taken : List Char) {ps cs : List Char} (h : Reads ps cs) : Reads ('*' :: ps) (taken ++ cs)
  | braces (taken : List Char) {name ps cs : List Char} (hname : '}' ∉ name) (h : Reads ps cs) :
    Reads ('{' :: (name ++ '}' :: ps)) (taken ++ cs)
  | char {c : Char} {ps cs : List Char} (hone : c ≠ '?') (hstar : c ≠ '*')
    (hopen : c = '{' → '}' ∉ ps) (h : Reads ps cs) : Reads (c :: ps) (c :: cs)

/-- Induction on the text of a segment as it is read: a template variable is one step. -/
theorem text_induction {P : List Char → Prop} (nil : P []) (one : ∀ ps, P ps → P ('?' :: ps))
    (star : ∀ ps, P ps → P ('*' :: ps))
    (braces : ∀ name ps, '}' ∉ name → P ps → P ('{' :: (name ++ '}' :: ps)))
    (char : ∀ c ps, c ≠ '?' → c ≠ '*' → (c = '{' → '}' ∉ ps) → P ps → P (c :: ps)) :
    ∀ text, P text := by
  intro text
  -- what follows a variable is no direct part of the text, so the induction is on the length
  induction hn : text.length using Nat.strongRecOn generalizing text with
  | ind n ih =>
    cases text with
    | nil => exact nil
    | cons c ps =>
      subst hn
      have hps : P ps := ih ps.length (Nat.lt_succ_self _) ps rfl
      by_cases hone : c = '?'
      · exact hone ▸ one ps hps
      by_cases hstar : c = '*'
      · exact hstar ▸ star ps hps
      by_cases hopen : c = '{' ∧ '}' ∈ ps
      · obtain ⟨rfl, hmem⟩ := hopen
        obtain ⟨name, rest, rfl, hname⟩ := List.eq_append_cons_of_mem hmem
        refine braces name rest hname (ih rest.length ?_ rest rfl)
        rw [List.length_cons, List.length_append, List.length_cons]
        omega
      · exact char c ps hone hstar (fun hc hmem => hopen ⟨hc, hmem⟩) hps

end Segment

/-! ## The tokens of a text -/

namespace Token

theorem ofText_one (ps : List Char) : ofText false ('?' :: ps) = .one :: ofText false ps := by
  rw [ofText, if_pos rfl]

theorem ofText_star (ps : List Char) : ofText false ('*' :: ps) = consMany (ofText false ps) := by
  rw [ofText, if_neg (by decide), if_pos rfl]

/-- Inside a template variable everything is passed over up to its closing brace. -/
theorem ofText_true {name : List Char} (hname : '}' ∉ name) (ps : List Char) :
    ofText true (name ++ '}' :: ps) = ofText false ps := by
  induction name with
  | nil => rfl
  | cons c name ih =>
    have hc : c ≠ '}' := fun h => hname (h ▸ List.mem_cons_self)
    rw [List.cons_append, ofText, bne_iff_ne.2 hc]
    exact ih fun h => hname (List.mem_cons_of_mem c h)

theorem ofText_braces {name : List Char} (hname : '}' ∉ name) (ps : List Char) :
    ofText false ('{' :: (name ++ '}' :: ps)) = consMany (ofText false ps) := by
  rw [ofText, if_neg (by decide), if_neg (by decide),
    if_pos ⟨rfl, List.mem_append_right _ List.mem_cons_self⟩, ofText_true hname]

theorem ofText_char {c : Char} {ps : List Char} (hone : c ≠ '?') (hstar : c ≠ '*')
    (hopen : c = '{' → '}' ∉ ps) : ofText false (c :: ps) = .char c :: ofText false ps := by
  rw [ofText, if_neg hone, if_neg hstar, if_neg fun h => hopen h.1 h.2]

/-- One `many` matches what two in a row match. -/
theorem matches_consMany {ts : List Token} {cs : List Char} :
    Matches (consMany ts) cs ↔ Matches (.many :: ts) cs := by
  unfold consMany
  split
  · refine Iff.trans ?_ matches_many_iff.symm
    constructor
    · exact fun h => ⟨[], cs, rfl, h⟩
    · rintro ⟨taken, rest, rfl, h⟩
      obtain ⟨taken', rest', rfl, hm⟩ := matches_many_iff.1 h
      rw [← List.append_assoc]
      exact .many _ hm
  · exact Iff.rfl

/-- The tokens of a text match what the text reads. -/
theorem matches_ofText {text part : List Char} :
    Matches (ofText false text) part ↔ Segment.Reads text part := by
  constructor
  · intro h
    induction text using Segment.text_induction generalizing part with
    | nil => cases h; exact .nil
    | one ps ih =>
      rw [ofText_one] at h
      cases h with
      | one c h => exact .one c (ih h)
    | star ps ih =>
      rw [ofText_star, matches_consMany, matches_many_iff] at h
      obtain ⟨taken, rest, rfl, h⟩ := h
      exact .star taken (ih h)
    | braces name ps hname ih =>
      rw [ofText_braces hname, matches_consMany, matches_many_iff] at h
      obtain ⟨taken, rest, rfl, h⟩ := h
      exact .braces taken hname (ih h)
    | char c ps hone hstar hopen ih =>
      rw [ofText_char hone hstar hopen] at h
      cases h with
      | char c h => exact .char hone hstar hopen (ih h)
  · intro h
    induction h with
    | nil => exact .nil
    | one c _ ih => rw [ofText_one]; exact .one c ih
    | star taken _ ih => rw [ofText_star, matches_consMany]; exact .many taken ih
    | braces taken hname _ ih =>
      rw [ofText_braces hname, matches_consMany]
      exact .many taken ih
    | char hone hstar hopen _ ih => rw [ofText_char hone hstar hopen]; exact .char _ ih

end Token

/-! ## Compiled segments -/

namespace Segment

/-- Without wildcards a text reads just itself. -/
theorem reads_iff_eq {text part : List Char} (h : ∀ c ∈ text, isWild c = false) :
    Reads text part ↔ text = part := by
  constructor
  · intro hr
    induction hr with
    | nil => rfl
    | one => exact absurd (h _ List.mem_cons_self) nofun
    | star => exact absurd (h _ List.mem_cons_self) nofun
    | braces => exact absurd (h _ List.mem_cons_self) nofun
    | char _ _ _ _ ih => rw [ih fun c hc => h c (List.mem_cons_of_mem _ hc)]
  · rintro rfl
    induction text with
    | nil => exact .nil
    | cons c cs ih =>
      have hc := h c List.mem_cons_self
      refine .char ?_ ?_ ?_ (ih fun d hd => h d (List.mem_cons_of_mem _ hd))
      · rintro rfl; exact absurd hc nofun
      · rintro rfl; exact absurd hc nofun
      · rintro rfl; exact absurd hc nofun

/-- **Segments.** A compiled segment accepts the path segments that its text reads. -/
theorem accepts_ofText {text part : List Char} (h : text ≠ ['*', '*']) :
    (ofText text).accepts part = true ↔ Reads text part := by
  unfold ofText
  rw [if_neg h]
  split
  · exact (matchesTokens_iff _ _).trans Token.matches_ofText
  · rename_i hwild
    rw [Bool.not_eq_true, List.any_eq_false] at hwild
    rw [reads_iff_eq fun c hc => Bool.not_eq_true _ ▸ hwild c hc]
    exact beq_iff_eq

end Segment

end EndpointGate.Pattern
