import EndpointGate.Proofs.Router.Template
import EndpointGate.Proofs.Text.Runs

/-!
# Paths that a template takes

`Spells` says how a template is written, and `Takes` which paths it takes: a parameter takes what is left of
a segment, and nothing only in front of a slash, the one for the rest takes all that is left. Reading finds
the template that is spelled (`spells_of_ofText?`, `Spells.unique`), and what it matches is what it takes
(`matches?_iff_takes`).
-/

namespace EndpointGate.Template

/-- The signs spell the template. A parameter is a name between braces at the end of a segment, the one for
the rest has a star in front of its name and stands at the end of the path. -/
inductive Spells : List Sign → Template → Prop
  | nil : Spells [] []
  | char {c : Char} {doubled : Bool} {ss : List Sign} {t : Template}
    (hc : doubled = true ∨ c ≠ '\x7b' ∧ c ≠ '\x7d') (h : Spells ss t) :
    Spells ((c, doubled) :: ss) (.char c :: t)
  | param {first : Sign} {name ss : List Sign} {t : Template} (hfirst : first.1 ≠ '*')
    (hname : ('\x7d', false) ∉ first :: name) (hend : ∀ s ∈ ss.head?, s.1 = '/') (h : Spells ss t) :
    Spells (('\x7b', false) :: (first :: name ++ ('\x7d', false) :: ss)) (.param :: t)
  | rest {doubled : Bool} {name : List Sign} (hname : ('\x7d', false) ∉ name) :
    Spells (('\x7b', false) :: ('*', doubled) :: (name ++ [('\x7d', false)])) [.rest]

/-- The template takes the path. -/
inductive Takes : Template → List Char → Prop
  | nil : Takes [] []
  | char (c : Char) {t : Template} {cs : List Char} (h : Takes t cs) : Takes (.char c :: t) (c :: cs)
  | param (value : List Char) {t : Template} {cs : List Char} (hvalue : '/' ∉ value)
    (hend : ∀ c ∈ cs.head?, c = '/') (hne : value = [] → cs ≠ []) (h : Takes t cs) :
    Takes (.param :: t) (value ++ cs)
  | rest {t : Template} {cs : List Char} (hne : cs ≠ []) : Takes (.rest :: t) cs

variable {t t' : Template} {cs : List Char} {ss : List Sign}

/-! ## Matching -/

theorem matches?_param (t : Template) {value : List Char} (hvalue : '/' ∉ value)
    (hend : ∀ c ∈ cs.head?, c = '/') :
    matches? (.param :: t) (value ++ cs) = (!(value ++ cs).isEmpty && t.matches? cs) := by
  have hall : ∀ c ∈ value, (!isSlash c) = true := by
    intro c hc
    have hne : c ≠ '/' := fun h => hvalue (h ▸ hc)
    simp [isSlash, hne]
  have hslash : ∀ c ∈ cs.head?, (!isSlash c) = false := by
    intro c hc
    simp [isSlash, hend c hc]
  show (_ && t.matches? ((value ++ cs).dropWhile fun c => !isSlash c)) = _
  rw [Text.dropWhile_append_of_head? hall hslash]

/-- Every path falls into what is left of its first segment and what follows it. -/
theorem exists_segment (cs : List Char) :
    ∃ value rest, cs = value ++ rest ∧ '/' ∉ value ∧ ∀ c ∈ rest.head?, c = '/' := by
  refine ⟨cs.takeWhile fun c => !isSlash c, cs.dropWhile fun c => !isSlash c,
    List.takeWhile_append_dropWhile.symm, ?_, ?_⟩
  · intro hmem
    exact absurd (List.mem_takeWhile_imp hmem) (by decide)
  · intro c hc
    have hslash := List.head?_dropWhile_not (fun c => !isSlash c) cs
    rw [hc] at hslash
    simpa [isSlash] using hslash

/-- **Templates.** A template matches the paths that it takes. -/
theorem matches?_iff_takes : t.matches? cs = true ↔ t.Takes cs := by
  constructor
  · intro h
    induction t generalizing cs with
    | nil =>
      obtain rfl := List.isEmpty_iff.1 h
      exact .nil
    | cons p t ih =>
      cases p with
      | char c =>
        cases cs with
        | nil => exact absurd h nofun
        | cons d cs =>
          obtain ⟨hc, ht⟩ := Bool.and_eq_true_iff.1 h
          obtain rfl := beq_iff_eq.1 hc
          exact .char c (ih ht)
      | param =>
        obtain ⟨value, rest, rfl, hvalue, hend⟩ := exists_segment cs
        rw [matches?_param t hvalue hend, Bool.and_eq_true] at h
        refine .param value hvalue hend ?_ (ih h.2)
        rintro rfl rfl
        exact absurd h.1 nofun
      | rest =>
        refine .rest ?_
        rintro rfl
        exact absurd h nofun
  · intro h
    induction h with
    | nil => rfl
    | char c _ ih =>
      show (c == c && _) = true
      rw [ih, beq_self_eq_true, Bool.and_self]
    | param value hvalue hend hne _ ih =>
      rw [matches?_param _ hvalue hend, ih, Bool.and_true]
      simpa [or_iff_not_imp_left] using hne
    | rest hne => simpa [matches?] using hne

/-! ## Reading -/

theorem not_mem_cons_of_ne {c : Char} {doubled : Bool} {name : List Sign}
    (hc : ¬(c = '\x7d' ∧ doubled = false)) (hname : ('\x7d', false) ∉ name) :
    ('\x7d', false) ∉ (c, doubled) :: name := by
  rw [List.mem_cons, not_or]
  refine ⟨?_, hname⟩
  rintro ⟨rfl, rfl⟩
  exact hc ⟨rfl, rfl⟩

/-- What is read behind an opening brace is a name up to its closing brace, and a template behind that. -/
theorem readParts?_name {isRest : Bool} (h : readParts? (.name isRest) ss = some t) :
    ∃ name ss' t', ss = name ++ ('\x7d', false) :: ss' ∧ ('\x7d', false) ∉ name ∧
      closes isRest ss' = true ∧ readParts? .outside ss' = some t' ∧
      t = (if isRest then .rest else .param) :: t' := by
  induction ss with
  | nil => exact absurd h nofun
  | cons s ss ih =>
    obtain ⟨c, doubled⟩ := s
    rw [readParts?] at h
    by_cases hclose : c = '\x7d' ∧ !doubled
    · rw [if_pos hclose] at h
      obtain ⟨rfl, hd⟩ := hclose
      rw [Bool.not_eq_true'] at hd
      subst hd
      obtain ⟨hcloses, h⟩ := Option.ite_none_right_eq_some.1 h
      obtain ⟨t', ht', rfl⟩ := Option.map_eq_some_iff.1 h
      exact ⟨[], ss, t', rfl, List.not_mem_nil, hcloses, ht', rfl⟩
    · rw [if_neg hclose] at h
      obtain ⟨-, h⟩ := Option.ite_none_left_eq_some.1 h
      obtain ⟨name, ss', t', rfl, hname, hcloses, ht', rfl⟩ := ih h
      exact ⟨(c, doubled) :: name, ss', t', rfl,
        not_mem_cons_of_ne (fun hc => hclose ⟨hc.1, by simp [hc.2]⟩) hname, hcloses, ht', rfl⟩

theorem closes_true_iff : closes true ss = true ↔ ss = [] := by
  cases ss <;> simp [closes]

theorem closes_false_iff : closes false ss = true ↔ ∀ s ∈ ss.head?, s.1 = '/' := by
  cases ss <;> simp [closes]

/-- Behind an opening brace a parameter is spelled, if what is shorter spells what is read from it. -/
theorem spells_of_opened (h : readParts? .opened ss = some t)
    (ih : ∀ ss' t', ss'.length < ss.length → readParts? .outside ss' = some t' → Spells ss' t') :
    Spells (('\x7b', false) :: ss) t := by
  rcases ss with - | ⟨⟨c, doubled⟩, ss⟩
  · simp [readParts?] at h
  rw [readParts?, Option.ite_none_left_eq_some] at h
  obtain ⟨hclose, h⟩ := h
  by_cases hstar : c = '*'
  · rw [if_pos hstar] at h
    rcases ss with - | ⟨⟨d, doubled'⟩, ss⟩
    · simp [readParts?] at h
    rw [readParts?, Option.ite_none_left_eq_some] at h
    obtain ⟨hfirst, h⟩ := h
    obtain ⟨name, ss', t', rfl, hname, hcloses, ht', rfl⟩ := readParts?_name h
    obtain rfl := closes_true_iff.1 hcloses
    obtain rfl := Option.some.inj ht'
    subst hstar
    have hnot : ('\x7d', false) ∉ (d, doubled') :: name :=
      not_mem_cons_of_ne (fun hd => hfirst (by simp [hd])) hname
    exact .rest hnot
  · rw [if_neg hstar] at h
    obtain ⟨name, ss', t', rfl, hname, hcloses, ht', rfl⟩ := readParts?_name h
    have hnot : ('\x7d', false) ∉ (c, doubled) :: name :=
      not_mem_cons_of_ne (fun hc => hclose hc.1) hname
    have hlt : ss'.length < ((c, doubled) :: (name ++ ('\x7d', false) :: ss')).length := by
      simp only [List.length_cons, List.length_append]
      omega
    exact .param hstar hnot (closes_false_iff.1 hcloses) (ih ss' t' hlt ht')

theorem spells_of_readParts? (h : readParts? .outside ss = some t) : Spells ss t := by
  -- a parameter is read in one go, so the induction is on the length
  induction hn : ss.length using Nat.strongRecOn generalizing ss t with
  | ind n ih =>
    subst hn
    rcases ss with - | ⟨⟨c, doubled⟩, ss⟩
    · obtain rfl := Option.some.inj h
      exact .nil
    have htail (t' : Template) (ht' : readParts? .outside ss = some t') : Spells ss t' :=
      ih ss.length (Nat.lt_succ_self _) ht' rfl
    rw [readParts?] at h
    split at h
    · next hd =>
      obtain ⟨t', ht', rfl⟩ := Option.map_eq_some_iff.1 h
      exact .char (.inl hd) (htail t' ht')
    · next hd =>
      split at h
      · next hopen =>
        subst hopen
        rw [Bool.not_eq_true] at hd
        subst hd
        exact spells_of_opened h fun ss' t' hlt ht' => ih ss'.length (Nat.lt_succ_of_lt hlt) ht' rfl
      · next hopen =>
        obtain ⟨hclose, h⟩ := Option.ite_none_left_eq_some.1 h
        obtain ⟨t', ht', rfl⟩ := Option.map_eq_some_iff.1 h
        exact .char (.inr ⟨hopen, hclose⟩) (htail t' ht')

/-- A list is cut at the first place of an element in one way. -/
theorem append_cons_inj_of_notMem {α : Type} {x : α} {l l' r r' : List α} (hl : x ∉ l) (hl' : x ∉ l')
    (h : l ++ x :: r = l' ++ x :: r') : l = l' ∧ r = r' := by
  induction l generalizing l' with
  | nil =>
    cases l' with
    | nil => exact ⟨rfl, (List.cons.inj h).2⟩
    | cons y l' => exact absurd ((List.cons.inj h).1 ▸ List.mem_cons_self) hl'
  | cons y l ih =>
    cases l' with
    | nil => exact absurd ((List.cons.inj h).1 ▸ List.mem_cons_self) hl
    | cons z l' =>
      obtain ⟨rfl, htail⟩ := List.cons.inj h
      obtain ⟨rfl, rfl⟩ := ih (List.not_mem_of_not_mem_cons hl) (List.not_mem_of_not_mem_cons hl') htail
      exact ⟨rfl, rfl⟩

/-- Signs spell one template. -/
theorem Spells.unique (h : Spells ss t) (h' : Spells ss t') : t = t' := by
  induction h generalizing t' with
  | nil =>
    cases h'
    rfl
  | char hc h ih =>
    cases h' with
    | char _ h' => rw [ih h']
    | param => simp at hc
    | rest => simp at hc
  | @param first name ss t hfirst hname hend h ih =>
    generalize hss : ('\x7b', false) :: (first :: name ++ ('\x7d', false) :: ss) = signs at h'
    cases h' with
    | nil => exact absurd hss nofun
    | char hc h' =>
      cases hss
      simp at hc
    | param _ hname' _ h' =>
      obtain ⟨-, rfl⟩ := append_cons_inj_of_notMem hname hname' (List.cons.inj hss).2
      rw [ih h']
    | rest hname' =>
      obtain ⟨rfl, -⟩ := List.cons.inj (List.cons.inj hss).2
      exact absurd rfl hfirst
  | @rest doubled name hname =>
    generalize hss : ('\x7b', false) :: ('*', doubled) :: (name ++ [('\x7d', false)]) = signs at h'
    cases h' with
    | nil => exact absurd hss nofun
    | char hc h' =>
      cases hss
      simp at hc
    | param hfirst' =>
      obtain ⟨rfl, -⟩ := List.cons.inj (List.cons.inj hss).2
      exact absurd rfl hfirst'
    | rest => rfl

theorem spells_of_ofText? {path : String} (h : ofText? path = some t) : Spells (signs path.toList) t :=
  spells_of_readParts? (Option.filter_eq_some_iff.1 h).1

/-- A path without braces spells itself. -/
theorem spells_literal (hopen : '\x7b' ∉ cs) (hclose : '\x7d' ∉ cs) : Spells (signs cs) (literal cs) := by
  rw [signs_of_not_mem hopen hclose]
  exact spells_of_readParts? (readParts?_outside hopen hclose)

end EndpointGate.Template
