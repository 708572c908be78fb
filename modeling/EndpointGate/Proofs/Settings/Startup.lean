import EndpointGate.CommandLine.Run
import EndpointGate.Proofs.Declaration.Grammar

/-!
# Settings at the start

At the start the settings of a text are loaded, and the variables override them. Loading checks the settings
of the text by themselves, so that they have to be usable whatever the variables say: `startup_eq_ok_iff`.
Variables take precedence over a text unless they mend settings that cannot be used
(`takesPrecedence_iff`).
-/

namespace EndpointGate

namespace Settings

/-- The settings at the start, from a text and variables. -/
def startup (text : String) (vars : Variables) : Except SettingsError Settings :=
  (load text).bind fun s =>
    match s.applyVariables vars with
    | (_, .error e) => .error e
    | (s', .ok ()) => .ok s'

/-- There is a declaration, and nothing else among the declarations. -/
def IsDeclared (patterns : Option (List String)) : Prop :=
  ∃ entries, patterns = some entries ∧ entries ≠ [] ∧ ∀ x ∈ entries, Declaration.IsDeclaration x

/-- The settings can be used: if they are switched on, something is declared. -/
def IsUsable (s : Settings) : Prop := s.disabled = true → IsDeclared s.patterns

/-- The variables take precedence over the text, whose settings these are: the start gives the settings that
are overridden by the variables, just if they are valid. -/
def TakesPrecedence (vars : Variables) (text : String) (s₀ : Settings) : Prop :=
  ∀ s, startup text vars = .ok s ↔ s₀.override vars = .ok s ∧ s.validate = .ok ()

/-- The switch once the variables have overridden it, if it can be read. -/
def switch? (vars : Variables) (s : Settings) : Option Bool :=
  match vars disabledVariable with
  | none => some s.disabled
  | some value => flag? value

/-- The variables mend settings that cannot be used: they switch them off or declare something. -/
structure Mends (vars : Variables) (s : Settings) : Prop where
  disabled : s.disabled = true
  undeclared : ¬IsDeclared s.patterns
  mended : switch? vars s = some false ∨
    switch? vars s = some true ∧ IsDeclared ((vars patternsVariable).map patternsOf)

variable {vars : Variables} {text : String} {s s₀ : Settings}

/-! ## Validation -/

theorem registry_of_disabled (h : s.disabled = true) (hne : s.patterns ≠ none ∧ s.patterns ≠ some []) :
    ∃ entries, s.patterns = some entries ∧ s.registry = (Registry.ofEntries entries).map some := by
  unfold registry
  rw [if_pos h]
  split
  · rename_i hp
    exact absurd hp hne.1
  · rename_i hp
    exact absurd hp hne.2
  · rename_i entries _ hp
    exact ⟨entries, hp, rfl⟩

theorem validate_eq_ok_iff : s.validate = .ok () ↔ s.IsUsable := by
  cases hs : s.disabled with
  | false => simp [validate, registry, IsUsable, hs, Except.map]
  | true =>
    by_cases hne : s.patterns ≠ none ∧ s.patterns ≠ some []
    · obtain ⟨entries, hp, hr⟩ := registry_of_disabled hs hne
      have hlist : entries ≠ [] := by
        rintro rfl
        exact hne.2 hp
      have hdeclared : IsUsable s ↔ ¬∃ x ∈ entries, ¬Declaration.IsDeclaration x := by
        simp [IsUsable, IsDeclared, hs, hp, hlist]
      rw [hdeclared, ← Registry.exists_error_iff, validate, hr]
      cases Registry.ofEntries entries <;> simp [Except.map]
    · have hnone : s.patterns = none ∨ s.patterns = some [] := by
        by_contra hcon
        exact hne (not_or.1 hcon)
      obtain hp | hp := hnone <;> simp [validate, registry, IsUsable, IsDeclared, hs, hp, Except.map]

/-! ## Overriding -/

theorem applyVariables_eq_ok_iff :
    s₀.applyVariables vars = (s, .ok ()) ↔ s₀.override vars = .ok s ∧ s.validate = .ok () := by
  unfold applyVariables
  cases s₀.override vars with
  | error e => simp
  | ok s' =>
    dsimp only
    rw [Prod.mk.injEq, Except.ok.injEq]
    constructor
    · rintro ⟨rfl, hvalid⟩
      exact ⟨rfl, hvalid⟩
    · rintro ⟨rfl, hvalid⟩
      exact ⟨rfl, hvalid⟩

theorem override_eq_ok_iff :
    s₀.override vars = .ok s ↔
      switch? vars s₀ = some s.disabled ∧
        s.patterns = ((vars patternsVariable).map patternsOf).or s₀.patterns := by
  unfold override overrideDisabled overridePatterns switch?
  obtain ⟨disabled, patterns⟩ := s
  obtain ⟨disabled₀, patterns₀⟩ := s₀
  cases vars disabledVariable with
  | none => cases vars patternsVariable <;> simp [Except.map, eq_comm]
  | some value =>
    dsimp only
    cases flag? value with
    | none => simp [Except.map]
    | some b => cases vars patternsVariable <;> simp [Except.map, eq_comm]

/-- Only variables that mend them make unusable settings usable. -/
theorem exists_override_isUsable_iff (h : ¬s₀.IsUsable) :
    (∃ s, s₀.override vars = .ok s ∧ s.IsUsable) ↔ Mends vars s₀ := by
  obtain ⟨hdisabled, hundeclared⟩ := Classical.not_imp.1 h
  constructor
  · rintro ⟨s, hs, husable⟩
    obtain ⟨hswitch, hpatterns⟩ := override_eq_ok_iff.1 hs
    refine ⟨hdisabled, hundeclared, ?_⟩
    cases hb : s.disabled with
    | false => exact .inl (hb ▸ hswitch)
    | true =>
      right
      refine ⟨hb ▸ hswitch, ?_⟩
      have hdeclared := husable hb
      rw [hpatterns] at hdeclared
      cases hvar : (vars patternsVariable).map patternsOf with
      | none =>
        rw [hvar] at hdeclared
        exact absurd hdeclared hundeclared
      | some entries =>
        rwa [hvar] at hdeclared
  · rintro ⟨-, -, hmended⟩
    obtain hoff | ⟨hon, hdeclared⟩ := hmended
    · exact ⟨⟨false, _⟩, override_eq_ok_iff.2 ⟨hoff, rfl⟩, nofun⟩
    · refine ⟨⟨true, _⟩, override_eq_ok_iff.2 ⟨hon, rfl⟩, fun _ => ?_⟩
      have ⟨entries, hentries, _⟩ := hdeclared
      rw [hentries] at hdeclared ⊢
      exact hdeclared

/-! ## The start -/

theorem startup_eq_ok_iff (h : ofText? text = some s₀) :
    startup text vars = .ok s ↔
      s₀.validate = .ok () ∧ s₀.override vars = .ok s ∧ s.validate = .ok () := by
  rw [← applyVariables_eq_ok_iff]
  unfold startup load
  rw [h]
  dsimp only
  cases s₀.validate with
  | error e => exact ⟨nofun, fun h => nomatch h.1⟩
  | ok =>
    show (match s₀.applyVariables vars with
      | (_, .error e) => Except.error e
      | (s', .ok ()) => .ok s') = _ ↔ _
    obtain ⟨s', checked⟩ := s₀.applyVariables vars
    cases checked <;> simp

theorem startup_of_validate_error {e : SettingsError} (h : ofText? text = some s₀)
    (he : s₀.validate = .error e) : startup text vars = .error e := by
  unfold startup load
  rw [h]
  dsimp only
  rw [he]
  rfl

/-- **Precedence.** The start succeeds just if the settings of the text are valid, overriding them succeeds
and its result is valid, and it gives this result. So the variables take precedence over the text unless
they mend it; then the start fails as the text by itself does. -/
theorem takesPrecedence_iff (h : ofText? text = some s₀) :
    (∀ s, startup text vars = .ok s ↔
      s₀.validate = .ok () ∧ s₀.override vars = .ok s ∧ s.validate = .ok ()) ∧
    (TakesPrecedence vars text s₀ ↔ ¬Mends vars s₀) ∧
    (Mends vars s₀ → ∃ e, s₀.validate = .error e ∧ startup text vars = .error e) := by
  have hstart (s : Settings) : startup text vars = .ok s ↔ _ := startup_eq_ok_iff h
  refine ⟨hstart, ?_, ?_⟩
  · by_cases husable : s₀.IsUsable
    · have hvalid := validate_eq_ok_iff.2 husable
      refine ⟨fun _ hm => hm.undeclared (husable hm.disabled), fun _ s => ?_⟩
      rw [hstart]
      exact ⟨And.right, fun hs => ⟨hvalid, hs⟩⟩
    · have hinvalid : ¬s₀.validate = .ok () := fun hv => husable (validate_eq_ok_iff.1 hv)
      rw [← exists_override_isUsable_iff husable]
      constructor
      · rintro hprec ⟨s, hs, hu⟩
        exact hinvalid ((hstart s).1 ((hprec s).2 ⟨hs, validate_eq_ok_iff.2 hu⟩)).1
      · intro hno s
        refine ⟨fun hs => absurd ((hstart s).1 hs).1 hinvalid, ?_⟩
        rintro ⟨hs, hv⟩
        exact absurd ⟨s, hs, validate_eq_ok_iff.1 hv⟩ hno
  · intro hm
    cases hv : s₀.validate with
    | ok => exact absurd (validate_eq_ok_iff.1 hv hm.disabled) hm.undeclared
    | error e => exact ⟨e, rfl, startup_of_validate_error h hv⟩

/-- A text that switches the gate on, with the declarations in a variable, does not start. -/
theorem not_takesPrecedence_patterns :
    ofText? "deprecated:\n  api:\n    disabled: true\n" = some ⟨true, none⟩ ∧
      (⟨true, none⟩ : Settings).override (fun name => if name = patternsVariable then some "/a" else none) =
        .ok ⟨true, some ["/a"]⟩ ∧
      (⟨true, some ["/a"]⟩ : Settings).validate = .ok () ∧
      ¬TakesPrecedence (fun name => if name = patternsVariable then some "/a" else none)
        "deprecated:\n  api:\n    disabled: true\n" ⟨true, none⟩ := by
  have htext : ofText? "deprecated:\n  api:\n    disabled: true\n" = some ⟨true, none⟩ := by
    decide +kernel
  have hover : (⟨true, none⟩ : Settings).override
      (fun name => if name = patternsVariable then some "/a" else none) = .ok ⟨true, some ["/a"]⟩ := by
    decide +kernel
  have hvalid : (⟨true, some ["/a"]⟩ : Settings).validate = .ok () := by
    decide +kernel
  refine ⟨htext, hover, hvalid, fun hprec => ?_⟩
  have hfails : ¬(⟨true, none⟩ : Settings).validate = .ok () := by
    decide +kernel
  exact hfails (((takesPrecedence_iff htext).1 _).1 ((hprec _).2 ⟨hover, hvalid⟩)).1

end Settings

end EndpointGate
