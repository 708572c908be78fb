import EndpointGate.Proofs.Settings.Startup

/-!
# Overriding in place

Settings are overridden in two steps, of which only the first can fail, and it fails before it changes
anything (`on_setDisabled`, `on_setPatterns`). So to override in place is to override all at once or not at all
(`overrideInPlace_eq`), and to override by two sources, one after the other, is to override by both at once,
the second laid over the first (`override_override`). `overrides_atomically` puts this together.
-/

namespace EndpointGate

/-- The variables of two sources, of which the first one takes precedence. -/
def Variables.over (vars' vars : Variables) : Variables := fun name => (vars' name).or (vars name)

namespace Settings

/-- Without the blanks around it and in lower case, the text is one for a switch. -/
def IsFlag (value : String) : Prop :=
  Text.asciiLowercase (Text.trimmed value) ∈ ["true", "1", "t", "false", "0", "f", ""]

/-- The variables that are there are set in the second settings, which are otherwise the first ones. -/
structure Sets (vars : Variables) (s s' : Settings) : Prop where
  disabled_kept : vars disabledVariable = none → s'.disabled = s.disabled
  disabled_set : ∀ value, vars disabledVariable = some value →
    (s'.disabled = true ↔ Text.asciiLowercase (Text.trimmed value) ∈ ["true", "1", "t"])
  patterns_kept : vars patternsVariable = none → s'.patterns = s.patterns
  patterns_set : ∀ value, vars patternsVariable = some value → s'.patterns = some (patternsOf value)

variable {vars vars' : Variables} {value : String} {b : Bool} {s s' s₁ : Settings} {e : SettingsError}

/-! ## Updates -/

theorem Update.on_bind (u v : Update) (s : Settings) :
    Update.on (do u; v) s =
      match u.on s with
      | (s', .error e) => (s', .error e)
      | (s', .ok ()) => v.on s' := by
  unfold Update.on
  rw [ExceptT.run_bind, StateT.run_bind]
  generalize u.run.run s = result
  obtain ⟨e | ⟨⟩, s'⟩ := result <;> rfl

theorem on_setDisabled (vars : Variables) (s : Settings) :
    (setDisabled vars).on s =
      match overrideDisabled vars s with
      | .error e => (s, .error e)
      | .ok s' => (s', .ok ()) := by
  unfold setDisabled overrideDisabled
  cases vars disabledVariable with
  | none => rfl
  | some value =>
    dsimp only
    cases flag? value <;> rfl

theorem on_setPatterns (vars : Variables) (s : Settings) :
    (setPatterns vars).on s = (overridePatterns vars s, .ok ()) := by
  unfold setPatterns overridePatterns
  cases vars patternsVariable <;> rfl

theorem overrideInPlace_eq (s : Settings) (vars : Variables) :
    s.overrideInPlace vars =
      match s.override vars with
      | .error e => (s, .error e)
      | .ok s' => (s', .ok ()) := by
  unfold overrideInPlace override
  rw [Update.on_bind, on_setDisabled]
  cases overrideDisabled vars s with
  | error e => rfl
  | ok s' => exact on_setPatterns vars s'

theorem overrideInPlace_of_ok (h : s.override vars = .ok s') : s.overrideInPlace vars = (s', .ok ()) := by
  rw [overrideInPlace_eq, h]

theorem overrideInPlace_of_error (h : s.override vars = .error e) : s.overrideInPlace vars = (s, .error e) := by
  rw [overrideInPlace_eq, h]

theorem overrideInPlace_eq_ok_iff : s.overrideInPlace vars = (s', .ok ()) ↔ s.override vars = .ok s' := by
  rw [overrideInPlace_eq]
  cases s.override vars <;> simp

/-! ## The switch -/

theorem flag?_eq_none_iff : flag? value = none ↔ ¬IsFlag value := by
  have htexts : ["true", "1", "t", "false", "0", "f", ""] = onTexts ++ offTexts := rfl
  unfold flag? IsFlag
  rw [htexts, List.mem_append, not_or]
  dsimp only
  split_ifs with hon hoff
  · exact ⟨nofun, fun h => absurd hon h.1⟩
  · exact ⟨nofun, fun h => absurd hoff h.2⟩
  · exact ⟨fun _ => ⟨hon, hoff⟩, fun _ => rfl⟩

theorem flag?_eq_some (h : flag? value = some b) :
    b = true ↔ Text.asciiLowercase (Text.trimmed value) ∈ ["true", "1", "t"] := by
  have htexts : ["true", "1", "t"] = onTexts := rfl
  unfold flag? at h
  rw [htexts]
  dsimp only at h
  split_ifs at h with hon hoff
  · obtain rfl := Option.some.inj h
    exact ⟨fun _ => hon, fun _ => rfl⟩
  · obtain rfl := Option.some.inj h
    exact ⟨nofun, fun h => absurd h hon⟩

theorem override_eq_error_iff :
    s.override vars = .error e ↔
      ∃ value, vars disabledVariable = some value ∧ ¬IsFlag value ∧
        e = .invalidFlag disabledVariable value := by
  unfold override overrideDisabled
  cases vars disabledVariable with
  | none => exact ⟨nofun, nofun⟩
  | some value =>
    simp only [← flag?_eq_none_iff, Option.some.injEq, exists_eq_left']
    cases flag? value with
    | none =>
      constructor
      · rintro ⟨⟩
        exact ⟨rfl, rfl⟩
      · rintro ⟨-, rfl⟩
        rfl
    | some b => exact ⟨nofun, nofun⟩

/-! ## What is overridden -/

theorem sets_of_override (h : s.override vars = .ok s') : Sets vars s s' := by
  obtain ⟨hswitch, hpatterns⟩ := override_eq_ok_iff.1 h
  unfold switch? at hswitch
  refine ⟨fun hvar => ?_, fun value hvar => ?_, fun hvar => ?_, fun value hvar => ?_⟩
  · rw [hvar] at hswitch
    exact (Option.some.inj hswitch).symm
  · rw [hvar] at hswitch
    exact flag?_eq_some hswitch
  · rwa [hvar] at hpatterns
  · rwa [hvar] at hpatterns

/-- A second source overrides what the first one has set as it overrides the first source. -/
theorem override_override (h : s.override vars = .ok s₁) :
    s₁.override vars' = s.override (vars'.over vars) := by
  cases hr : s₁.override vars' with
  | error e =>
    obtain ⟨value, hvar, hflag, rfl⟩ := override_eq_error_iff.1 hr
    refine (override_eq_error_iff.2 ⟨value, ?_, hflag, rfl⟩).symm
    rw [Variables.over, hvar, Option.some_or]
  | ok s' =>
    obtain ⟨hswitch, hpatterns⟩ := override_eq_ok_iff.1 h
    obtain ⟨hswitch', hpatterns'⟩ := override_eq_ok_iff.1 hr
    refine (override_eq_ok_iff.2 ⟨?_, ?_⟩).symm
    · unfold switch? Variables.over at *
      cases hvar : vars' disabledVariable with
      | none =>
        rw [hvar] at hswitch'
        rw [Option.none_or, hswitch]
        exact hswitch'
      | some value =>
        rw [hvar] at hswitch'
        exact hswitch'
    · rw [hpatterns', hpatterns, Variables.over, ← Option.or_assoc]
      cases vars' patternsVariable <;> rfl

theorem over_self (vars : Variables) : vars.over vars = vars := by
  funext name
  exact Option.or_self

/-! ## One source after another -/

theorem overrideInPlace_overrideInPlace (h : s.overrideInPlace vars = (s₁, .ok ())) :
    s₁.overrideInPlace vars' =
      match s.overrideInPlace (vars'.over vars) with
      | (s₂, .ok ()) => (s₂, .ok ())
      | (_, .error e) => (s₁, .error e) := by
  have hover : s₁.override vars' = s.override (vars'.over vars) :=
    override_override (overrideInPlace_eq_ok_iff.1 h)
  rw [overrideInPlace_eq, overrideInPlace_eq, hover]
  cases s.override (vars'.over vars) <;> rfl

theorem overrideInPlace_twice (s : Settings) (vars : Variables) :
    (s.overrideInPlace vars).1.overrideInPlace vars = s.overrideInPlace vars := by
  cases h : s.override vars with
  | error e => rw [overrideInPlace_of_error h, overrideInPlace_of_error h]
  | ok s₁ =>
    have hagain : s₁.override vars = .ok s₁ := by rw [override_override h, over_self, h]
    rw [overrideInPlace_of_ok h, overrideInPlace_of_ok hagain]

/-- **Overrides.** Overriding fails just if the switch is set to a text that is none for a switch, and then
it changes nothing. Otherwise it sets the variables that are there, and nothing else. What a second source
makes of the settings, the two sources make of them at once, where the second takes precedence; only after a
failure what the first one has set stays. So a source that is taken twice has been taken once. -/
theorem overrides_atomically :
    (∀ s vars e, (overrideInPlace s vars).2 = .error e ↔
      ∃ value, vars disabledVariable = some value ∧ ¬IsFlag value ∧
        e = .invalidFlag disabledVariable value) ∧
    (∀ s vars s' e, overrideInPlace s vars = (s', .error e) → s' = s) ∧
    (∀ s vars s', overrideInPlace s vars = (s', .ok ()) → Sets vars s s') ∧
    (∀ s vars vars' s₁, overrideInPlace s vars = (s₁, .ok ()) →
      s₁.overrideInPlace vars' =
        match s.overrideInPlace (vars'.over vars) with
        | (s₂, .ok ()) => (s₂, .ok ())
        | (_, .error e) => (s₁, .error e)) ∧
    ∀ s vars, (overrideInPlace s vars).1.overrideInPlace vars = s.overrideInPlace vars := by
  refine ⟨fun s vars e => ?_, fun s vars s' e h => ?_, fun _ _ _ h => ?_, ?_, overrideInPlace_twice⟩
  · rw [← override_eq_error_iff (s := s), overrideInPlace_eq]
    cases s.override vars <;> simp
  · rw [overrideInPlace_eq] at h
    cases hs : s.override vars with
    | error e' =>
      rw [hs] at h
      exact (Prod.mk.inj h).1.symm
    | ok s₁ =>
      rw [hs] at h
      nomatch h
  · exact sets_of_override (overrideInPlace_eq_ok_iff.1 h)
  · exact fun _ _ _ _ => overrideInPlace_overrideInPlace

/-- A second source that sets the declarations alone, and a third one whose switch cannot be read. -/
theorem overrides_atomically_three_sources :
    let first : Variables := fun name => if name = disabledVariable then some " TRUE" else some "/a"
    let second : Variables := fun name => if name = patternsVariable then some ";/b [GET]; " else none
    let third : Variables := fun name => if name = disabledVariable then some "on" else some "/c"
    default.overrideInPlace first = (⟨true, some ["/a"]⟩, .ok ()) ∧
      overrideInPlace ⟨true, some ["/a"]⟩ second = (⟨true, some ["/b [GET]"]⟩, .ok ()) ∧
      overrideInPlace ⟨true, some ["/a"]⟩ third =
        (⟨true, some ["/a"]⟩, .error (.invalidFlag disabledVariable "on")) := by
  intro first second third
  have hfirst : default.overrideInPlace first = (⟨true, some ["/a"]⟩, .ok ()) := by decide +kernel
  have hsecond : default.overrideInPlace (second.over first) = (⟨true, some ["/b [GET]"]⟩, .ok ()) := by
    decide +kernel
  have hthird : default.overrideInPlace (third.over first) =
      (default, .error (.invalidFlag disabledVariable "on")) := by decide +kernel
  obtain ⟨-, -, -, hcompose, -⟩ := overrides_atomically
  refine ⟨hfirst, ?_, ?_⟩
  · rw [hcompose _ _ _ _ hfirst, hsecond]
  · rw [hcompose _ _ _ _ hfirst, hthird]

end Settings

end EndpointGate
