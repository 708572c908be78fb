import EndpointGate.Proofs.Text.Runs

/-!
# Blanks around a text

Trimming a text takes blanks from its ends (`exists_eq_append_trim`), which neither its words (`words_trim`) nor
its first character that is not blank (`head?_trim`) depend on. Blanks that are put around a text are trimmed
(`trim_append_of_blanks`), until it begins and ends with other characters (`trim_eq_self_of_ends`).
-/

namespace EndpointGate.Text

variable {cs w w' : List Char}

/-! ## The ends -/

theorem exists_eq_trimEnd_append (cs : List Char) :
    ∃ blanks, (∀ c ∈ blanks, isBlank c = true) ∧ cs = trimEnd cs ++ blanks := by
  induction cs with
  | nil => exact ⟨[], nofun, rfl⟩
  | cons c cs ih =>
    obtain ⟨blanks, hblanks, hcs⟩ := ih
    unfold trimEnd
    cases hend : trimEnd cs with
    | nil =>
      rw [hend, List.nil_append] at hcs
      cases hc : isBlank c with
      | true => exact ⟨c :: cs, List.forall_mem_cons.2 ⟨hc, hcs ▸ hblanks⟩, rfl⟩
      | false => exact ⟨blanks, hblanks, by rw [hcs]; rfl⟩
    | cons d ds =>
      rw [hend] at hcs
      exact ⟨blanks, hblanks, congrArg (c :: ·) hcs⟩

theorem exists_eq_append_trim (cs : List Char) :
    ∃ w w', (∀ c ∈ w, isBlank c = true) ∧ (∀ c ∈ w', isBlank c = true) ∧ cs = w ++ trim cs ++ w' := by
  obtain ⟨w', hw', hend⟩ := exists_eq_trimEnd_append (trimStart cs)
  refine ⟨cs.takeWhile isBlank, w', fun _ hc => List.mem_takeWhile_imp hc, hw', ?_⟩
  rw [List.append_assoc, trim, ← hend]
  exact List.takeWhile_append_dropWhile.symm

theorem mem_of_mem_trim {c : Char} (h : c ∈ trim cs) : c ∈ cs := by
  obtain ⟨w, w', -, -, hcs⟩ := exists_eq_append_trim cs
  rw [hcs]
  exact List.mem_append_left w' (List.mem_append_right w h)

theorem getLast?_trimEnd (cs : List Char) : ∀ c ∈ (trimEnd cs).getLast?, isBlank c = false := by
  induction cs with
  | nil => nofun
  | cons c cs ih =>
    unfold trimEnd
    cases hend : trimEnd cs with
    | nil =>
      dsimp only
      split
      · rintro _ ⟨⟩
      · rename_i hc
        rintro _ ⟨⟩
        exact Bool.eq_false_iff.2 hc
    | cons d ds =>
      dsimp only
      rwa [List.getLast?_cons_cons, ← hend]

/-! ## Blanks at the ends -/

theorem trimEnd_append_of_blanks (cs : List Char) (hw : ∀ c ∈ w, isBlank c = true) :
    trimEnd (cs ++ w) = trimEnd cs := by
  induction cs with
  | nil => exact trimEnd_eq_nil_iff.2 hw
  | cons c cs ih =>
    rw [List.cons_append]
    unfold trimEnd
    rw [ih]

theorem trimEnd_eq_self (h : ∀ c ∈ cs.getLast?, isBlank c = false) : trimEnd cs = cs := by
  induction cs with
  | nil => rfl
  | cons c cs ih =>
    unfold trimEnd
    cases cs with
    | nil => simp [trimEnd, h c rfl]
    | cons d cs =>
      rw [List.getLast?_cons_cons] at h
      rw [ih h]

/-- Up to a last character that is not blank, a text stays as it is. -/
theorem trimEnd_append (cs : List Char) (h : ∀ c ∈ w.getLast?, isBlank c = false) :
    trimEnd (w ++ cs) = w ++ trimEnd cs := by
  obtain ⟨blanks, hblanks, hcs⟩ := exists_eq_trimEnd_append cs
  have hlast : ∀ c ∈ (w ++ trimEnd cs).getLast?, isBlank c = false := by
    intro c hc
    rw [List.getLast?_append, Option.mem_def, Option.or_eq_some_iff] at hc
    obtain hc | ⟨-, hc⟩ := hc
    · exact getLast?_trimEnd cs c hc
    · exact h c hc
  calc trimEnd (w ++ cs) = trimEnd (w ++ trimEnd cs ++ blanks) := by rw [List.append_assoc, ← hcs]
    _ = trimEnd (w ++ trimEnd cs) := trimEnd_append_of_blanks _ hblanks
    _ = w ++ trimEnd cs := trimEnd_eq_self hlast

theorem trimStart_eq_self (h : ∀ c ∈ cs.head?, isBlank c = false) : trimStart cs = cs :=
  dropWhile_append_of_head? (s := []) nofun h

theorem trim_eq_self_of_ends (hhead : ∀ c ∈ cs.head?, isBlank c = false)
    (hlast : ∀ c ∈ cs.getLast?, isBlank c = false) : trim cs = cs := by
  rw [trim, trimStart_eq_self hhead, trimEnd_eq_self hlast]

theorem trim_eq_self (h : ∀ c ∈ cs, isBlank c = false) : trim cs = cs :=
  trim_eq_self_of_ends (fun c hc => h c (List.mem_of_mem_head? hc)) fun c hc => h c (List.mem_of_getLast? hc)

theorem trim_append_of_blanks (hw : ∀ c ∈ w, isBlank c = true) (cs : List Char)
    (hw' : ∀ c ∈ w', isBlank c = true) : trim (w ++ cs ++ w') = trim cs := by
  have hstart : trimStart (w ++ cs ++ w') = trimStart (cs ++ w') := by
    rw [List.append_assoc]
    exact List.dropWhile_append_of_pos hw
  unfold trim
  rw [hstart, trimStart, List.dropWhile_append]
  split
  · rename_i hblank
    rw [List.isEmpty_iff] at hblank
    rw [trimStart, hblank, List.dropWhile_eq_nil_iff.2 hw']
  · exact trimEnd_append_of_blanks _ hw'

/-! ## Words -/

theorem words_trim (cs : List Char) : words (trim cs) = words cs := by
  obtain ⟨w, w', hw, hw', hcs⟩ := exists_eq_append_trim cs
  calc words (trim cs) = words (w ++ trim cs ++ w') := by
        unfold words
        rw [List.append_assoc, fields_append_of_ends hw, fields_append_left_of_ends hw']
    _ = words cs := by rw [← hcs]

/-! ## The first character -/

theorem head?_trimEnd {cs : List Char} (h : ∀ c ∈ cs.head?, isBlank c = false) :
    (trimEnd cs).head? = cs.head? := by
  cases cs with
  | nil => rfl
  | cons c cs =>
    unfold trimEnd
    cases trimEnd cs with
    | nil => simp [h c rfl]
    | cons => rfl

theorem head?_trim (cs : List Char) : (trim cs).head? = cs.find? fun c => !isBlank c := by
  have hstart : (trimStart cs).head? = cs.find? fun c => !isBlank c :=
    (List.find?_not_eq_head?_dropWhile _ _).symm
  rw [trim, head?_trimEnd, hstart]
  intro c hc
  rw [hstart] at hc
  simpa using List.find?_some hc

end EndpointGate.Text
