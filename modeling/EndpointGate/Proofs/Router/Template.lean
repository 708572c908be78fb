import EndpointGate.Router.Template

/-!
# Templates without parameters

A template of characters alone is matched by one path (`matches?_literal`), and of the templates that match
this path none goes before it (`literal_beats`, `not_beats_literal`). A path without braces is such a
template of itself.
-/

namespace EndpointGate.Template

/-- The template that stands for these characters. -/
def literal (cs : List Char) : Template := cs.map .char

variable {t : Template} {cs ds : List Char}

/-! ## Matching -/

theorem matches?_literal : (literal cs).matches? ds = true ↔ ds = cs := by
  induction cs generalizing ds with
  | nil => exact List.isEmpty_iff
  | cons c cs ih =>
    cases ds with
    | nil => exact ⟨nofun, nofun⟩
    | cons d ds =>
      show (c == d && (literal cs).matches? ds) = true ↔ _
      rw [Bool.and_eq_true, ih, beq_iff_eq, List.cons.injEq, eq_comm (a := c)]

/-- No template goes before one that has characters alone. -/
theorem not_beats_literal (t : Template) (cs : List Char) : t.beats (literal cs) = false := by
  induction t generalizing cs with
  | nil => rfl
  | cons p ps ih =>
    cases cs with
    | nil => cases p <;> rfl
    | cons c cs =>
      have hps := ih cs
      cases p <;> exact (congrArg _ hps).trans (Bool.and_false _)

/-- The characters of a path go before every other template that matches it. -/
theorem literal_beats (hm : t.matches? cs = true) (ht : t ≠ literal cs) :
    (literal cs).beats t = true := by
  induction t generalizing cs with
  | nil => exact absurd (congrArg literal (List.isEmpty_iff.1 hm)).symm ht
  | cons p ps ih =>
    cases cs with
    | nil => cases p <;> exact absurd hm nofun
    | cons c cs =>
      cases p with
      | param => rfl
      | rest => rfl
      | char d =>
        obtain ⟨hd, hps⟩ := Bool.and_eq_true_iff.1 hm
        obtain rfl := beq_iff_eq.1 hd
        have hbeats := ih hps fun h => ht (congrArg _ h)
        show (_ && (literal cs).beats ps) = true
        rw [hbeats, beq_self_eq_true, Bool.and_self]

/-! ## Reading -/

theorem signs_of_not_mem (hopen : '\x7b' ∉ cs) (hclose : '\x7d' ∉ cs) :
    signs cs = cs.map fun c => (c, false) := by
  induction cs with
  | nil => rfl
  | cons c cs ih =>
    rw [List.mem_cons, not_or] at hopen hclose
    rw [signs, ih hopen.2 hclose.2]
    · rfl
    · rintro ds rfl
      exact absurd rfl hopen.1
    · rintro ds rfl
      exact absurd rfl hclose.1

theorem readParts?_outside (hopen : '\x7b' ∉ cs) (hclose : '\x7d' ∉ cs) :
    readParts? .outside (cs.map fun c => (c, false)) = some (literal cs) := by
  induction cs with
  | nil => rfl
  | cons c cs ih =>
    rw [List.mem_cons, not_or] at hopen hclose
    show readParts? .outside ((c, false) :: cs.map fun c => (c, false)) = _
    rw [readParts?, if_neg Bool.false_ne_true, if_neg (Ne.symm hopen.1), if_neg (Ne.symm hclose.1),
      ih hopen.2 hclose.2]
    rfl

theorem count_literal (cs : List Char) : (literal cs).count .param = 0 := by
  rw [List.count_eq_zero]
  intro h
  obtain ⟨c, -, hc⟩ := List.mem_map.1 h
  exact absurd hc nofun

/-- A path without braces stands for itself. -/
theorem ofText?_of_not_mem {path : String} (hopen : '\x7b' ∉ path.toList) (hclose : '\x7d' ∉ path.toList) :
    ofText? path = some (literal path.toList) := by
  unfold ofText?
  rw [signs_of_not_mem hopen hclose, readParts?_outside hopen hclose, Option.filter_some, if_pos]
  rw [count_literal]
  rfl

end EndpointGate.Template
