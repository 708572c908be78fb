import EndpointGate.Text.Hex

/-!
# Text for terminals

A terminal acts upon some characters instead of showing them. A text in which these are written out as
escapes can be shown on any terminal and has no effect on it.
-/

namespace EndpointGate.Text

/-- A terminal acts upon the character: the bell, the backspace, the form feed, the escape, the delete
character, or a control from U+0080 to U+009F. -/
def isTerminalControl (c : Char) : Bool :=
  let n := c.toNat
  n == 0x07 || n == 0x08 || n == 0x0C || n == 0x1B || n == 0x7F || (0x80 ≤ n && n ≤ 0x9F)

/-- The two hexadecimal digits of a character below U+0100. -/
def hexPair (c : Char) : List Char := [hexDigit (c.toNat / 16), hexDigit (c.toNat % 16)]

def terminalForm (c : Char) : List Char :=
  if !isTerminalControl c then [c]
  else if c.toNat < 0x80 then ['\\', 'x'] ++ hexPair c
  else ['\\', 'u', '{'] ++ hexPair c ++ ['}']

/-- The text with the controls of terminals written out. -/
def terminalSafe (s : String) : String := String.ofList (s.toList.flatMap terminalForm)

theorem isTerminalControl_hexDigit (n : Nat) (h : n < 16) :
    isTerminalControl (hexDigit n) = false := by
  revert n
  decide

theorem isTerminalControl_of_mem_hexPair {c d : Char} (hc : c.toNat < 0x100) (h : d ∈ hexPair c) :
    isTerminalControl d = false := by
  simp only [hexPair, List.mem_cons, List.not_mem_nil, or_false] at h
  rcases h with rfl | rfl
  · exact isTerminalControl_hexDigit _ (by omega)
  · exact isTerminalControl_hexDigit _ (by omega)

theorem isTerminalControl_of_mem_terminalForm {c d : Char} (h : d ∈ terminalForm c) :
    isTerminalControl d = false := by
  have around : ∀ e ∈ ['\\', 'x', 'u', '{', '}'], isTerminalControl e = false := by
    simp [isTerminalControl]
  cases hc : isTerminalControl c with
  | false =>
    simp only [terminalForm, hc, Bool.not_false, if_true, List.mem_singleton] at h
    rw [h, hc]
  | true =>
    have hn : c.toNat < 0x100 := by
      simp [isTerminalControl] at hc
      omega
    have digits : d ∈ hexPair c → isTerminalControl d = false :=
      isTerminalControl_of_mem_hexPair hn
    simp only [terminalForm, hc, Bool.not_true, Bool.false_eq_true, if_false] at h
    split at h <;> grind

/-- No terminal acts upon a character of the text. -/
theorem isTerminalControl_of_mem_terminalSafe {s : String} {c : Char}
    (h : c ∈ (terminalSafe s).toList) : isTerminalControl c = false := by
  simp only [terminalSafe, String.toList_ofList, List.mem_flatMap] at h
  obtain ⟨d, -, hd⟩ := h
  exact isTerminalControl_of_mem_terminalForm hd

end EndpointGate.Text
