import EndpointGate.Text.Hex

/-!
# JSON strings

Writing a text between quotes, and reading it back. `readString?_flatMap_escape` says that what is
written reads back as it was, whatever follows it.
-/

namespace EndpointGate.Json

/-! ## Writing -/

/-- The letters that escape a control character after the backslash. -/
def controlLetters : List (Char × Char) :=
  [('\x08', 'b'), ('\t', 't'), ('\n', 'n'), ('\x0C', 'f'), ('\r', 'r')]

/-- The form of a character inside quotes. -/
def escape (c : Char) : List Char :=
  if c = '"' ∨ c = '\\' then ['\\', c]
  else if 0x20 ≤ c.toNat then [c]
  else
    match controlLetters.lookup c with
    | some letter => ['\\', letter]
    | none => ['\\', 'u', '0', '0', Text.hexDigit (c.toNat / 16), Text.hexDigit (c.toNat % 16)]

/-- A text between quotes. -/
def quote (cs : List Char) : List Char := '"' :: cs.flatMap escape ++ ['"']

/-! ## Reading -/

/-- A character of a string, or half of one: a surrogate, which only an escape can write. -/
inductive Piece where
  | char (c : Char)
  | half (unit : Nat)
  deriving DecidableEq, Repr, Inhabited

/-- The unit is the first half of a character. -/
def isLeading (unit : Nat) : Bool := 0xD800 ≤ unit && unit < 0xDC00

/-- The unit is the second half of a character. -/
def isTrailing (unit : Nat) : Bool := 0xDC00 ≤ unit && unit < 0xE000

/-- The piece a unit of sixteen bits stands for. -/
def Piece.ofUnit (unit : Nat) : Piece :=
  if isLeading unit || isTrailing unit then .half unit else .char (Char.ofNat unit)

/-- The characters of pieces, if every half meets its other half. -/
def join? : List Piece → Option (List Char)
  | [] => some []
  | .char c :: ps => (join? ps).map (c :: ·)
  | .half a :: .half b :: ps =>
    if isLeading a ∧ isTrailing b then
      (join? ps).map (Char.ofNat (0x10000 + (a - 0xD800) * 0x400 + (b - 0xDC00)) :: ·)
    else none
  | .half _ :: _ => none

/-- The characters that a letter after the backslash stands for. -/
def shortEscapes : List (Char × Char) :=
  [('"', '"'), ('\\', '\\'), ('/', '/'), ('b', '\x08'), ('f', '\x0C'), ('n', '\n'), ('r', '\r'),
    ('t', '\t')]

/-- The unit that four hexadecimal digits write. -/
def unit? (a b c d : Char) : Option Nat := do
  let a ← Text.hexValue? a
  let b ← Text.hexValue? b
  let c ← Text.hexValue? c
  let d ← Text.hexValue? d
  return ((a * 16 + b) * 16 + c) * 16 + d

/-- Reads the pieces of a string up to its closing quote. Control characters must be escaped. -/
def readPieces? : List Char → Option (List Piece × List Char)
  | '"' :: rest => some ([], rest)
  | '\\' :: 'u' :: a :: b :: c :: d :: rest =>
    (unit? a b c d).bind fun unit =>
      (readPieces? rest).map fun (ps, rest) => (.ofUnit unit :: ps, rest)
  | '\\' :: letter :: rest =>
    (shortEscapes.lookup letter).bind fun c =>
      (readPieces? rest).map fun (ps, rest) => (.char c :: ps, rest)
  | c :: rest =>
    if c = '\\' ∨ c.toNat < 0x20 then none
    else (readPieces? rest).map fun (ps, rest) => (.char c :: ps, rest)
  | [] => none

/-- Reads a string from behind its opening quote. Its text is missing if half a character stands
alone in it. -/
def readString? (cs : List Char) : Option (Option (List Char) × List Char) :=
  (readPieces? cs).map fun (ps, rest) => (join? ps, rest)

/-! ## Reading what was written -/

theorem unit?_of_lt {n : Nat} (h : n < 256) :
    unit? '0' '0' (Text.hexDigit (n / 16)) (Text.hexDigit (n % 16)) = some n := by
  have h0 : Text.hexValue? '0' = some 0 := by decide
  simp only [unit?, h0, Text.hexValue?_hexDigit _ (show n / 16 < 16 by omega),
    Text.hexValue?_hexDigit _ (show n % 16 < 16 by omega), Option.bind_eq_bind, Option.bind_some,
    Option.pure_def, Option.some.injEq]
  omega

theorem ofUnit_toNat {c : Char} (h : c.toNat < 0xD800) : Piece.ofUnit c.toNat = .char c := by
  have hl : ¬ 0xD800 ≤ c.toNat := by omega
  have ht : ¬ 0xDC00 ≤ c.toNat := by omega
  simp [Piece.ofUnit, isLeading, isTrailing, hl, ht]

theorem readPieces?_of_plain {c : Char} (hq : c ≠ '"') (hb : c ≠ '\\') (h : 0x20 ≤ c.toNat)
    (cs : List Char) :
    readPieces? (c :: cs) = (readPieces? cs).map fun (ps, rest) => (.char c :: ps, rest) := by
  have : ¬ c.toNat < 0x20 := by omega
  rw [readPieces?.eq_4] <;> simp_all only [false_or, if_false, implies_true]

theorem readPieces?_of_letter {letter c : Char} (hu : letter ≠ 'u')
    (h : shortEscapes.lookup letter = some c) (cs : List Char) :
    readPieces? ('\\' :: letter :: cs) =
      (readPieces? cs).map fun (ps, rest) => (.char c :: ps, rest) := by
  rw [readPieces?.eq_3] <;> simp_all

theorem lookup_of_controlLetters {c letter : Char} (h : controlLetters.lookup c = some letter) :
    letter ≠ 'u' ∧ shortEscapes.lookup letter = some c := by
  simp only [controlLetters, List.lookup_cons, List.lookup_nil] at h
  repeat' split at h
  all_goals simp_all
  all_goals subst h; decide

theorem readPieces?_escape (c : Char) (cs : List Char) :
    readPieces? (escape c ++ cs) =
      (readPieces? cs).map fun (ps, rest) => (.char c :: ps, rest) := by
  unfold escape
  split
  · rename_i h
    rcases h with rfl | rfl <;> exact readPieces?_of_letter (by decide) (by decide) cs
  · rename_i h
    simp only [not_or] at h
    split
    · exact readPieces?_of_plain h.1 h.2 ‹_› cs
    · rename_i hc
      split
      · have := lookup_of_controlLetters ‹_›
        exact readPieces?_of_letter this.1 this.2 cs
      · simp only [List.cons_append, List.nil_append, readPieces?,
          unit?_of_lt (show c.toNat < 256 by omega), Option.bind_some,
          ofUnit_toNat (show c.toNat < 0xD800 by omega)]

theorem readPieces?_flatMap_escape (cs rest : List Char) :
    readPieces? (cs.flatMap escape ++ '"' :: rest) = some (cs.map .char, rest) := by
  induction cs with
  | nil => simp [readPieces?]
  | cons c cs ih => simp [List.append_assoc, readPieces?_escape, ih]

theorem join?_map_char (cs : List Char) : join? (cs.map .char) = some cs := by
  induction cs with
  | nil => rfl
  | cons c cs ih => simp [join?, ih]

theorem readString?_flatMap_escape (cs rest : List Char) :
    readString? (cs.flatMap escape ++ '"' :: rest) = some (some cs, rest) := by
  simp [readString?, readPieces?_flatMap_escape, join?_map_char]

end EndpointGate.Json
