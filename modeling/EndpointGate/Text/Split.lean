import EndpointGate.Text.Blank

/-!
# Pieces, words and lines

Cutting a text at the characters that separate its parts.
-/

namespace EndpointGate.Text

/-- The pieces of a text between the characters for which `isEnd` holds, empty ones included. -/
def pieces (isEnd : Char → Bool) : List Char → List (List Char)
  | [] => [[]]
  | c :: cs =>
    if isEnd c then [] :: pieces isEnd cs
    else
      match pieces isEnd cs with
      | [] => [[c]]
      | p :: ps => (c :: p) :: ps

/-- The pieces of a text that are not empty. -/
def fields (isEnd : Char → Bool) (cs : List Char) : List (List Char) :=
  (pieces isEnd cs).filter fun p => !p.isEmpty

/-- The maximal runs of characters that are not blank. -/
def words (cs : List Char) : List (List Char) := fields isBlank cs

/-- The line without the carriage return it may end with. -/
def dropReturn (line : List Char) : List Char :=
  if line.getLast? = some '\r' then line.dropLast else line

/-- The lines of a text. A line ends at a line feed or at a carriage return with a line feed; what
follows the last line end is a line if it is not empty. -/
def lines (cs : List Char) : List (List Char) :=
  let ps := pieces (· == '\n') cs
  ps.dropLast.map dropReturn ++ ps.getLast?.toList.filter fun p => !p.isEmpty

theorem pieces_ne_nil (isEnd : Char → Bool) (cs : List Char) : pieces isEnd cs ≠ [] := by
  cases cs with
  | nil => simp [pieces]
  | cons c cs =>
    unfold pieces
    split
    · simp
    · split <;> simp

theorem pieces_cons_of_isEnd {isEnd : Char → Bool} {c : Char} (h : isEnd c = true)
    (cs : List Char) : pieces isEnd (c :: cs) = [] :: pieces isEnd cs := by
  simp [pieces, h]

theorem pieces_append_cons {isEnd : Char → Bool} {c : Char} (h : isEnd c = true)
    (as bs : List Char) :
    pieces isEnd (as ++ c :: bs) = pieces isEnd as ++ pieces isEnd bs := by
  induction as with
  | nil => simp [pieces, h]
  | cons a as ih =>
    simp only [List.cons_append, pieces, ih]
    split
    · rfl
    · cases hp : pieces isEnd as with
      | nil => exact absurd hp (pieces_ne_nil _ _)
      | cons p ps => rfl

theorem fields_append_cons {isEnd : Char → Bool} {c : Char} (h : isEnd c = true)
    (as bs : List Char) :
    fields isEnd (as ++ c :: bs) = fields isEnd as ++ fields isEnd bs := by
  simp [fields, pieces_append_cons h]

theorem not_isEnd_of_mem_pieces {isEnd : Char → Bool} {cs p : List Char} {c : Char}
    (hp : p ∈ pieces isEnd cs) (hc : c ∈ p) : isEnd c = false := by
  induction cs generalizing p with
  | nil => simp [pieces] at hp; simp [hp] at hc
  | cons d cs ih =>
    unfold pieces at hp
    split at hp
    · rcases List.mem_cons.1 hp with rfl | hp
      · simp at hc
      · exact ih hp hc
    · rename_i hd
      cases hps : pieces isEnd cs with
      | nil => exact absurd hps (pieces_ne_nil _ _)
      | cons q qs =>
        rw [hps] at hp ih
        rcases List.mem_cons.1 hp with rfl | hp
        · rcases List.mem_cons.1 hc with rfl | hc
          · simpa using hd
          · exact ih List.mem_cons_self hc
        · exact ih (List.mem_cons_of_mem _ hp) hc

end EndpointGate.Text
