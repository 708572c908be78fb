import EndpointGate.Proofs.Text.Runs

/-!
# Lines of a text

`IsLines cs ls` takes a text apart into its lines. Every text is taken apart in one way, which `lines` computes
(`isLines_iff`).
-/

namespace EndpointGate.Text

/-- The text consists of these lines. A line ends at a line feed or at a carriage return with a line feed; the
last one may have no end, but then it is not empty. -/
inductive IsLines : List Char → List (List Char) → Prop
  | nil : IsLines [] []
  | unended {line : List Char} (hne : line ≠ []) (hline : '\n' ∉ line) : IsLines line [line]
  | feed {line rest : List Char} {ls : List (List Char)} (hline : '\n' ∉ line)
    (hreturn : line.getLast? ≠ some '\r') (hrest : IsLines rest ls) :
    IsLines (line ++ '\n' :: rest) (line :: ls)
  | returnFeed {line rest : List Char} {ls : List (List Char)} (hline : '\n' ∉ line)
    (hrest : IsLines rest ls) : IsLines (line ++ '\r' :: '\n' :: rest) (line :: ls)

variable {cs line : List Char} {ls : List (List Char)}

theorem pieces_of_not_mem {sep : Char} (h : sep ∉ line) : pieces (· == sep) line = [line] := by
  apply pieces_of_run
  intro c hc
  rw [beq_eq_false_iff_ne]
  rintro rfl
  exact h hc

theorem lines_of_not_mem (hne : line ≠ []) (h : '\n' ∉ line) : lines line = [line] := by
  unfold lines
  simp [pieces_of_not_mem h, hne]

theorem lines_append_feed (h : '\n' ∉ line) (rest : List Char) :
    lines (line ++ '\n' :: rest) = dropReturn line :: lines rest := by
  have hpieces : pieces (· == '\n') (line ++ '\n' :: rest) = line :: pieces (· == '\n') rest := by
    rw [pieces_append_cons rfl, pieces_of_not_mem h]
    rfl
  obtain ⟨p, ps, hps⟩ := List.exists_cons_of_ne_nil (pieces_ne_nil (· == '\n') rest)
  unfold lines
  rw [hpieces, hps]
  rfl

theorem dropReturn_of_ne (h : line.getLast? ≠ some '\r') : dropReturn line = line := if_neg h

theorem dropReturn_append (line : List Char) : dropReturn (line ++ ['\r']) = line := by
  unfold dropReturn
  rw [if_pos List.getLast?_concat, List.dropLast_concat]

theorem IsLines.lines_eq (h : IsLines cs ls) : lines cs = ls := by
  induction h with
  | nil => rfl
  | unended hne hline => exact lines_of_not_mem hne hline
  | feed hline hreturn _ ih => rw [lines_append_feed hline, dropReturn_of_ne hreturn, ih]
  | @returnFeed line rest ls hline _ ih =>
    have hwith : '\n' ∉ line ++ ['\r'] := by simp [hline]
    rw [← List.singleton_append, ← List.append_assoc, lines_append_feed hwith, dropReturn_append, ih]

theorem isLines_lines (cs : List Char) : IsLines cs (lines cs) := by
  -- the induction is on the text behind the first line feed
  induction hlen : cs.length using Nat.strong_induction_on generalizing cs with
  | _ n ih =>
    by_cases hfeed : '\n' ∈ cs
    · obtain ⟨line, rest, rfl, hline⟩ := List.eq_append_cons_of_mem hfeed
      have hrest : IsLines rest (lines rest) := by
        apply ih rest.length _ rest rfl
        rw [← hlen, List.length_append, List.length_cons]
        omega
      rw [lines_append_feed hline]
      by_cases hreturn : line.getLast? = some '\r'
      · obtain ⟨front, rfl⟩ := List.getLast?_eq_some_iff.1 hreturn
        rw [dropReturn_append, List.append_assoc, List.singleton_append]
        exact .returnFeed (fun hmem => hline (List.mem_append_left _ hmem)) hrest
      · rw [dropReturn_of_ne hreturn]
        exact .feed hline hreturn hrest
    · by_cases hne : cs = []
      · subst hne
        exact .nil
      · rw [lines_of_not_mem hne hfeed]
        exact .unended hne hfeed

theorem isLines_iff : IsLines cs ls ↔ lines cs = ls := by
  constructor
  · exact IsLines.lines_eq
  · rintro rfl
    exact isLines_lines cs

end EndpointGate.Text
