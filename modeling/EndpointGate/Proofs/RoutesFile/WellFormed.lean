import EndpointGate.Proofs.Text.Words
import EndpointGate.RoutesFile

/-!
# Well-formed routes files

A routes file is read if each of its lines, apart from blank ones and comments, has two words
(`exists_read_eq_ok_iff`).
-/

namespace EndpointGate

/-- The text has exactly two words, the runs of characters that are not blank. -/
def HasTwoWords (cs : List Char) : Prop := ∃ a b, Text.Runs Text.isBlank cs [a, b]

theorem wordPair?_eq_some_iff {cs : List Char} {a b : String} :
    wordPair? cs = some (a, b) ↔ Text.Runs Text.isBlank cs [a.toList, b.toList] := by
  have hruns : Text.Runs Text.isBlank cs [a.toList, b.toList] ↔ Text.words cs = [a.toList, b.toList] :=
    Text.runs_iff
  rw [hruns]
  unfold wordPair?
  constructor
  · intro h
    split at h
    · rename_i hwords
      rw [Option.some_inj, Prod.mk.injEq] at h
      rw [hwords, ← h.1, ← h.2, String.toList_ofList, String.toList_ofList]
    · nomatch h
  · intro h
    rw [h]
    simp

theorem isSome_wordPair?_iff {cs : List Char} : (wordPair? cs).isSome = true ↔ HasTwoWords cs := by
  constructor
  · intro h
    obtain ⟨⟨a, b⟩, hpair⟩ := Option.isSome_iff_exists.1 h
    exact ⟨_, _, wordPair?_eq_some_iff.1 hpair⟩
  · rintro ⟨a, b, hruns⟩
    have hpair : wordPair? cs = some (String.ofList a, String.ofList b) :=
      wordPair?_eq_some_iff.2 (by rwa [String.toList_ofList, String.toList_ofList])
    rw [hpair]
    rfl

theorem wordPair?_trim (cs : List Char) : wordPair? (Text.trim cs) = wordPair? cs := by
  unfold wordPair?
  rw [Text.words_trim]

namespace RoutesFile

/-- Every character of the line is blank. -/
def IsBlankLine (line : List Char) : Prop := ∀ c ∈ line, Text.isBlank c = true

/-- The first character of the line that is not blank is a number sign. -/
def IsComment (line : List Char) : Prop := (line.find? fun c => !Text.isBlank c) = some '#'

/-- Each line of the file is blank, a comment, or a method and a path. -/
def IsWellFormed (content : String) : Prop :=
  ∀ line ∈ Text.lines content.toList, ¬IsBlankLine line → ¬IsComment line → HasTwoWords line

variable {line : List Char} {lines : List (List Char)} {content : String}

theorem isSkipped_trim_iff : isSkipped (Text.trim line) = true ↔ IsBlankLine line ∨ IsComment line := by
  unfold isSkipped IsComment IsBlankLine
  rw [Bool.or_eq_true, List.isEmpty_iff, Text.trim_eq_nil_iff, beq_iff_eq, Text.head?_trim]

theorem isSome_readRoute?_trim_iff : (readRoute? (Text.trim line)).isSome = true ↔ HasTwoWords line := by
  rw [readRoute?, Option.isSome_map, wordPair?_trim, isSome_wordPair?_iff]

theorem exists_readLines_eq_ok_iff {number : Nat} :
    (∃ routes, readLines number lines = .ok routes) ↔
      ∀ line ∈ lines, ¬IsBlankLine line → ¬IsComment line → HasTwoWords line := by
  induction lines generalizing number with
  | nil => exact ⟨fun _ => nofun, fun _ => ⟨[], rfl⟩⟩
  | cons line lines ih =>
    rw [readLines, List.forall_mem_cons, ← @ih (number + 1)]
    by_cases hskip : isSkipped (Text.trim line) = true
    · rw [if_pos hskip]
      have hline : ¬IsBlankLine line → ¬IsComment line → HasTwoWords line := fun hblank hcomment =>
        absurd (isSkipped_trim_iff.1 hskip) (not_or.2 ⟨hblank, hcomment⟩)
      exact ⟨fun h => ⟨hline, h⟩, And.right⟩
    · rw [if_neg hskip]
      obtain ⟨hblank, hcomment⟩ := not_or.1 (mt isSkipped_trim_iff.2 hskip)
      have hread : (readRoute? (Text.trim line)).isSome = true ↔ HasTwoWords line := isSome_readRoute?_trim_iff
      cases hroute : readRoute? (Text.trim line) with
      | none =>
        rw [hroute] at hread
        exact ⟨nofun, fun h => absurd (hread.2 (h.1 hblank hcomment)) nofun⟩
      | some r =>
        rw [hroute] at hread
        refine Iff.trans ?_ (and_iff_right fun _ _ => hread.1 rfl).symm
        cases readLines (number + 1) lines <;> simp [Except.map]

theorem exists_read_eq_ok_iff : (∃ routes, read content = .ok routes) ↔ IsWellFormed content :=
  exists_readLines_eq_ok_iff

end RoutesFile

end EndpointGate
