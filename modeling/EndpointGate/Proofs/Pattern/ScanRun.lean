import EndpointGate.Proofs.Pattern.Scan
import Mathlib.Data.List.Forall2

/-!
# Runs of a scan

A run goes from scan to scan by single steps. Every run from the start stays within tokens and text and is
shorter than the limit (`Moves.valid`, `Moves.progress_le`), so that one of them comes to a stop
(`exists_moves_of_run`). What it stops with is whether the text can be split into one piece for each token
(`scan_ends`).
-/

namespace EndpointGate.Pattern

/-! ## Pieces of a text -/

namespace Token

/-- The token takes this piece of a text. -/
inductive Takes : Token → List Char → Prop
  | char (c : Char) : Takes (.char c) [c]
  | one (c : Char) : Takes .one [c]
  | many (piece : List Char) : Takes .many piece

/-- The text consists of pieces, one after another, that the tokens take. -/
def Splits (tokens : List Token) (text : List Char) : Prop :=
  ∃ pieces : List (List Char), pieces.flatten = text ∧ List.Forall₂ Takes tokens pieces

theorem matches_iff_splits {tokens : List Token} {text : List Char} :
    Matches tokens text ↔ Splits tokens text := by
  constructor
  · intro h
    induction h with
    | nil => exact ⟨[], rfl, .nil⟩
    | char c _ ih =>
      obtain ⟨pieces, rfl, htakes⟩ := ih
      exact ⟨[c] :: pieces, rfl, .cons (.char c) htakes⟩
    | one c _ ih =>
      obtain ⟨pieces, rfl, htakes⟩ := ih
      exact ⟨[c] :: pieces, rfl, .cons (.one c) htakes⟩
    | many taken _ ih =>
      obtain ⟨pieces, rfl, htakes⟩ := ih
      exact ⟨taken :: pieces, rfl, .cons (.many taken) htakes⟩
  · rintro ⟨pieces, rfl, htakes⟩
    induction htakes with
    | nil => exact .nil
    | @cons _ piece _ pieces h _ ih =>
      rw [List.flatten_cons]
      cases h with
      | char c => exact .char c ih
      | one c => exact .one c ih
      | many => exact .many piece ih

end Token

namespace Scan

/-! ## Runs -/

/-- So many steps take the scan from one place to the other. -/
inductive Moves (tokens : Array Token) (text : Array Char) : Nat → Scan → Scan → Prop
  | refl (s : Scan) : Moves tokens text 0 s s
  | step {n : Nat} {s next last : Scan} (h : s.step tokens text = .move next)
    (hrest : Moves tokens text n next last) : Moves tokens text (n + 1) s last

variable {tokens : Array Token} {text : Array Char} {n : Nat} {s last : Scan}

theorem Moves.valid (h : Moves tokens text n s last) (hs : s.Valid tokens text) :
    last.Valid tokens text := by
  induction h with
  | refl => exact hs
  | step hstep _ ih =>
    have hfollows := step_follows hs
    rw [hstep] at hfollows
    exact ih hfollows.1

/-- Every step of a run comes closer to the limit. -/
theorem Moves.progress_le (h : Moves tokens text n s last) (hs : s.Valid tokens text) :
    s.progress tokens.size text.size + n ≤ last.progress tokens.size text.size := by
  induction h with
  | refl => exact Nat.le_refl _
  | step hstep _ ih =>
    have hfollows := step_follows hs
    rw [hstep] at hfollows
    obtain ⟨hnext, hlt, -⟩ := hfollows
    have := ih hnext
    omega

theorem exists_moves_of_run {verdict : Bool} (h : run tokens text n s = some verdict) :
    ∃ k last, Moves tokens text k s last ∧ last.step tokens text = .stop verdict := by
  induction n generalizing s with
  | zero => nomatch h
  | succ n ih =>
    unfold run at h
    cases hstep : s.step tokens text with
    | move next =>
      rw [hstep] at h
      obtain ⟨k, last, hmoves, hstop⟩ := ih h
      exact ⟨k + 1, last, .step hstep hmoves, hstop⟩
    | stop v =>
      rw [hstep] at h
      obtain rfl := Option.some.inj h
      exact ⟨0, s, .refl s, hstep⟩

/-- **Ending.** A scan takes fewer steps than the limit and never leaves tokens and text. It comes to a stop,
with the verdict whether the text can be split among the tokens. -/
theorem scan_ends (tokens : List Token) (text : List Char) :
    (∀ n s, Moves tokens.toArray text.toArray n .start s →
      n < stepLimit tokens.length text.length ∧ s.token ≤ tokens.length ∧ s.char ≤ text.length) ∧
    (∃ n s, Moves tokens.toArray text.toArray n .start s ∧
      s.step tokens.toArray text.toArray = .stop (matchesTokens tokens text)) ∧
    (matchesTokens tokens text = true ↔ Token.Splits tokens text) := by
  have hstart : Valid tokens.toArray text.toArray .start := valid_start
  refine ⟨fun n s hmoves => ?_, ?_, ?_⟩
  · have hvalid := hmoves.valid hstart
    have hlimit := progress_lt_stepLimit hvalid
    have hprogress := hmoves.progress_le hstart
    rw [List.size_toArray, List.size_toArray] at hlimit hprogress
    exact ⟨by omega, hvalid.token_le, hvalid.char_le⟩
  · obtain ⟨verdict, hrun, -⟩ := run_eq_some hstart (Nat.le_add_right _ _)
    have hverdict : matchesTokens tokens text = verdict := by
      unfold matchesTokens
      rw [List.size_toArray, List.size_toArray] at hrun
      rw [hrun, Option.getD_some]
    rw [hverdict]
    exact exists_moves_of_run hrun
  · rw [matchesTokens_iff, Token.matches_iff_splits]

/-- Two `many`s in a row, of which the second one is gone back to. -/
theorem scan_ends_adjacent :
    let tokens : List Token := [.many, .many, .char 'b']
    Moves tokens.toArray #['a', 'b'] 3 .start ⟨2, 1, some (1, 1)⟩ ∧
      3 < stepLimit 3 2 ∧ matchesTokens tokens ['a', 'b'] = true ∧ Token.Splits tokens ['a', 'b'] := by
  intro tokens
  have hmoves : Moves tokens.toArray #['a', 'b'] 3 .start ⟨2, 1, some (1, 1)⟩ :=
    .step rfl (.step rfl (.step rfl (.refl _)))
  obtain ⟨hbounds, -, hsplits⟩ := scan_ends tokens ['a', 'b']
  have hverdict : matchesTokens tokens ['a', 'b'] = true := by decide
  exact ⟨hmoves, (hbounds 3 _ hmoves).1, hverdict, hsplits.1 hverdict⟩

end Scan

end EndpointGate.Pattern
