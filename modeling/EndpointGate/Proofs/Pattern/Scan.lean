import EndpointGate.Pattern.Glob

/-!
# What the tokens of a segment match

A list of tokens matches a text that falls into pieces, one for each token: a character for a `char` or a
`one`, any piece for a `many`. `matchesTokens_iff` says that the scan finds this out, although it never
goes back beyond the last `many` and stops after a number of steps fixed in advance.

1. A scan is `Valid` when its places are within bounds and every token behind the last `many` has taken
   one character. It `CanMatch` when a match is left: where it stands, or with a longer text for the last
   `many`.
2. A step keeps both and comes closer to the limit (`step_follows`). The one step that gives up ways to
   match is the one to a further `many`; that one loses nothing because it can take up whatever an earlier
   one would (`matchesFrom_add`).
3. So a run within the limit ends, with the right verdict (`run_eq_some`).
-/

namespace EndpointGate.Pattern

/-! ## Tokens and texts -/

namespace Token

/-- The text falls into pieces, one for each token, that the tokens stand for. -/
inductive Matches : List Token → List Char → Prop
  | nil : Matches [] []
  | char (c : Char) {ts : List Token} {cs : List Char} (h : Matches ts cs) :
    Matches (.char c :: ts) (c :: cs)
  | one (c : Char) {ts : List Token} {cs : List Char} (h : Matches ts cs) :
    Matches (.one :: ts) (c :: cs)
  | many (taken : List Char) {ts : List Token} {cs : List Char} (h : Matches ts cs) :
    Matches (.many :: ts) (taken ++ cs)

theorem not_matches_nil_cons (c : Char) (cs : List Char) : ¬ Matches [] (c :: cs) := nofun

theorem matches_char_cons_iff {d c : Char} {ts : List Token} {cs : List Char} :
    Matches (.char d :: ts) (c :: cs) ↔ d = c ∧ Matches ts cs := by
  constructor
  · rintro (_ | ⟨_, h⟩)
    exact ⟨rfl, h⟩
  · rintro ⟨rfl, h⟩
    exact .char d h

theorem matches_one_cons_iff {c : Char} {ts : List Token} {cs : List Char} :
    Matches (.one :: ts) (c :: cs) ↔ Matches ts cs := by
  constructor
  · rintro (_ | _ | ⟨_, h⟩)
    exact h
  · exact .one c

theorem matches_many_iff {ts : List Token} {cs : List Char} :
    Matches (.many :: ts) cs ↔ ∃ taken rest, cs = taken ++ rest ∧ Matches ts rest := by
  constructor
  · rintro (_ | _ | _ | ⟨taken, h⟩)
    exact ⟨taken, _, rfl, h⟩
  · rintro ⟨taken, rest, rfl, h⟩
    exact .many taken h

/-- Only `many`s are left when the text is used up. -/
theorem matches_nil_iff {ts : List Token} : Matches ts [] ↔ ts.all (· == .many) = true := by
  induction ts with
  | nil => exact ⟨fun _ => rfl, fun _ => .nil⟩
  | cons t ts ih =>
    cases t with
    | char c => exact ⟨nofun, nofun⟩
    | one => exact ⟨nofun, nofun⟩
    | many =>
      rw [matches_many_iff, List.all_cons, beq_self_eq_true, Bool.true_and, ← ih]
      constructor
      · rintro ⟨taken, rest, h, hm⟩
        rwa [(List.append_eq_nil_iff.1 h.symm).2] at hm
      · exact fun h => ⟨[], [], rfl, h⟩

/-- A token that is no `many` takes one character. -/
theorem Matches.tail_of_ne_many {t : Token} {ts : List Token} {cs : List Char}
    (h : Matches (t :: ts) cs) (ht : t ≠ .many) : ∃ c rest, cs = c :: rest ∧ Matches ts rest := by
  cases h with
  | char c h => exact ⟨c, _, rfl, h⟩
  | one c h => exact ⟨c, _, rfl, h⟩
  | many => exact absurd rfl ht

end Token

namespace Scan

variable {tokens : Array Token} {text : Array Char}

/-! ## Tokens and text from given places on -/

/-- The tokens from the `i`-th on match the text from its `j`-th character on. -/
def MatchesFrom (tokens : Array Token) (text : Array Char) (i j : Nat) : Prop :=
  Token.Matches (tokens.toList.drop i) (text.toList.drop j)

theorem drop_toList_eq_cons {α : Type} {xs : Array α} {i : Nat} {x : α} (h : xs[i]? = some x) :
    xs.toList.drop i = x :: xs.toList.drop (i + 1) := by
  rw [List.drop_eq_getElem?_toList_append, Array.getElem?_toList, h]
  rfl

theorem drop_toList_eq_nil {α : Type} {xs : Array α} {i : Nat} (h : xs[i]? = none) :
    xs.toList.drop i = [] :=
  List.drop_eq_nil_of_le (Array.getElem?_eq_none_iff.1 h)

theorem lt_size_of_getElem? {α : Type} {xs : Array α} {i : Nat} {x : α} (h : xs[i]? = some x) :
    i < xs.size :=
  (Array.getElem?_eq_some_iff.1 h).1

variable {i j : Nat} {c : Char}

theorem matchesFrom_char {d : Char} (hi : tokens[i]? = some (.char d)) (hj : text[j]? = some c) :
    MatchesFrom tokens text i j ↔ d = c ∧ MatchesFrom tokens text (i + 1) (j + 1) := by
  unfold MatchesFrom
  rw [drop_toList_eq_cons hi, drop_toList_eq_cons hj]
  exact Token.matches_char_cons_iff

theorem matchesFrom_one (hi : tokens[i]? = some .one) (hj : text[j]? = some c) :
    MatchesFrom tokens text i j ↔ MatchesFrom tokens text (i + 1) (j + 1) := by
  unfold MatchesFrom
  rw [drop_toList_eq_cons hi, drop_toList_eq_cons hj]
  exact Token.matches_one_cons_iff

theorem matchesFrom_many (hi : tokens[i]? = some .many) (hj : j ≤ text.size) :
    MatchesFrom tokens text i j ↔
      ∃ k, j ≤ k ∧ k ≤ text.size ∧ MatchesFrom tokens text (i + 1) k := by
  unfold MatchesFrom
  rw [drop_toList_eq_cons hi, Token.matches_many_iff]
  constructor
  · rintro ⟨taken, rest, h, hm⟩
    have hlen := congrArg List.length h
    rw [List.length_drop, List.length_append, Array.length_toList] at hlen
    have hrest : text.toList.drop (j + taken.length) = rest := by
      rw [← List.drop_drop, h, List.drop_left]
    exact ⟨j + taken.length, by omega, by omega, hrest ▸ hm⟩
  · rintro ⟨k, hjk, hk, hm⟩
    refine ⟨(text.toList.drop j).take (k - j), text.toList.drop k, ?_, hm⟩
    rw [← Nat.add_sub_cancel' hjk, ← List.drop_drop, Nat.add_sub_cancel_left, List.take_append_drop]

theorem not_matchesFrom_of_tokens_end (hi : tokens[i]? = none) (hj : text[j]? = some c) :
    ¬ MatchesFrom tokens text i j := by
  unfold MatchesFrom
  rw [drop_toList_eq_nil hi, drop_toList_eq_cons hj]
  exact Token.not_matches_nil_cons _ _

theorem matchesFrom_text_end (hj : text[j]? = none) :
    MatchesFrom tokens text i j ↔ (tokens.toList.drop i).all (· == .many) = true := by
  unfold MatchesFrom
  rw [drop_toList_eq_nil hj]
  exact Token.matches_nil_iff

/-- As long as no `many` is passed, tokens and characters are used up together. -/
theorem matchesFrom_add {n : Nat} (h : MatchesFrom tokens text i j) (hj : j ≤ text.size)
    (hi : i + n ≤ tokens.size) (hne : ∀ m, i ≤ m → m < i + n → tokens[m]? ≠ some .many) :
    j + n ≤ text.size ∧ MatchesFrom tokens text (i + n) (j + n) := by
  induction n with
  | zero => exact ⟨hj, h⟩
  | succ n ih =>
    obtain ⟨hjn, hn⟩ := ih (by omega) fun m hm hmn => hne m hm (by omega)
    have hlt : i + n < tokens.size := by omega
    have hin : tokens[i + n]? = some tokens[i + n] := Array.getElem?_eq_getElem hlt
    unfold MatchesFrom at hn ⊢
    rw [drop_toList_eq_cons hin] at hn
    have hmany : tokens[i + n] ≠ .many := fun e =>
      hne (i + n) (by omega) (by omega) (hin.trans (congrArg some e))
    obtain ⟨c, rest, hc, hrest⟩ := hn.tail_of_ne_many hmany
    have hlen := congrArg List.length hc
    rw [List.length_drop, List.length_cons, Array.length_toList] at hlen
    have htail : text.toList.drop (j + n + 1) = rest := by rw [← List.drop_drop, hc]; rfl
    exact ⟨by omega, htail ▸ hrest⟩

/-! ## The invariant of a scan -/

/-- The places of a scan are within bounds. Since the last `many` each token took one character. -/
structure Valid (tokens : Array Token) (text : Array Char) (s : Scan) : Prop where
  token_le : s.token ≤ tokens.size
  char_le : s.char ≤ text.size
  lt_token : ∀ star mark, s.retry = some (star, mark) → star < s.token
  in_step : ∀ star mark, s.retry = some (star, mark) → s.token + mark = star + 1 + s.char
  no_many : ∀ star mark, s.retry = some (star, mark) →
    ∀ m, star < m → m < s.token → tokens[m]? ≠ some .many

/-- The tokens behind the last `many` match the text from some place behind its present end. -/
def CanRetry (tokens : Array Token) (text : Array Char) (s : Scan) : Prop :=
  ∃ star mark, s.retry = some (star, mark) ∧
    ∃ k, mark < k ∧ k ≤ text.size ∧ MatchesFrom tokens text (star + 1) k

/-- A match is left: from where the scan stands, or with more text for the last `many`. -/
def CanMatch (tokens : Array Token) (text : Array Char) (s : Scan) : Prop :=
  MatchesFrom tokens text s.token s.char ∨ CanRetry tokens text s

/-- The last `many`, counted from one, and where its text ends; zeros before the first `many`. -/
def lastMany (s : Scan) : Nat × Nat :=
  match s.retry with
  | none => (0, 0)
  | some (star, mark) => (star + 1, mark)

/-- How far a scan has come: by the last `many`, then by the end of its text, then by the token. -/
def progress (tokens text : Nat) (s : Scan) : Nat :=
  (s.lastMany.1 * (text + 1) + s.lastMany.2) * (tokens + 2) + s.token

theorem valid_start : Valid tokens text .start :=
  ⟨Nat.zero_le _, Nat.zero_le _, nofun, nofun, nofun⟩

/-- At the start a match that is left is a match of the whole text. -/
theorem canMatch_start : CanMatch tokens text .start ↔ Token.Matches tokens.toList text.toList := by
  constructor
  · rintro (h | ⟨_, _, h, _⟩)
    · exact h
    · exact absurd h nofun
  · exact .inl

/-- A later match for the last `many` leaves a match from a later place to where the scan stands. -/
theorem CanRetry.matchesFrom {s : Scan} (h : CanRetry tokens text s) (hs : s.Valid tokens text) :
    ∃ k, s.char < k ∧ k ≤ text.size ∧ MatchesFrom tokens text s.token k := by
  obtain ⟨star, mark, hr, k, hmk, hk, hm⟩ := h
  have hlt := hs.lt_token star mark hr
  have hin := hs.in_step star mark hr
  have htok := hs.token_le
  obtain ⟨n, hn⟩ := Nat.exists_eq_add_of_le (Nat.succ_le_of_lt hlt)
  obtain ⟨hkn, hkm⟩ := matchesFrom_add (n := n) hm hk (by omega) fun m hm hmn =>
    hs.no_many star mark hr m (by omega) (by omega)
  rw [← Nat.succ_eq_add_one, ← hn] at hkm
  exact ⟨k + n, by omega, hkn, hkm⟩

theorem Valid.lastMany_le {s : Scan} (hs : s.Valid tokens text) :
    s.lastMany.1 ≤ s.token ∧ s.lastMany.2 ≤ s.char := by
  unfold lastMany
  cases hr : s.retry with
  | none => exact ⟨Nat.zero_le _, Nat.zero_le _⟩
  | some retry =>
    obtain ⟨star, mark⟩ := retry
    have hlt := hs.lt_token star mark hr
    have hin := hs.in_step star mark hr
    show star + 1 ≤ s.token ∧ mark ≤ s.char
    omega

/-! ## The steps of a scan -/

/-- What a step must come to: it keeps the invariant and the matches that are left and gets further, or
it ends with the right verdict. -/
def Outcome.Follows (tokens : Array Token) (text : Array Char) (s : Scan) : Outcome → Prop
  | .move next =>
    next.Valid tokens text ∧ s.progress tokens.size text.size < next.progress tokens.size text.size ∧
      (next.CanMatch tokens text ↔ s.CanMatch tokens text)
  | .stop verdict => verdict = true ↔ s.CanMatch tokens text

variable {s : Scan}

theorem lex_lt {a b x y w : Nat} (h : a < b) (hx : x < w) : a * w + x < b * w + y := by
  have hw : (a + 1) * w ≤ b * w := Nat.mul_le_mul_right w h
  rw [Nat.succ_mul] at hw
  omega

theorem valid_advance {t : Token} (hs : s.Valid tokens text) (ht : tokens[s.token]? = some t)
    (hne : t ≠ .many) (hc : text[s.char]? = some c) : s.advance.Valid tokens text where
  token_le := lt_size_of_getElem? ht
  char_le := lt_size_of_getElem? hc
  lt_token star mark hr := Nat.lt_succ_of_lt (hs.lt_token star mark hr)
  in_step star mark hr := by
    have := hs.in_step star mark hr
    show s.token + 1 + mark = star + 1 + (s.char + 1)
    omega
  no_many star mark hr m hm hmt := by
    obtain h | rfl : m < s.token ∨ m = s.token := Nat.lt_or_eq_of_le (Nat.le_of_lt_succ hmt)
    · exact hs.no_many star mark hr m hm h
    · rw [ht]
      exact fun e => hne (Option.some.inj e)

/-- A token that takes one character leaves what can match as it is. -/
theorem follows_advance {t : Token} (hs : s.Valid tokens text) (ht : tokens[s.token]? = some t)
    (hne : t ≠ .many) (hc : text[s.char]? = some c)
    (hm : MatchesFrom tokens text s.token s.char ↔
      MatchesFrom tokens text (s.token + 1) (s.char + 1)) :
    (Outcome.move s.advance).Follows tokens text s :=
  ⟨valid_advance hs ht hne hc, Nat.lt_succ_self _, or_congr hm.symm Iff.rfl⟩

/-- The scan behind the `many` at `star`, whose text ends at `mark`. -/
abbrev behind (star mark : Nat) : Scan := ⟨star + 1, mark, some (star, mark)⟩

theorem valid_behind {star mark : Nat} (hstar : star < tokens.size) (hmark : mark ≤ text.size) :
    (behind star mark).Valid tokens text := by
  refine ⟨hstar, hmark, ?_, ?_, ?_⟩
  · rintro _ _ ⟨⟩
    exact Nat.lt_succ_self _
  · rintro _ _ ⟨⟩
    rfl
  · rintro _ _ ⟨⟩ m hm hmt
    exact absurd hmt (Nat.not_lt_of_le hm)

theorem canMatch_behind {star mark : Nat} (hmark : mark ≤ text.size) :
    (behind star mark).CanMatch tokens text ↔
      ∃ k, mark ≤ k ∧ k ≤ text.size ∧ MatchesFrom tokens text (star + 1) k := by
  constructor
  · rintro (h | ⟨_, _, ⟨⟩, k, hk, hks, h⟩)
    · exact ⟨mark, Nat.le_refl _, hmark, h⟩
    · exact ⟨k, Nat.le_of_lt hk, hks, h⟩
  · rintro ⟨k, hk, hks, h⟩
    obtain rfl | hlt := Nat.eq_or_lt_of_le hk
    · exact .inl h
    · exact .inr ⟨_, _, rfl, k, hlt, hks, h⟩

/-- Whatever a scan could still do, it can do behind a new `many`. -/
theorem follows_many (hs : s.Valid tokens text) (ht : tokens[s.token]? = some .many) :
    (Outcome.move (behind s.token s.char)).Follows tokens text s := by
  refine ⟨valid_behind (lt_size_of_getElem? ht) hs.char_le, ?_, ?_⟩
  · obtain ⟨hstar, hmark⟩ := hs.lastMany_le
    have htok := hs.token_le
    have hchar := hs.char_le
    exact lex_lt (lex_lt (Nat.lt_succ_of_le hstar) (by omega)) (by omega)
  · rw [canMatch_behind hs.char_le, ← matchesFrom_many ht hs.char_le]
    constructor
    · exact .inl
    · rintro (h | h)
      · exact h
      · obtain ⟨k, hk, hks, h⟩ := h.matchesFrom hs
        obtain ⟨l, hl, hls, h⟩ := (matchesFrom_many ht hks).1 h
        exact (matchesFrom_many ht hs.char_le).2 ⟨l, by omega, hls, h⟩

/-- Where the scan stands nothing matches: what is left is more text for the last `many`. -/
theorem follows_back (hs : s.Valid tokens text) (hc : text[s.char]? = some c)
    (hm : ¬ MatchesFrom tokens text s.token s.char) : s.back.Follows tokens text s := by
  unfold back
  cases hr : s.retry with
  | none =>
    refine ⟨nofun, ?_⟩
    rintro (h | ⟨star, mark, h, -⟩)
    · exact absurd h hm
    · rw [hr] at h
      exact absurd h nofun
  | some retry =>
    obtain ⟨star, mark⟩ := retry
    have hlast : s.lastMany = (star + 1, mark) := by unfold lastMany; rw [hr]
    obtain ⟨hstar, hmark⟩ := hs.lastMany_le
    rw [hlast] at hstar hmark
    have htok := hs.token_le
    have hend : mark + 1 ≤ text.size := Nat.lt_of_le_of_lt hmark (lt_size_of_getElem? hc)
    refine ⟨valid_behind (Nat.lt_of_lt_of_le hstar htok) hend, ?_, ?_⟩
    · show (s.lastMany.1 * _ + s.lastMany.2) * _ + s.token < _
      rw [hlast]
      exact lex_lt (Nat.lt_succ_self _) (by omega)
    · rw [canMatch_behind hend]
      constructor
      · rintro ⟨k, hk, hks, h⟩
        exact .inr ⟨star, mark, hr, k, hk, hks, h⟩
      · rintro (h | ⟨star', mark', hr', k, hk, hks, h⟩)
        · exact absurd h hm
        · rw [hr] at hr'
          obtain ⟨rfl, rfl⟩ := Prod.mk.inj (Option.some.inj hr')
          exact ⟨k, hk, hks, h⟩

/-- At the end of the text no earlier `many` can take more. -/
theorem follows_end (hs : s.Valid tokens text) (hc : text[s.char]? = none) :
    (Outcome.stop ((tokens.toList.drop s.token).all (· == .many))).Follows tokens text s := by
  have hsize := Array.getElem?_eq_none_iff.1 hc
  show _ ↔ MatchesFrom tokens text s.token s.char ∨ CanRetry tokens text s
  rw [matchesFrom_text_end hc]
  refine ⟨.inl, ?_⟩
  rintro (h | h)
  · exact h
  · obtain ⟨k, hk, hks, -⟩ := h.matchesFrom hs
    omega

/-- One step keeps the invariant and the matches that are left and gets further, or ends with the right
verdict. -/
theorem step_follows (hs : s.Valid tokens text) :
    (s.step tokens text).Follows tokens text s := by
  unfold step
  cases hc : text[s.char]? with
  | none => exact follows_end hs hc
  | some c =>
    cases ht : tokens[s.token]? with
    | none => exact follows_back hs hc (not_matchesFrom_of_tokens_end ht hc)
    | some t =>
      cases t with
      | many => exact follows_many hs ht
      | one => exact follows_advance hs ht nofun hc (matchesFrom_one ht hc)
      | char d =>
        have hm := matchesFrom_char ht hc
        by_cases hd : d = c
        · simp only [if_pos hd]
          exact follows_advance hs ht nofun hc (hm.trans (and_iff_right hd))
        · simp only [if_neg hd]
          exact follows_back hs hc fun h => hd (hm.1 h).1

/-! ## Runs -/

theorem progress_lt_stepLimit (hs : s.Valid tokens text) :
    s.progress tokens.size text.size < stepLimit tokens.size text.size := by
  obtain ⟨hstar, hmark⟩ := hs.lastMany_le
  have htok := hs.token_le
  have hchar := hs.char_le
  have hrows : s.lastMany.1 * (text.size + 1) + s.lastMany.2 <
      (tokens.size + 1) * (text.size + 1) + 0 := lex_lt (by omega) (by omega)
  exact Nat.lt_succ_of_lt (lex_lt (y := 0) hrows (by omega))

/-- A run that may take as many steps as are left up to the limit ends, with the right verdict. -/
theorem run_eq_some {n : Nat} (hs : s.Valid tokens text)
    (hn : stepLimit tokens.size text.size ≤ n + s.progress tokens.size text.size) :
    ∃ verdict, run tokens text n s = some verdict ∧ (verdict = true ↔ s.CanMatch tokens text) := by
  induction n generalizing s with
  | zero =>
    have := progress_lt_stepLimit hs
    omega
  | succ n ih =>
    have hstep := step_follows hs
    unfold run
    cases hout : s.step tokens text with
    | stop verdict =>
      rw [hout] at hstep
      exact ⟨verdict, rfl, hstep⟩
    | move next =>
      rw [hout] at hstep
      obtain ⟨hnext, hlt, hcan⟩ := hstep
      obtain ⟨verdict, hrun, hv⟩ := ih hnext (by omega)
      exact ⟨verdict, hrun, hv.trans hcan⟩

end Scan

/-- **Scanning.** The scan accepts exactly the texts that the tokens match. -/
theorem matchesTokens_iff (tokens : List Token) (text : List Char) :
    matchesTokens tokens text = true ↔ Token.Matches tokens text := by
  have hstart : Scan.Valid tokens.toArray text.toArray .start := Scan.valid_start
  obtain ⟨verdict, hrun, hv⟩ := Scan.run_eq_some hstart (Nat.le_add_right _ _)
  unfold matchesTokens
  rw [List.size_toArray, List.size_toArray] at hrun
  rw [hrun, Option.getD_some, hv]
  exact Scan.canMatch_start

end EndpointGate.Pattern
