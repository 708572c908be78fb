import EndpointGate.MethodSet
import EndpointGate.Proofs.FirstOccurrences
import EndpointGate.Proofs.Text.UpperCase
import EndpointGate.Proofs.Text.Words

/-!
# Methods of tokens

The set that tokens stand for, by the names that they have when they are trimmed and in upper case
(`ofTokens_eq_any_iff`, `ofTokens_eq_only_iff`), and by the tokens themselves where no blanks are in them
(`isNamedBy_iff`).
-/

namespace EndpointGate

namespace MethodSet

/-- The names of the tokens that are not blank. -/
def namesOf (tokens : List String) : List String := (tokens.map nameOf).filter (· != "")

variable {tokens : List String} {methods : List String}

theorem ofTokens_of_any (h : anyToken ∈ namesOf tokens) : ofTokens tokens = .any := if_pos h

theorem ofTokens_of_nil (h : namesOf tokens = []) : ofTokens tokens = .any := by
  have hno : anyToken ∉ namesOf tokens := by simp [h]
  have hnames : (tokens.map nameOf).filter (· != "") = [] := h
  show (if anyToken ∈ namesOf tokens then _ else _) = _
  rw [if_neg hno, hnames]
  rfl

theorem ofTokens_of_names (hne : namesOf tokens ≠ []) (hno : anyToken ∉ namesOf tokens) :
    ofTokens tokens = .only (namesOf tokens).eraseDups := by
  show (if anyToken ∈ namesOf tokens then _ else _) = _
  rw [if_neg hno]
  cases hnames : namesOf tokens with
  | nil => exact absurd hnames hne
  | cons name names =>
    rw [show (tokens.map nameOf).filter (· != "") = _ from hnames, List.eraseDups_cons]

theorem ofTokens_eq_any_iff :
    ofTokens tokens = .any ↔ namesOf tokens = [] ∨ anyToken ∈ namesOf tokens := by
  constructor
  · intro h
    by_contra hcon
    obtain ⟨hne, hno⟩ := not_or.1 hcon
    rw [ofTokens_of_names hne hno] at h
    nomatch h
  · rintro (h | h)
    · exact ofTokens_of_nil h
    · exact ofTokens_of_any h

theorem ofTokens_eq_only_iff :
    ofTokens tokens = .only methods ↔
      namesOf tokens ≠ [] ∧ anyToken ∉ namesOf tokens ∧ FirstOccurrences (namesOf tokens) methods := by
  by_cases h : namesOf tokens = [] ∨ anyToken ∈ namesOf tokens
  · rw [ofTokens_eq_any_iff.2 h]
    refine ⟨nofun, ?_⟩
    rintro ⟨hne, hno, -⟩
    exact absurd h (not_or.2 ⟨hne, hno⟩)
  · obtain ⟨hne, hno⟩ := not_or.1 h
    rw [ofTokens_of_names hne hno, only.injEq, eraseDups_eq_iff]
    exact ⟨fun hf => ⟨hne, hno, hf⟩, fun hf => hf.2.2⟩

/-! ## Tokens without blanks -/

/-- The methods that tokens name: every one if there is no token or an asterisk among them, otherwise the
tokens in upper case, each once. -/
def IsNamedBy (tokens : List (List Char)) : MethodSet → Prop
  | .any => tokens = [] ∨ ['*'] ∈ tokens
  | .only methods =>
    tokens ≠ [] ∧ ['*'] ∉ tokens ∧
      FirstOccurrences (tokens.map fun t => String.ofList (Text.upper t)) methods

theorem namesOf_map_ofList {tokens : List (List Char)}
    (h : ∀ t ∈ tokens, t ≠ [] ∧ ∀ c ∈ t, Text.isBlank c = false) :
    namesOf (tokens.map String.ofList) = tokens.map fun t => String.ofList (Text.upper t) := by
  unfold namesOf
  rw [List.map_map, List.filter_eq_self.2]
  · apply List.map_congr_left
    intro t ht
    simp [nameOf, Text.trim_eq_self (h t ht).2]
  · intro name hname
    obtain ⟨t, ht, rfl⟩ := List.mem_map.1 hname
    simp [nameOf, Text.trim_eq_self (h t ht).2, String.ext_iff, Text.upper_eq_nil_iff, (h t ht).1]

theorem anyToken_mem_iff {tokens : List (List Char)} :
    anyToken ∈ tokens.map (fun t => String.ofList (Text.upper t)) ↔ ['*'] ∈ tokens := by
  have hone (t : List Char) : String.ofList (Text.upper t) = anyToken ↔ t = ['*'] := by
    rw [← Text.upper_eq_asterisk_iff, anyToken, String.ext_iff, String.toList_ofList]
    rfl
  rw [List.mem_map]
  constructor
  · rintro ⟨t, ht, hany⟩
    rwa [(hone t).1 hany] at ht
  · exact fun h => ⟨_, h, (hone _).2 rfl⟩

theorem isNamedBy_iff {tokens : List (List Char)} {ms : MethodSet}
    (h : ∀ t ∈ tokens, t ≠ [] ∧ ∀ c ∈ t, Text.isBlank c = false) :
    ms.IsNamedBy tokens ↔ ofTokens (tokens.map String.ofList) = ms := by
  have hnames := namesOf_map_ofList h
  cases ms with
  | any => rw [ofTokens_eq_any_iff, hnames, anyToken_mem_iff, List.map_eq_nil_iff]; rfl
  | only methods => rw [ofTokens_eq_only_iff, hnames, anyToken_mem_iff, Ne, List.map_eq_nil_iff]; rfl

end MethodSet

end EndpointGate
