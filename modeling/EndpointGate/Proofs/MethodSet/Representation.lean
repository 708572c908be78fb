import EndpointGate.Proofs.MethodSet.Tokens
import EndpointGate.Proofs.Text.UpperCase.Settled

/-!
# What a set of methods is made of

A set keeps the names of the tokens that are not blank (`namesOf_eq`). A name is its own name
(`nameOf_nameOf`), so that a set is made again from the methods that it lists. `represents_tokens` says what the
set of a list of tokens is and what it covers, which is a matter of the tokens that occur and not of their
order.
-/

namespace EndpointGate

namespace Text

variable {cs : List Char} {c d : Char}

/-- An upper case brings no blanks with it. -/
theorem isBlank_of_mem_upperChar (h : d ∈ upperChar c) (hc : isBlank c = false) : isBlank d = false := by
  have hfrom := mem_upperChar h
  rcases mem_upperChar_cases h with ⟨rfl, -⟩ | hletter | ⟨r, hr, hu⟩
  · exact hc
  · exact (isPlain_of_letter hletter).1
  · rcases hfrom with rfl | hd
    · exact hc
    · exact (isPlain_of_capital hr hu hd).1

theorem upper_singleton (c : Char) : upper [c] = upperChar c := List.flatMap_singleton _ _

theorem not_isBlank_head?_upper (h : ∀ c ∈ cs.head?, isBlank c = false) :
    ∀ d ∈ (upper cs).head?, isBlank d = false := by
  cases cs with
  | nil => nofun
  | cons c cs =>
    intro d hd
    rw [← List.singleton_append, upper_append, upper_singleton,
      List.head?_append_of_ne_nil _ (upperChar_ne_nil c)] at hd
    exact isBlank_of_mem_upperChar (List.mem_of_mem_head? hd) (h c rfl)

theorem not_isBlank_getLast?_upper (h : ∀ c ∈ cs.getLast?, isBlank c = false) :
    ∀ d ∈ (upper cs).getLast?, isBlank d = false := by
  obtain rfl | ⟨cs, c, rfl⟩ := List.eq_nil_or_concat cs
  · nofun
  · intro d hd
    rw [List.concat_eq_append, upper_append, upper_singleton,
      List.getLast?_append_of_ne_nil _ (upperChar_ne_nil c)] at hd
    exact isBlank_of_mem_upperChar (List.mem_of_getLast? hd) (h c (by simp))

/-- A text without blanks at its ends has none there in upper case. -/
theorem trim_upper_trim (cs : List Char) : trim (upper (trim cs)) = upper (trim cs) := by
  have hhead : ∀ c ∈ (trim cs).head?, isBlank c = false := by
    intro c hc
    rw [head?_trim] at hc
    simpa using List.find?_some hc
  exact trim_eq_self_of_ends (not_isBlank_head?_upper hhead)
    (not_isBlank_getLast?_upper (getLast?_trimEnd (trimStart cs)))

end Text

namespace MethodSet

/-- The token consists of blanks, if of anything. -/
def IsBlankToken (token : String) : Prop := ∀ c ∈ token.toList, Text.isBlank c = true

instance (token : String) : Decidable (IsBlankToken token) :=
  List.decidableBAll _ _

/-- The methods that a set lists for tokens. -/
structure AreListedFor (tokens methods : List String) : Prop where
  ne_nil : methods ≠ []
  nodup : methods.Nodup
  ne_empty : "" ∉ methods
  ne_any : anyToken ∉ methods
  /-- Each name of a token that is not blank, in the order in which the names occur first. -/
  first : FirstOccurrences ((tokens.filter fun t => ¬IsBlankToken t).map nameOf) methods

variable {tokens tokens' methods : List String} {token name : String}

/-! ## Names -/

theorem toList_nameOf (token : String) : (nameOf token).toList = Text.upper (Text.trim token.toList) :=
  String.toList_ofList

theorem nameOf_nameOf (token : String) : nameOf (nameOf token) = nameOf token := by
  apply String.ext
  rw [toList_nameOf, toList_nameOf, Text.trim_upper_trim, Text.upper_upper]

theorem nameOf_eq_empty_iff : nameOf token = "" ↔ IsBlankToken token := by
  rw [← String.toList_inj, toList_nameOf]
  exact Text.upper_eq_nil_iff.trans Text.trim_eq_nil_iff

theorem nameOf_eq_any_iff : nameOf token = anyToken ↔ Text.trim token.toList = ['*'] := by
  rw [← String.toList_inj, toList_nameOf]
  exact Text.upper_eq_asterisk_iff

theorem namesOf_eq (tokens : List String) :
    namesOf tokens = (tokens.filter fun t => ¬IsBlankToken t).map nameOf := by
  have hsame : ((· != "") ∘ nameOf) = fun t => decide (¬IsBlankToken t) := by
    funext t
    rw [Function.comp_apply, Bool.eq_iff_iff, bne_iff_ne, decide_eq_true_iff]
    exact not_congr nameOf_eq_empty_iff
  unfold namesOf
  rw [List.filter_map, hsame]

theorem mem_namesOf_iff : name ∈ namesOf tokens ↔ ∃ t ∈ tokens, ¬IsBlankToken t ∧ nameOf t = name := by
  rw [namesOf_eq, List.mem_map]
  simp only [List.mem_filter, decide_eq_true_eq, and_assoc]

theorem namesOf_eq_nil_iff : namesOf tokens = [] ↔ ∀ t ∈ tokens, IsBlankToken t := by
  rw [namesOf_eq, List.map_eq_nil_iff, List.filter_eq_nil_iff]
  simp only [decide_eq_true_eq, not_not]

theorem anyToken_mem_namesOf_iff :
    anyToken ∈ namesOf tokens ↔ ∃ t ∈ tokens, Text.trim t.toList = ['*'] := by
  rw [mem_namesOf_iff]
  refine exists_congr fun t => and_congr_right fun _ => ?_
  rw [nameOf_eq_any_iff]
  refine and_iff_right_of_imp fun hany hblank => ?_
  rw [Text.trim_eq_nil_iff.2 hblank] at hany
  nomatch hany

/-- Names are the names of themselves. -/
theorem namesOf_of_subset (h : methods ⊆ namesOf tokens) : namesOf methods = methods := by
  have hself : ∀ m ∈ methods, ¬IsBlankToken m ∧ nameOf m = m := by
    intro m hm
    obtain ⟨t, -, hblank, rfl⟩ := mem_namesOf_iff.1 (h hm)
    have hname := nameOf_nameOf t
    rw [← nameOf_eq_empty_iff] at hblank ⊢
    exact ⟨by rwa [hname], hname⟩
  rw [namesOf_eq, List.filter_eq_self.2 (fun m hm => decide_eq_true (hself m hm).1)]
  conv_rhs => rw [← List.map_id methods]
  exact List.map_congr_left fun m hm => (hself m hm).2

/-! ## Sets -/

theorem areListedFor_of_eq_only (h : ofTokens tokens = .only methods) : AreListedFor tokens methods := by
  obtain ⟨hne, hno, hfirst⟩ := ofTokens_eq_only_iff.1 h
  refine ⟨hfirst.ne_nil hne, hfirst.nodup, fun hmem => ?_, fun hmem => ?_, namesOf_eq tokens ▸ hfirst⟩
  · obtain ⟨t, -, hblank, hname⟩ := mem_namesOf_iff.1 ((hfirst.mem_iff _).1 hmem)
    exact hblank (nameOf_eq_empty_iff.1 hname)
  · exact hno ((hfirst.mem_iff _).1 hmem)

theorem covers_ofTokens_iff :
    (ofTokens tokens).covers name = true ↔ ofTokens tokens = .any ∨ name ∈ namesOf tokens := by
  cases h : ofTokens tokens with
  | any => exact iff_of_true rfl (.inl rfl)
  | only methods =>
    rw [covers_only, (ofTokens_eq_only_iff.1 h).2.2.mem_iff]
    exact (or_iff_right nofun).symm

/-- What a set covers depends on the tokens that occur. -/
theorem covers_ofTokens_congr (h : ∀ t, t ∈ tokens' ↔ t ∈ tokens) :
    (ofTokens tokens').covers = (ofTokens tokens).covers := by
  have hnames (name : String) : name ∈ namesOf tokens' ↔ name ∈ namesOf tokens := by
    simp only [mem_namesOf_iff, h]
  have hany : ofTokens tokens' = .any ↔ ofTokens tokens = .any := by
    simp only [ofTokens_eq_any_iff, hnames, namesOf_eq_nil_iff, h]
  funext name
  rw [Bool.eq_iff_iff, covers_ofTokens_iff, covers_ofTokens_iff, hany, hnames]

theorem ofTokens_toList (tokens : List String) : ofTokens (ofTokens tokens).toList = ofTokens tokens := by
  cases h : ofTokens tokens with
  | any => rfl
  | only methods =>
    obtain ⟨hne, hno, hfirst⟩ := ofTokens_eq_only_iff.1 h
    have hself : namesOf methods = methods := namesOf_of_subset fun m hm => (hfirst.mem_iff m).1 hm
    show ofTokens methods = .only methods
    rw [ofTokens_eq_only_iff, hself]
    exact ⟨hfirst.ne_nil hne, fun hmem => hno ((hfirst.mem_iff _).1 hmem), .of_nodup hfirst.nodup⟩

/-- **Representation.** The set of a list of tokens is that of every method if all tokens are blank or one is an
asterisk, and otherwise lists the names of the tokens that are not blank. It covers these names, whatever the
order and repetition of the tokens, and it is the set of the tokens that it lists. -/
theorem represents_tokens (tokens : List String) :
    (ofTokens tokens = .any ↔
      (∀ t ∈ tokens, IsBlankToken t) ∨ ∃ t ∈ tokens, Text.trim t.toList = ['*']) ∧
    (ofTokens tokens ≠ .any →
      ∃ methods, ofTokens tokens = .only methods ∧ AreListedFor tokens methods) ∧
    (∀ name, (ofTokens tokens).covers name = true ↔
      ofTokens tokens = .any ∨ ∃ t ∈ tokens, ¬IsBlankToken t ∧ nameOf t = name) ∧
    (∀ tokens', (∀ t, t ∈ tokens' ↔ t ∈ tokens) →
      (ofTokens tokens').covers = (ofTokens tokens).covers) ∧
    ofTokens (ofTokens tokens).toList = ofTokens tokens := by
  refine ⟨?_, fun hany => ?_, fun name => ?_, fun _ => covers_ofTokens_congr, ofTokens_toList tokens⟩
  · rw [ofTokens_eq_any_iff, namesOf_eq_nil_iff, anyToken_mem_namesOf_iff]
  · cases h : ofTokens tokens with
    | any => exact absurd h hany
    | only methods => exact ⟨methods, rfl, areListedFor_of_eq_only h⟩
  · rw [covers_ofTokens_iff, mem_namesOf_iff]

/-- Tokens with blanks around and inside, and one that becomes two letters. -/
theorem represents_tokens_blanks :
    ofTokens [" get", "", "ß\u2003", "a b", "GET "] = .only ["GET", "SS", "A B"] ∧
      AreListedFor [" get", "", "ß\u2003", "a b", "GET "] ["GET", "SS", "A B"] ∧
      (ofTokens ["a b", "GET ", " get", " get", "ß\u2003", ""]).covers "SS" = true := by
  have hset : ofTokens [" get", "", "ß\u2003", "a b", "GET "] = .only ["GET", "SS", "A B"] := by
    decide +kernel
  obtain ⟨-, honly, hcovers, hcongr, -⟩ := represents_tokens [" get", "", "ß\u2003", "a b", "GET "]
  obtain ⟨methods, heq, hlisted⟩ := honly (by rw [hset]; nofun)
  rw [hset] at heq
  obtain rfl := only.inj heq
  refine ⟨hset, hlisted, ?_⟩
  rw [hcongr _ (by simp; tauto), hset]
  decide

/-- A blank token names nothing, not even the empty text. -/
theorem not_covers_empty_name :
    ¬((ofTokens ["", "GET"]).covers "" = true ↔
      ofTokens ["", "GET"] = .any ∨ ∃ t ∈ ["", "GET"], nameOf t = "") := by
  decide +kernel

end MethodSet

end EndpointGate
