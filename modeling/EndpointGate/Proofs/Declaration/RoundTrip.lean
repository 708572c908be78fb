import EndpointGate.Proofs.Declaration.Grammar
import EndpointGate.Proofs.Registry.Concatenation
import EndpointGate.Proofs.Text.UpperCase.Settled

/-!
# Writing declarations and reading them again

What is read has a normal form: a pattern without blanks and brackets, and names of methods in upper case,
each once (`isNormal_of_parse`). Just the declarations in this form are read as they are written
(`parse_render_iff`), and so is a registry as the list of its declarations.
-/

namespace EndpointGate

open Text

namespace MethodSet

/-- The name of a method as declarations give it. -/
structure IsName (name : String) : Prop where
  ne_nil : name.toList ≠ []
  plain : ∀ c ∈ name.toList, IsPlain c
  upper : upper name.toList = name.toList
  ne_any : name.toList ≠ ['*']

/-- The set is every method, or a list of names without repeats. -/
def IsNormal : MethodSet → Prop
  | .any => True
  | .only methods => methods ≠ [] ∧ methods.Nodup ∧ ∀ name ∈ methods, IsName name

/-- What stands between the brackets where the set is written. -/
def listText (ms : MethodSet) : List Char := [' '].intercalate (ms.toList.map String.toList)

theorem isName_upper {t : List Char} (hne : t ≠ []) (hplain : ∀ c ∈ t, IsPlain c) (hany : t ≠ ['*']) :
    IsName (String.ofList (Text.upper t)) where
  ne_nil := by simpa [upper_eq_nil_iff] using hne
  plain := by simpa using isPlain_of_mem_upper hplain
  upper := by simp [upper_upper]
  ne_any := by simpa [upper_eq_asterisk_iff] using hany

end MethodSet

namespace Declaration

/-- The declaration has the form that is read from a text. -/
structure IsNormal (d : Declaration) : Prop where
  pattern_ne : d.pattern.toList ≠ []
  pattern_plain : ∀ c ∈ d.pattern.toList, isPatternChar c = true
  methods : d.methods.IsNormal

variable {ms : MethodSet} {body : List Char} {entry : String} {d : Declaration}

theorem isPlain_iff {c : Char} : IsPlain c ↔ isSeparator c = false ∧ isBracket c = false := by
  simp [IsPlain, isSeparator, isBracket]
  tauto

/-! ## What is read -/

/-- Methods that are listed are in normal form. -/
theorem isNormal_of_areListed (hbody : ∀ c ∈ body, isBracket c = false)
    (h : AreListed ms (some body)) : ms.IsNormal := by
  obtain ⟨tokens, hruns, hnamed⟩ := h
  cases ms with
  | any => trivial
  | only methods =>
    obtain ⟨hne, hany, hfirst⟩ := hnamed
    refine ⟨hfirst.ne_nil (by simpa using hne), hfirst.nodup, fun name hname => ?_⟩
    obtain ⟨t, ht, rfl⟩ := List.mem_map.1 ((hfirst.mem_iff name).1 hname)
    refine MethodSet.isName_upper (hruns.ne_nil_of_mem ht) (fun c hc => ?_) ?_
    · obtain ⟨hmem, hsep⟩ := hruns.mem_of_mem ht hc
      exact isPlain_iff.2 ⟨hsep, hbody c hmem⟩
    · rintro rfl
      exact hany ht

theorem IsWritten.pattern {cs pattern : List Char} {body : Option (List Char)}
    (h : IsWritten cs pattern body) : pattern ≠ [] ∧ ∀ c ∈ pattern, isPatternChar c = true := by
  cases h with
  | intro _ hne hpattern _ => exact ⟨hne, hpattern⟩

theorem not_isBracket_of_isWritten {cs pattern : List Char} (h : IsWritten cs pattern (some body)) :
    ∀ c ∈ body, isBracket c = false := by
  cases h with
  | intro _ _ _ htail =>
    cases htail with
    | listed _ hbody _ => exact hbody

theorem isNormal_of_parse (h : parse entry = .ok d) : d.IsNormal := by
  obtain ⟨pattern, body, hwritten, hpattern, hlisted⟩ := parse?_eq_some_iff.1 (parse_eq_ok_iff.1 h)
  obtain ⟨hne, hplain⟩ := hwritten.pattern
  refine ⟨by rwa [hpattern, String.toList_ofList], by rwa [hpattern, String.toList_ofList], ?_⟩
  cases body with
  | none =>
    rw [show d.methods = .any from hlisted]
    trivial
  | some body => exact isNormal_of_areListed (not_isBracket_of_isWritten hwritten) hlisted

/-! ## What is written -/

theorem toList_render (ms : MethodSet) : ms.render.toList = '[' :: ms.listText ++ [']'] := by
  simp [MethodSet.render, MethodSet.listText]

/-- Names are listed as they are written. -/
theorem areListed_of_isNormal (h : ms.IsNormal) : AreListed ms (some ms.listText) := by
  cases ms with
  | any => exact ⟨[['*']], runs_iff.2 rfl, .inr (List.mem_singleton_self _)⟩
  | only methods =>
    obtain ⟨hne, hnodup, hnames⟩ := h
    refine ⟨methods.map String.toList, runs_iff.2 (fields_intercalate rfl ?_), ?_, ?_, ?_⟩
    · rw [List.forall_mem_map]
      intro name hname
      exact ⟨(hnames name hname).ne_nil, fun c hc => (isPlain_iff.1 ((hnames name hname).plain c hc)).1⟩
    · simpa using hne
    · intro hmem
      obtain ⟨name, hname, hany⟩ := List.mem_map.1 hmem
      exact (hnames name hname).ne_any hany
    · have hsame : (methods.map String.toList).map (fun t => String.ofList (upper t)) = methods := by
        rw [List.map_map]
        conv_rhs => rw [← List.map_id methods]
        apply List.map_congr_left
        intro name hname
        simp [(hnames name hname).upper]
      rw [hsame]
      exact .of_nodup hnodup

theorem mem_intercalate {c : Char} {tokens : List (List Char)} (h : c ∈ [' '].intercalate tokens) :
    c = ' ' ∨ ∃ t ∈ tokens, c ∈ t := by
  induction tokens with
  | nil => exact absurd h List.not_mem_nil
  | cons t tokens ih =>
    cases tokens with
    | nil =>
      rw [List.intercalate_singleton] at h
      exact .inr ⟨t, List.mem_cons_self, h⟩
    | cons u tokens =>
      rw [List.intercalate_cons_cons, List.mem_append, List.mem_append, List.mem_singleton] at h
      rcases h with (h | h) | h
      · exact .inr ⟨t, List.mem_cons_self, h⟩
      · exact .inl h
      · rcases ih h with h | ⟨v, hv, h⟩
        · exact .inl h
        · exact .inr ⟨v, List.mem_cons_of_mem t hv, h⟩

theorem not_isBracket_of_mem_listText (h : ms.IsNormal) : ∀ c ∈ ms.listText, isBracket c = false := by
  intro c hc
  rcases mem_intercalate hc with rfl | ⟨t, ht, hct⟩
  · decide
  · obtain ⟨name, hname, rfl⟩ := List.mem_map.1 ht
    cases ms with
    | any =>
      obtain rfl := List.mem_singleton.1 hname
      obtain rfl := List.mem_singleton.1 hct
      decide
    | only methods => exact (isPlain_iff.1 ((h.2.2 name hname).plain c hct)).2

theorem isWritten_render (h : d.IsNormal) :
    IsWritten d.render.toList d.pattern.toList (some d.methods.listText) := by
  have htail : IsTail ([' '] ++ '[' :: d.methods.listText ++ ']' :: []) (some d.methods.listText) :=
    .listed (by simp [IsBlankText]; decide) (not_isBracket_of_mem_listText h.methods) nofun
  have hwritten := IsWritten.intro (w := []) nofun h.pattern_ne h.pattern_plain htail
  have htext : d.render.toList =
      [] ++ d.pattern.toList ++ ([' '] ++ '[' :: d.methods.listText ++ ']' :: []) := by
    simp [Declaration.render, toList_render]
  rwa [htext]

/-- The declarations in normal form are those that are read as they are written. -/
theorem parse_render_iff : parse d.render = .ok d ↔ d.IsNormal := by
  constructor
  · exact isNormal_of_parse
  · intro h
    refine parse_eq_ok_iff.2 (parse?_eq_some_iff.2 ⟨_, _, isWritten_render h, ?_, ?_⟩)
    · rw [String.ofList_toList]
    · exact areListed_of_isNormal h.methods

end Declaration

namespace Registry

/-- A registry is that of its own declarations as they are written. -/
theorem ofEntries_render {entries : List String} {r : Registry} (h : ofEntries entries = .ok r) :
    ofEntries (r.declarations.map Declaration.render) = .ok r := by
  obtain ⟨ds, hds, rfl⟩ := insertAll_eq_ok_iff.1 h
  have hrecords : (empty.declare ds).Records ds := records_empty.declare ds
  refine insertAll_eq_ok_iff.2 ⟨_, ?_, hrecords.declare_declarations.symm⟩
  rw [List.map_map]
  apply List.map_congr_left
  intro d hd
  -- It is the last declaration of its pattern.
  obtain ⟨e, he, rfl⟩ := List.mem_map.1 hd
  have hmem := List.mem_map_of_mem (f := some) (mem_of_lastMethods (hrecords.last e he))
  rw [← hds] at hmem
  obtain ⟨entry, -, hentry⟩ := List.mem_map.1 hmem
  have hnormal := Declaration.isNormal_of_parse (Declaration.parse_eq_ok_iff.2 hentry)
  exact Declaration.parse_eq_ok_iff.1 (Declaration.parse_render_iff.2 hnormal)

end Registry

/-- **Round trip.** What a declaration has been read as is read again from its written form, and every
registry of declarations is read again from the declarations that it has, written one after another. -/
theorem Declaration.parse_render :
    (∀ entry d, parse entry = .ok d → parse d.render = .ok d) ∧
    ∀ entries r, Registry.ofEntries entries = .ok r →
      Registry.ofEntries (r.declarations.map render) = .ok r :=
  ⟨fun _ _ h => parse_render_iff.2 (isNormal_of_parse h), fun _ _ h => Registry.ofEntries_render h⟩

/-- Repeated methods in letters that become two, and a pattern declared again. -/
theorem Declaration.parse_render_expansion :
    parse " /a [get,,straße\tGET]" = .ok ⟨"/a", .only ["GET", "STRASSE"]⟩ ∧
      parse "/a [GET STRASSE]" = .ok ⟨"/a", .only ["GET", "STRASSE"]⟩ ∧
      Registry.ofEntries ["/a [get]", "/b[,]", "/a [ß]"] =
        .ok ⟨[⟨Pattern.compile "/a", .only ["SS"]⟩, ⟨Pattern.compile "/b", .any⟩]⟩ ∧
      Registry.ofEntries ["/a [SS]", "/b [*]"] =
        .ok ⟨[⟨Pattern.compile "/a", .only ["SS"]⟩, ⟨Pattern.compile "/b", .any⟩]⟩ := by
  have hentry : parse " /a [get,,straße\tGET]" = .ok ⟨"/a", .only ["GET", "STRASSE"]⟩ := by
    decide +kernel
  have hentries : Registry.ofEntries ["/a [get]", "/b[,]", "/a [ß]"] =
      .ok ⟨[⟨Pattern.compile "/a", .only ["SS"]⟩, ⟨Pattern.compile "/b", .any⟩]⟩ := by
    decide +kernel
  have hdeclaration := parse_render.1 _ _ hentry
  have hregistry := parse_render.2 _ _ hentries
  rw [show render ⟨"/a", .only ["GET", "STRASSE"]⟩ = "/a [GET STRASSE]" by decide] at hdeclaration
  exact ⟨hentry, hdeclaration, hentries, hregistry⟩

end EndpointGate
