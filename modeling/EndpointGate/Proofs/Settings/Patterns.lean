import EndpointGate.Proofs.Settings.Override

/-!
# Declarations in a variable

A text that joins declarations by semicolons, with blanks around them and blank items between them, stands for
the list of them: it is cut into the items again (`Text.pieces_intercalate`), and what is left of an item without
the blanks is read as the declaration is (`Declaration.parse?_trimmed`). Whatever the text, no blank item and no
item with blanks at its ends is kept (`isTidy_of_mem_patternsOf`), and a registry is never built from nothing
(`entries_ne_nil_of_registry`). `joined_declares_list` puts this together.
-/

namespace EndpointGate

namespace Registry

open Declaration

variable {entries : List String} {r : Registry}

theorem ofEntries_map_trimmed :
    ofEntries (entries.map Text.trimmed) = .ok r ↔ ofEntries entries = .ok r := by
  have hread : (entries.map Text.trimmed).map parse? = entries.map parse? := by
    simp [parse?_trimmed]
  unfold ofEntries
  rw [insertAll_eq_ok_iff, insertAll_eq_ok_iff, hread]

theorem exists_ofEntries_eq_ok (h : ∀ x ∈ entries, ∃ d, parse x = .ok d) : ∃ r, ofEntries entries = .ok r := by
  cases hr : ofEntries entries with
  | ok r => exact ⟨r, rfl⟩
  | error e =>
    obtain ⟨x, hx, hno⟩ := exists_error_iff.1 ⟨e, hr⟩
    obtain ⟨d, hd⟩ := h x hx
    rw [parse_eq_error_iff.2 ⟨hno, rfl⟩] at hd
    nomatch hd

theorem entries_ne_nil_of_ofEntries (hne : entries ≠ []) (h : ofEntries entries = .ok r) : r.entries ≠ [] := by
  obtain ⟨ds, hds, rfl⟩ := insertAll_eq_ok_iff.1 h
  cases ds with
  | nil => exact absurd (List.map_eq_nil_iff.1 hds) hne
  | cons d ds =>
    have hmem := ((records_empty.declare (d :: ds)).mem_iff d.pattern).2 List.mem_cons_self
    obtain ⟨e, he, -⟩ := List.mem_map.1 hmem
    exact List.ne_nil_of_mem he

end Registry

namespace Settings

open Declaration (IsBlankText)

/-! ## Joined declarations -/

/-- The items are the entries in their order, each with any blanks around it, and blank items among them. -/
inductive IsItemized : List String → List (List Char) → Prop
  | nil : IsItemized [] []
  | blank {entries : List String} {items : List (List Char)} {w : List Char} (hw : IsBlankText w)
      (h : IsItemized entries items) : IsItemized entries (w :: items)
  | entry {entries : List String} {items : List (List Char)} {v w : List Char} {x : String}
      (hv : IsBlankText v) (hw : IsBlankText w) (h : IsItemized entries items) :
      IsItemized (x :: entries) ((v ++ x.toList ++ w) :: items)

/-- The value joins the entries by semicolons, with any blanks and blank items around them. -/
def IsJoined (entries : List String) (value : String) : Prop :=
  ∃ items, IsItemized entries items ∧ value.toList = [';'].intercalate items

/-- The text is not blank, has no blanks at its ends and no semicolon in it. -/
structure IsTidy (p : String) : Prop where
  not_blank : ¬IsBlankText p.toList
  head : ∀ c ∈ p.toList.head?, Text.isBlank c = false
  last : ∀ c ∈ p.toList.getLast?, Text.isBlank c = false
  no_semicolon : ';' ∉ p.toList

variable {entries : List String} {items : List (List Char)} {value : String} {vars : Variables}
  {s : Settings} {r : Registry}

theorem IsItemized.not_mem (h : IsItemized entries items) (hentries : ∀ x ∈ entries, ';' ∉ x.toList) :
    ∀ t ∈ items, ';' ∉ t := by
  have hblank {w : List Char} (hw : IsBlankText w) : ';' ∉ w := fun hmem => nomatch hw ';' hmem
  induction h with
  | nil => nofun
  | blank hw _ ih => exact List.forall_mem_cons.2 ⟨hblank hw, ih hentries⟩
  | entry hv hw _ ih =>
    obtain ⟨hx, hentries⟩ := List.forall_mem_cons.1 hentries
    refine List.forall_mem_cons.2 ⟨?_, ih hentries⟩
    simp only [List.mem_append, not_or]
    exact ⟨⟨hblank hv, hx⟩, hblank hw⟩

/-- Without the blanks around them, and without the blank ones, the items are the entries. -/
theorem IsItemized.filter_trim (h : IsItemized entries items)
    (hentries : ∀ x ∈ entries, Text.trim x.toList ≠ []) :
    (items.map Text.trim).filter (fun p => !p.isEmpty) = entries.map fun x => Text.trim x.toList := by
  induction h with
  | nil => rfl
  | blank hw _ ih =>
    rw [List.map_cons, Text.trim_eq_nil_iff.2 hw, List.filter_cons_of_neg (by simp)]
    exact ih hentries
  | entry hv hw _ ih =>
    obtain ⟨hx, hentries⟩ := List.forall_mem_cons.1 hentries
    rw [List.map_cons, Text.trim_append_of_blanks hv _ hw, List.filter_cons_of_pos (by simpa using hx),
      ih hentries, List.map_cons]

theorem trim_ne_nil_of_parse {x : String} {d : Declaration} (h : Declaration.parse x = .ok d) :
    Text.trim x.toList ≠ [] := by
  obtain ⟨pattern, body, hwritten, -⟩ := Declaration.parse?_eq_some_iff.1 (Declaration.parse_eq_ok_iff.1 h)
  intro hblank
  rw [← Declaration.isWritten_trim_iff, hblank] at hwritten
  nomatch Declaration.split?_of_isWritten hwritten

/-- A text that joins declarations stands for them. -/
theorem patternsOf_of_isJoined (hne : entries ≠ [])
    (hentries : ∀ x ∈ entries, (∃ d, Declaration.parse x = .ok d) ∧ ';' ∉ x.toList)
    (h : IsJoined entries value) : patternsOf value = entries.map Text.trimmed := by
  obtain ⟨items, hitems, hvalue⟩ := h
  have hne' : items ≠ [] := by
    rintro rfl
    cases hitems
    exact hne rfl
  have hcut : Text.pieces (· == ';') value.toList = items := by
    rw [hvalue]
    exact Text.pieces_intercalate hne' (hitems.not_mem fun x hx => (hentries x hx).2)
  have htrim := hitems.filter_trim fun x hx => (hentries x hx).1.elim fun _ hd => trim_ne_nil_of_parse hd
  rw [patternsOf, hcut, htrim, List.map_map]
  rfl

/-! ## Any text -/

theorem isTidy_of_mem_patternsOf {p : String} (h : p ∈ patternsOf value) : IsTidy p := by
  obtain ⟨t, ht, rfl⟩ := List.mem_map.1 h
  obtain ⟨hmem, hne⟩ := List.mem_filter.1 ht
  obtain ⟨q, hq, rfl⟩ := List.mem_map.1 hmem
  have hhead : ∀ c ∈ (Text.trim q).head?, Text.isBlank c = false := by
    rw [Text.head?_trim]
    intro c hc
    simpa using List.find?_some hc
  rw [Bool.not_eq_true', List.isEmpty_eq_false_iff] at hne
  constructor <;> rw [String.toList_ofList]
  · intro hblank
    have hc := hhead _ (List.head?_eq_some_head hne)
    rw [hblank _ (List.head_mem hne)] at hc
    nomatch hc
  · exact hhead
  · exact Text.getLast?_trimEnd _
  · intro hsemi
    nomatch Text.not_isEnd_of_mem_pieces hq (Text.mem_of_mem_trim hsemi)

/-- Nothing remains just if the text has none but blanks and semicolons. -/
theorem patternsOf_eq_nil_iff :
    patternsOf value = [] ↔ ∀ c ∈ value.toList, Text.isBlank c = true ∨ c = ';' := by
  have hpieces : patternsOf value = [] ↔ ∀ p ∈ Text.pieces (· == ';') value.toList, IsBlankText p := by
    simp [patternsOf, List.filter_eq_nil_iff, Text.trim_eq_nil_iff]
  have hflatten (c : Char) :
      (∃ p ∈ Text.pieces (· == ';') value.toList, c ∈ p) ↔ c ∈ value.toList ∧ c ≠ ';' := by
    rw [← List.mem_flatten, Text.flatten_pieces, List.mem_filter]
    simp
  rw [hpieces]
  constructor
  · intro h c hc
    by_cases hsemi : c = ';'
    · exact .inr hsemi
    · obtain ⟨p, hp, hcp⟩ := (hflatten c).2 ⟨hc, hsemi⟩
      exact .inl (h p hp c hcp)
  · intro h p hp c hcp
    obtain ⟨hc, hsemi⟩ := (hflatten c).1 ⟨p, hp, hcp⟩
    exact (h c hc).resolve_right hsemi

/-! ## The registry -/

theorem registry_of_ne_nil (hne : entries ≠ []) :
    registry ⟨true, some entries⟩ = (Registry.ofEntries entries).map some := by
  obtain ⟨_, ⟨⟩, hr⟩ := registry_of_disabled (s := ⟨true, some entries⟩) rfl ⟨nofun, by simpa using hne⟩
  exact hr

theorem registry_eq_missingPatterns_iff :
    registry ⟨true, some entries⟩ = .error .missingPatterns ↔ entries = [] := by
  constructor
  · intro h
    by_contra hne
    rw [registry_of_ne_nil hne] at h
    cases hr : Registry.ofEntries entries with
    | ok r =>
      rw [hr] at h
      nomatch h
    | error e =>
      obtain ⟨_, _, _, _, _, _, he⟩ := Registry.ofEntries_eq_error_iff.1 hr
      rw [hr, he] at h
      nomatch h
  · rintro rfl
    rfl

/-- No registry is built from nothing. -/
theorem entries_ne_nil_of_registry (h : s.registry = .ok (some r)) : r.entries ≠ [] := by
  unfold registry at h
  split at h
  · -- Only declarations that are there, and are not none, are read.
    split at h
    · nomatch h
    · nomatch h
    · rename_i entries hne _
      cases hr : Registry.ofEntries entries with
      | error e =>
        rw [hr] at h
        nomatch h
      | ok r' =>
        rw [hr] at h
        obtain rfl := Option.some.inj (Except.ok.inj h)
        exact Registry.entries_ne_nil_of_ofEntries hne hr
  · nomatch h

theorem overrideInPlace_of_patterns {on : Bool} (hvalue : vars patternsVariable = some value)
    (hon : switch? vars s = some on) : s.overrideInPlace vars = (⟨on, some (patternsOf value)⟩, .ok ()) := by
  rw [overrideInPlace_eq_ok_iff, override_eq_ok_iff]
  refine ⟨hon, ?_⟩
  rw [hvalue]
  rfl

/-- **Declarations in a variable.** Where the gate is switched on, a variable that joins declarations gives the
registry that the list of them gives. Whatever its text, what is kept of it is tidy. Only a text of blanks and
semicolons leaves nothing, and where nothing is left there is no registry, not an empty one. -/
theorem joined_declares_list :
    (∀ s vars value entries, vars patternsVariable = some value → switch? vars s = some true → entries ≠ [] →
      (∀ x ∈ entries, (∃ d, Declaration.parse x = .ok d) ∧ ';' ∉ x.toList) → IsJoined entries value →
      ∃ s' r, overrideInPlace s vars = (s', .ok ()) ∧ s'.registry = .ok (some r) ∧
        registry ⟨true, some entries⟩ = .ok (some r)) ∧
    (∀ s vars value on, vars patternsVariable = some value → switch? vars s = some on →
      ∃ stored, overrideInPlace s vars = (⟨on, some stored⟩, .ok ()) ∧ (∀ p ∈ stored, IsTidy p) ∧
        (stored = [] ↔ ∀ c ∈ value.toList, Text.isBlank c = true ∨ c = ';') ∧
        (on = true → (registry ⟨on, some stored⟩ = .error .missingPatterns ↔ stored = []))) ∧
    ∀ s r, registry s = .ok (some r) → r.entries ≠ [] := by
  refine ⟨?_, ?_, fun _ _ => entries_ne_nil_of_registry⟩
  · intro s vars value entries hvalue hon hne hentries hjoined
    obtain ⟨r, hr⟩ := Registry.exists_ofEntries_eq_ok fun x hx => (hentries x hx).1
    refine ⟨_, r, overrideInPlace_of_patterns hvalue hon, ?_, ?_⟩
    · have hstored : entries.map Text.trimmed ≠ [] := fun hnil => hne (List.map_eq_nil_iff.1 hnil)
      rw [patternsOf_of_isJoined hne hentries hjoined, registry_of_ne_nil hstored,
        Registry.ofEntries_map_trimmed.2 hr]
      rfl
    · rw [registry_of_ne_nil hne, hr]
      rfl
  · intro s vars value on hvalue hon
    refine ⟨_, overrideInPlace_of_patterns hvalue hon, fun _ => isTidy_of_mem_patternsOf,
      patternsOf_eq_nil_iff, ?_⟩
    rintro rfl
    exact registry_eq_missingPatterns_iff

/-- A pattern that is declared twice, the second time with blanks of its own, among blank items. -/
theorem joined_declares_list_among_blanks :
    let entries := ["/a", "/b [get]", " /a [PUT,\tPOST]"]
    let vars (text : String) : Variables := fun name =>
      if name = patternsVariable then some text else if name = disabledVariable then some "T" else none
    (∃ s' r, default.overrideInPlace (vars ";\u00A0/a ;; /b [get]\n; /a [PUT,\tPOST] ;\t") = (s', .ok ()) ∧
      s'.registry = .ok (some r) ∧ registry ⟨true, some entries⟩ = .ok (some r) ∧
      r.entries.map (fun e => (e.text, e.methods)) =
        [("/a", .only ["PUT", "POST"]), ("/b", .only ["GET"])]) ∧
    ∃ stored, default.overrideInPlace (vars " ;;\u2003") = (⟨true, some stored⟩, .ok ()) ∧
      registry ⟨true, some stored⟩ = .error .missingPatterns := by
  intro entries vars
  have hnone : IsBlankText [] := nofun
  have hone {c : Char} (hc : Text.isBlank c = true) : IsBlankText [c] := List.forall_mem_singleton.2 hc
  have hspace := hone (c := ' ') (by decide)
  have hlast : IsItemized [] [['\t']] := .blank (hone (by decide)) .nil
  have hagain : IsItemized [" /a [PUT,\tPOST]"] _ := .entry hnone hspace hlast
  have hb : IsItemized ["/b [get]", " /a [PUT,\tPOST]"] _ := .entry hspace (hone (c := '\n') (by decide)) hagain
  have hitems : IsItemized entries _ :=
    .blank hnone (.entry (hone (c := '\u00A0') (by decide)) hspace (.blank hnone hb))
  have hjoined : IsJoined entries ";\u00A0/a ;; /b [get]\n; /a [PUT,\tPOST] ;\t" :=
    ⟨_, hitems, by decide +kernel⟩
  have hentries : ∀ x ∈ entries, (∃ d, Declaration.parse x = .ok d) ∧ ';' ∉ x.toList := by
    have hread : ∀ x ∈ entries, (Declaration.parse? x).isSome = true ∧ ';' ∉ x.toList := by decide +kernel
    intro x hx
    obtain ⟨d, hd⟩ := Option.isSome_iff_exists.1 (hread x hx).1
    exact ⟨⟨d, Declaration.parse_eq_ok_iff.2 hd⟩, (hread x hx).2⟩
  obtain ⟨hlist, hany, -⟩ := joined_declares_list
  constructor
  · obtain ⟨s', r, hs', hr, hr'⟩ :=
      hlist default (vars _) _ entries rfl (by decide +kernel) (by decide) hentries hjoined
    refine ⟨s', r, hs', hr, hr', ?_⟩
    have hregistry : registry ⟨true, some entries⟩ =
        .ok (some ((Registry.empty.insert "/a" (.only ["PUT", "POST"])).insert "/b" (.only ["GET"]))) := by
      decide +kernel
    obtain rfl := Option.some.inj (Except.ok.inj (hr'.symm.trans hregistry))
    decide +kernel
  · obtain ⟨stored, hs', -, hnil, herror⟩ := hany default (vars " ;;\u2003") _ true rfl (by decide +kernel)
    have hblank : ∀ c ∈ " ;;\u2003".toList, Text.isBlank c = true ∨ c = ';' := by simp [Text.isBlank]
    exact ⟨stored, hs', (herror rfl).2 (hnil.2 hblank)⟩

end Settings

end EndpointGate
