import EndpointGate.Proofs.Gate.DeclarationOrder
import EndpointGate.Proofs.Pattern.Variable
import Mathlib.Data.Set.Function

/-!
# Renaming template variables

A registry knows a pattern by its text. Where different texts of a list stay different under a renaming of
their variables, the registry of the renamed list has the renamed entries (`entries_declare_renamed`), and a
look-up finds the renamed entry (`lookup_declare_renamed`). So the same requests are declined
(`variables_match_like_stars`). Texts that become the same count as one pattern, with the methods of the last
one (`merged_by_renaming`).
-/

namespace EndpointGate

variable {ρ : String → String} {ds : List Declaration}

/-- The declaration of the renamed pattern. -/
def Declaration.renamed (ρ : String → String) (d : Declaration) : Declaration :=
  { d with pattern := ρ d.pattern }

/-- The entry of the renamed pattern. -/
def Entry.renamed (ρ : String → String) (e : Entry) : Entry := ⟨Pattern.compile (ρ e.text), e.methods⟩

/-- The decision with the name of the renamed pattern. -/
def Decision.renamed (ρ : String → String) : Decision → Decision
  | .allow => .allow
  | .decline d => .decline { d with pattern := ρ d.pattern }

@[simp] theorem Decision.isDeclined_renamed (ρ : String → String) (d : Decision) :
    (d.renamed ρ).isDeclined = d.isDeclined := by
  cases d <;> rfl

@[simp] theorem Entry.text_renamed (ρ : String → String) (e : Entry) : (e.renamed ρ).text = ρ e.text := rfl

namespace Registry

/-- Each pattern of the list has another name for its variables, and different patterns stay different. -/
structure RenamesVariables (ρ : String → String) (ds : List Declaration) : Prop where
  renames : ∀ text ∈ texts ds, Pattern.Renames text (ρ text)
  injOn : Set.InjOn ρ {text | text ∈ texts ds}

/-! ## Entries -/

theorem insertEntry_renamed {es : List Entry} {text : String} {methods : MethodSet}
    (h : ∀ e ∈ es, ρ e.text = ρ text → e.text = text) :
    insertEntry (ρ text) methods (es.map (Entry.renamed ρ)) =
      (insertEntry text methods es).map (Entry.renamed ρ) := by
  induction es with
  | nil => rfl
  | cons e es ih =>
    have hes := ih fun f hf => h f (List.mem_cons_of_mem e hf)
    by_cases he : e.text = text
    · subst he
      have htext : (e.renamed ρ).text = ρ e.text := rfl
      rw [List.map_cons, insertEntry, if_pos htext, insertEntry, if_pos rfl]
      rfl
    · have hne : ρ e.text ≠ ρ text := fun heq => he (h e List.mem_cons_self heq)
      simp [insertEntry, he, hne, hes]

theorem entries_declare_concat (r : Registry) (ds : List Declaration) (d : Declaration) :
    (r.declare (ds ++ [d])).entries = insertEntry d.pattern d.methods (r.declare ds).entries := by
  simp [declare]

theorem entries_declare_renamed (hinj : Set.InjOn ρ {text | text ∈ texts ds}) :
    (empty.declare (ds.map (Declaration.renamed ρ))).entries =
      (empty.declare ds).entries.map (Entry.renamed ρ) := by
  induction ds using List.reverseRecOn with
  | nil => rfl
  | append_singleton ds d ih =>
    have hold : {text | text ∈ texts ds} ⊆ {text | text ∈ texts (ds ++ [d])} := by
      intro text ht
      exact texts_append ds [d] ▸ List.mem_append_left _ ht
    have hnew : d.pattern ∈ texts (ds ++ [d]) := by simp [texts]
    have hrecords : (empty.declare ds).Records ds := records_empty.declare ds
    have hkeep : ∀ e ∈ (empty.declare ds).entries, ρ e.text = ρ d.pattern → e.text = d.pattern := by
      intro e he
      have hmem := (hrecords.mem_iff e.text).1 (List.mem_map_of_mem he)
      exact hinj (hold hmem) hnew
    rw [List.map_append, List.map_singleton, entries_declare_concat, entries_declare_concat,
      ih (hinj.mono hold)]
    exact insertEntry_renamed hkeep

/-! ## Look-ups -/

theorem lookup_declare_renamed (h : RenamesVariables ρ ds) (path method : String) :
    (empty.declare (ds.map (Declaration.renamed ρ))).lookup path method =
      ((empty.declare ds).lookup path method).map (Entry.renamed ρ) := by
  have hrecords : (empty.declare ds).Records ds := records_empty.declare ds
  have hcovers : ∀ e ∈ (empty.declare ds).entries,
      (e.renamed ρ).covers path method = e.covers path method := by
    intro e he
    have hmem := (hrecords.mem_iff e.text).1 (List.mem_map_of_mem he)
    unfold Entry.covers
    rw [hrecords.compiled e he, ← (h.renames e.text hmem).matches?_eq]
    rfl
  unfold lookup
  rw [entries_declare_renamed h.injOn, List.find?_map, ← List.head?_filter, ← List.head?_filter]
  congr 2
  exact List.filter_congr hcovers

theorem judge_declare_renamed (h : RenamesVariables ρ ds) (method uri : String) :
    (empty.declare (ds.map (Declaration.renamed ρ))).judge method uri =
      ((empty.declare ds).judge method uri).renamed ρ := by
  unfold judge
  rw [lookup_declare_renamed h]
  cases (empty.declare ds).lookup (uriPath uri) (Text.asciiUppercase method) <;> rfl

end Registry

namespace Gate

open Declaration (AreRead)
open Pattern

/-- **Template variables.** A template variable matches like an asterisk in its place, whatever its name is,
unless the segment with the asterisk is `**`. So patterns that differ in the names of their variables match the
same paths. Lists of declarations that differ in these names decline the same requests, for the patterns that
correspond, as long as their different patterns stay different. -/
theorem variables_match_like_stars :
    (∀ (s : Site) (name : List Char), IsName name → s.segment ['*'] ≠ ['*', '*'] → ∀ path,
      (compile (s.put (variableOf name))).matches? path = (compile (s.put ['*'])).matches? path) ∧
    (∀ pattern pattern', Renames pattern pattern' → ∀ path,
      (compile pattern').matches? path = (compile pattern).matches? path) ∧
    ∀ (ρ : String → String) (ds : List Declaration) (entries entries' : List String),
      Registry.RenamesVariables ρ ds → AreRead entries ds → AreRead entries' (ds.map (Declaration.renamed ρ)) →
        ∃ r r', Registry.ofEntries entries = .ok r ∧ Registry.ofEntries entries' = .ok r' ∧
          ∀ t t' method uri,
            (evaluate ⟨r', t'⟩ method uri).1.isDeclined = (evaluate ⟨r, t⟩ method uri).1.isDeclined ∧
            (evaluate ⟨r', t'⟩ method uri).1 = (evaluate ⟨r, t⟩ method uri).1.renamed ρ := by
  refine ⟨fun s name hname h path => ?_, fun pattern pattern' h path => ?_, ?_⟩
  · rw [matches?_variable_eq_star hname h]
  · rw [h.matches?_eq]
  · intro ρ ds entries entries' h hread hread'
    refine ⟨_, _, hread.ofEntries, hread'.ofEntries, fun t t' method uri => ?_⟩
    have hjudge := Registry.judge_declare_renamed h method uri
    show (Registry.judge _ method uri).isDeclined = (Registry.judge _ method uri).isDeclined ∧
      Registry.judge _ method uri = (Registry.judge _ method uri).renamed ρ
    rw [hjudge]
    exact ⟨Decision.isDeclined_renamed ρ _, rfl⟩

/-- A variable between another one and a question mark, and a pattern that is declared twice. -/
theorem variables_match_like_stars_named :
    (∃ s : Site, IsName "id:*\x7b[0-9]".toList ∧ s.segment ['*'] ≠ ['*', '*'] ∧
      s.put (variableOf "id:*\x7b[0-9]".toList) = "/v1/\x7ba\x7bb\x7d\x7bid:*\x7b[0-9]\x7d?/**" ∧
      ∀ path, (compile (s.put (variableOf "id:*\x7b[0-9]".toList))).matches? path =
        (compile (s.put ['*'])).matches? path) ∧
    (∀ path, (compile "/a/\x7bid:.+\x7d").matches? path = (compile "/a/\x7bx\x7d").matches? path) ∧
    ∃ r', Registry.ofEntries ["/a/\x7bid:.+\x7d [GET]", "/a/\x7bx\x7d/b", "/a/\x7bid:.+\x7d [post]"] = .ok r' ∧
      (evaluate ⟨r', .ofStem Tally.defaultStem⟩ "POST" "/a/1").1.isDeclined = true := by
  let s : Site := ⟨"/v1/".toList, "\x7ba\x7bb\x7d".toList, "?".toList, "/**".toList, by simp, by simp, by simp,
    by simp, @EndsOutside.braces "a\x7bb".toList [] (by decide) .nil⟩
  have hname : IsName "id:*\x7b[0-9]".toList := by simp [IsName]
  have hstar : s.segment ['*'] ≠ ['*', '*'] := by decide
  obtain ⟨hmatches, hsame, hdeclines⟩ := variables_match_like_stars
  have hrenames : Renames "/a/\x7bx\x7d" "/a/\x7bid:.+\x7d" :=
    @renames_last "x".toList "id:.+".toList "/a/".toList (by simp) (by simp [IsName]) (by simp [IsName])
  refine ⟨⟨s, hname, hstar, by decide, hmatches s _ hname hstar⟩, hsame _ _ hrenames, ?_⟩
  let ds : List Declaration :=
    [⟨"/a/\x7bx\x7d", .only ["GET"]⟩, ⟨"/a/\x7bx\x7d/b", .any⟩, ⟨"/a/\x7bx\x7d", .only ["POST"]⟩]
  let ρ : String → String := fun text => if text = "/a/\x7bx\x7d" then "/a/\x7bid:.+\x7d" else text
  have hkeep : Registry.RenamesVariables ρ ds := by
    have htexts : ∀ text ∈ Registry.texts ds, text = "/a/\x7bx\x7d" ∨ text = "/a/\x7bx\x7d/b" := by decide
    refine ⟨fun text ht => ?_, fun text ht text' ht' => ?_⟩
    · obtain rfl | rfl := htexts text ht
      · exact hrenames
      · exact .refl _
    · obtain rfl | rfl := htexts text ht <;> obtain rfl | rfl := htexts text' ht' <;> decide
  have hread : AreRead ["/a/\x7bx\x7d [GET]", "/a/\x7bx\x7d/b", "/a/\x7bx\x7d [POST]"] ds := by
    unfold AreRead
    decide +kernel
  have hread' : AreRead ["/a/\x7bid:.+\x7d [GET]", "/a/\x7bx\x7d/b", "/a/\x7bid:.+\x7d [post]"]
      (ds.map (Declaration.renamed ρ)) := by
    unfold AreRead
    decide +kernel
  obtain ⟨r, r', hr, hr', hevaluate⟩ := hdeclines ρ ds _ _ hkeep hread hread'
  refine ⟨r', hr', ?_⟩
  obtain rfl := Except.ok.inj (hread.ofEntries.symm.trans hr)
  rw [(hevaluate (.ofStem Tally.defaultStem) _ _ _).1]
  decide +kernel

/-- Two patterns that become the same one by a renaming. -/
theorem merged_by_renaming :
    Renames "/a/\x7by\x7d" "/a/\x7bx\x7d" ∧
    (∃ r, Registry.ofEntries ["/a/\x7bx\x7d [GET]", "/a/\x7by\x7d [POST]"] = .ok r ∧
      ((ofRegistry r).evaluate "GET" "/a/1").1.isDeclined = true) ∧
    ∃ r, Registry.ofEntries ["/a/\x7bx\x7d [GET]", "/a/\x7bx\x7d [POST]"] = .ok r ∧
      ((ofRegistry r).evaluate "GET" "/a/1").1.isDeclined = false := by
  have hrenames : Renames "/a/\x7by\x7d" "/a/\x7bx\x7d" :=
    @renames_last "y".toList "x".toList "/a/".toList (by simp) (by simp [IsName]) (by simp [IsName])
  exact ⟨hrenames, ⟨_, rfl, by decide +kernel⟩, ⟨_, rfl, by decide +kernel⟩⟩

end Gate

end EndpointGate
