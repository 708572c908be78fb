import EndpointGate.Proofs.Declaration.LetterCase
import EndpointGate.Proofs.Gate.Accounting
import EndpointGate.Proofs.Gate.Answer

/-!
# What a decision depends on

A gate goes by the path of a URI, and by the letters of a method whatever their case is. Requests that are the
same in this are allowed both, or declined both by the same pattern and counted in the same series
(`answersAlike`); the errors tell them apart. As declarations are read alike in either case of their methods,
letter case does not matter on either side (`ignores_letter_case`).
-/

namespace EndpointGate

open Text

/-- The path is what stands before the query and the fragment of the URI. -/
def IsPathOf (path uri : String) : Prop :=
  ∃ rest, uri.toList = path.toList ++ rest ∧ (∀ c ∈ path.toList, c ≠ '?' ∧ c ≠ '#') ∧
    ∀ c ∈ rest.head?, c = '?' ∨ c = '#'

theorem uriPath_eq_iff {path uri : String} : uriPath uri = path ↔ IsPathOf path uri := by
  constructor
  · rintro rfl
    refine ⟨uri.toList.dropWhile fun c => !(c == '?' || c == '#'), ?_, fun c hc => ?_, fun c hc => ?_⟩
    · rw [uriPath, String.toList_ofList, List.takeWhile_append_dropWhile]
    · rw [uriPath, String.toList_ofList] at hc
      simpa using List.mem_takeWhile_imp hc
    · have hend := List.head?_dropWhile_not (fun c => !(c == '?' || c == '#')) uri.toList
      rw [Option.mem_def.1 hc] at hend
      simpa [or_iff_not_imp_left] using hend
  · rintro ⟨rest, huri, hpath, hrest⟩
    have hinside : ∀ c ∈ path.toList, (!(c == '?' || c == '#')) = true := by simpa using hpath
    have hend : ∀ c ∈ rest.head?, (!(c == '?' || c == '#')) = false := by
      simpa [or_iff_not_imp_left] using hrest
    rw [uriPath, huri, takeWhile_append_of_head? hinside hend, String.ofList_toList]

theorem asciiUppercase_eq_of_sameLetters {method method' : String}
    (h : SameLetters method.toList method'.toList) : asciiUppercase method = asciiUppercase method' := by
  rw [asciiUppercase, asciiUppercase, sameLetters_iff_upper.1 h]

namespace Gate

/-- The gate allows both requests, or it declines both for the same pattern and methods and counts both under the
key of the same series. The error of each request has its own method and URI. -/
inductive AnswersAlike (g : Gate) (method uri method' uri' : String) : Prop
  | allowed (h : g.evaluate method uri = (.allow, g)) (h' : g.evaluate method' uri' = (.allow, g))
  | declined (methods : MethodSet) {pattern label : String} {after : Gate}
    (h : g.evaluate method uri = (.decline ⟨method, uri, methods, pattern⟩, after))
    (h' : g.evaluate method' uri' = (.decline ⟨method', uri', methods, pattern⟩, after))
    (hlabel : Tally.IsLabelOf label method) (hlabel' : Tally.IsLabelOf label method')
    (counted : ∀ s : Series,
      after.tally.count s = g.tally.count s + if s.key = Series.key ⟨pattern, label⟩ then 1 else 0)

variable {g : Gate} {path uri uri' method method' : String}

theorem evaluate_of_lookup_eq_none (hpath : IsPathOf path uri)
    (h : g.registry.lookup path (asciiUppercase method) = none) : g.evaluate method uri = (.allow, g) := by
  unfold evaluate Registry.judge
  rw [uriPath_eq_iff.2 hpath, h]
  rfl

theorem evaluate_of_lookup_eq_some {e : Entry} (hpath : IsPathOf path uri)
    (h : g.registry.lookup path (asciiUppercase method) = some e) :
    g.evaluate method uri = (.decline ⟨method, uri, e.methods, e.text⟩,
      { g with tally := g.tally.recordAll [⟨e.text, Tally.labelOf method⟩] }) := by
  have hdecision : (g.evaluate method uri).1 = .decline ⟨method, uri, e.methods, e.text⟩ :=
    Registry.judge_eq_decline_iff.2 ⟨e, by rwa [uriPath_eq_iff.2 hpath], rfl⟩
  have htally := tally_evaluate g method uri
  rw [hdecision] at htally
  exact Prod.ext hdecision (congrArg (Gate.mk g.registry) htally)

theorem answersAlike (hmethod : SameLetters method.toList method'.toList) (h : IsPathOf path uri)
    (h' : IsPathOf path uri') : g.AnswersAlike method uri method' uri' := by
  have hupper := asciiUppercase_eq_of_sameLetters hmethod
  have hlabel : Tally.labelOf method' = Tally.labelOf method := by
    rw [← Tally.labelOf_asciiUppercase, ← hupper, Tally.labelOf_asciiUppercase]
  cases hl : g.registry.lookup path (asciiUppercase method) with
  | none =>
    exact .allowed (evaluate_of_lookup_eq_none h hl) (evaluate_of_lookup_eq_none h' (hupper ▸ hl))
  | some e =>
    have hd := evaluate_of_lookup_eq_some h hl
    have hd' := evaluate_of_lookup_eq_some h' (hupper ▸ hl)
    rw [hlabel] at hd'
    refine .declined e.methods hd hd' (Tally.labelOf_eq_iff.1 rfl) (Tally.labelOf_eq_iff.1 hlabel) fun s => ?_
    exact Tally.count_record g.tally e.text method s

/-- **Letter case.** Declarations whose methods are written in another letter case are read alike: into equal
registries, or up to the same malformed one. Requests that have the same path, and the same method but for
letter case, are answered alike by every gate. -/
theorem ignores_letter_case :
    (∀ entries entries' : List String,
      List.Forall₂ (fun entry entry' => Declaration.Recased entry.toList entry'.toList) entries entries' →
        Registry.ReadAlike entries entries') ∧
    ∀ (g : Gate) (method method' path uri uri' : String), SameLetters method.toList method'.toList →
      IsPathOf path uri → IsPathOf path uri' → g.AnswersAlike method uri method' uri' :=
  ⟨fun _ _ => Registry.readAlike, fun _ _ _ _ _ _ => answersAlike⟩

/-- A list with a letter outside ASCII, and one that is never closed. -/
theorem ignores_letter_case_of_methods :
    let entries := ["/a/* [get,maße]", "/b", "/c [put", "/d]"]
    let entries' := ["/a/* [GET,MaßE]", "/b", "/c [PUT", "/d]"]
    let g := ofRegistry (Registry.empty.insert "/a/*" (.only ["GET", "MASSE"]))
    Registry.ReadAlike entries entries' ∧
      Registry.ofEntries (entries'.take 1) = .ok g.registry ∧
      g.AnswersAlike "Get" "/a/1?x=1" "gET" "/a/1#top" ∧
      (g.evaluate "Get" "/a/1?x=1").1 = .decline ⟨"Get", "/a/1?x=1", .only ["GET", "MASSE"], "/a/*"⟩ := by
  intro entries entries' g
  have hlist : Declaration.Recased "/a/* [get,maße]".toList "/a/* [GET,MaßE]".toList := by
    have h := Declaration.Recased.inList "/a/* ".toList
      (by decide : SameLetters "get,maße]".toList "GET,MaßE]".toList)
    simpa using h
  have hopen : Declaration.Recased "/c [put".toList "/c [PUT".toList := by
    have h := Declaration.Recased.inList "/c ".toList (by decide : SameLetters "put".toList "PUT".toList)
    simpa using h
  obtain ⟨hread, hanswers⟩ := ignores_letter_case
  refine ⟨hread entries entries' ?_, by decide +kernel, hanswers g "Get" "gET" "/a/1" _ _ (by decide) ?_ ?_,
    by decide +kernel⟩
  · exact .cons hlist (.cons (.same _) (.cons hopen (.cons (.same _) .nil)))
  · exact ⟨"?x=1".toList, by simp, by simp, by simp⟩
  · exact ⟨"#top".toList, by simp, by simp, by simp⟩

end Gate

end EndpointGate
