import EndpointGate.Proofs.Gate.Recorded
import EndpointGate.Proofs.Gate.Report
import EndpointGate.Proofs.Route.Segment

/-!
# Samples are instances

`IsTemplate` says how the path of a route is written: segments of characters that stand for themselves and
segments that are parameters, the last of which may be for the rest of the path. The sample of such a path is
one of the paths that the template takes (`spells_takes_fill`), and it has neither query nor fragment. So what
the report lists is declined on some instance of the route, and what is declined on all of them is listed
(`lists_of_instances`).
-/

namespace EndpointGate

namespace Route

/-- The character may be in the name of a parameter. -/
def IsPlainName (name : List Char) : Prop := ∀ c ∈ name, c ≠ '/' ∧ c ≠ '{' ∧ c ≠ '}'

/-- The text is a segment of a route path: it stands for itself, or it is a parameter. -/
inductive IsSegment : List Char → Prop
  | literal {text : List Char} (h : ∀ c ∈ text, c ∉ ['/', '{', '}', ':', '+', '*', '?', '#']) : IsSegment text
  | param {first : Char} {name : List Char} (hfirst : first ≠ '*') (h : IsPlainName (first :: name)) :
    IsSegment ('{' :: (first :: name ++ ['}']))

/-- The text is a route path: segments, each behind a slash. The last one may be a parameter for the rest. -/
inductive IsTemplate : List Char → Prop
  | last {segment : List Char} (h : IsSegment segment) : IsTemplate ('/' :: segment)
  | rest {name : List Char} (h : IsPlainName name) : IsTemplate ('/' :: '{' :: ('*' :: name ++ ['}']))
  | cons {segment path : List Char} (h : IsSegment segment) (hpath : IsTemplate path) :
    IsTemplate ('/' :: (segment ++ path))

/-- A request can have this path, and the path is an instance of the route. -/
structure IsInstance (x : Route) (path : String) : Prop where
  noQuery : '?' ∉ path.toList
  noFragment : '#' ∉ path.toList
  takes : x.Takes path

variable {cs name text segment rest : List Char} {t : Template} {x : Route}

/-! ## Signs -/

theorem signs_append (hopen : '{' ∉ cs) (hclose : '}' ∉ cs) (rest : List Char) :
    Template.signs (cs ++ rest) = cs.map (fun c => (c, false)) ++ Template.signs rest := by
  induction cs with
  | nil => rfl
  | cons c cs ih =>
    rw [List.mem_cons, not_or] at hopen hclose
    rw [List.cons_append, Template.signs, ih hopen.2 hclose.2]
    · rfl
    · rintro ds rfl
      exact absurd rfl hopen.1
    · rintro ds rfl
      exact absurd rfl hclose.1

theorem IsPlainName.not_mem (h : IsPlainName name) : '{' ∉ name ∧ '}' ∉ name :=
  ⟨fun hc => (h _ hc).2.1 rfl, fun hc => (h _ hc).2.2 rfl⟩

theorem IsPlainName.not_mem_signs (h : IsPlainName name) :
    ('}', false) ∉ name.map fun c => (c, false) := by
  have hclose := h.not_mem.2
  simpa [eq_comm] using hclose

/-- Braces around a name are single ones, unless another one follows. -/
theorem signs_braces {first : Char} (h : IsPlainName (first :: name)) (hrest : ∀ c ∈ rest.head?, c = '/') :
    Template.signs ('{' :: (first :: name ++ '}' :: rest)) =
      ('{', false) :: ((first, false) :: name.map (fun c => (c, false)) ++ ('}', false) :: Template.signs rest) := by
  have hfirst : first ≠ '{' := (h first List.mem_cons_self).2.1
  have hname := h.not_mem
  have hclose : Template.signs ('}' :: rest) = ('}', false) :: Template.signs rest := by
    rw [Template.signs]
    · rintro ds ⟨⟩
    · rintro ds - rfl
      exact absurd (hrest '}' rfl) (by decide)
  rw [Template.signs, signs_append hname.1 hname.2, hclose]
  · rfl
  · intro ds _ heq
    exact hfirst (List.cons.inj heq).1
  · rintro ds ⟨⟩

theorem signs_slash (cs : List Char) : Template.signs ('/' :: cs) = ('/', false) :: Template.signs cs := by
  simp [Template.signs]

theorem head?_signs (hrest : ∀ c ∈ rest.head?, c = '/') : ∀ s ∈ (Template.signs rest).head?, s.1 = '/' := by
  cases rest with
  | nil => exact nofun
  | cons c rest =>
    obtain rfl := hrest c rfl
    simp [signs_slash]

/-! ## Filled segments -/

theorem fill_inside (hname : '}' ∉ name) (rest : List Char) :
    fill .braces (name ++ '}' :: rest) = fill .none rest := by
  induction name with
  | nil => simp [fill]
  | cons c name ih =>
    rw [List.mem_cons, not_or] at hname
    simp [fill, Ne.symm hname.1, ih hname.2]

theorem fill_braces (h : IsPlainName name) (rest : List Char) :
    fill .none ('{' :: (name ++ '}' :: rest)) = placeholder ++ fill .none rest := by
  have hclosed : closesBrace (name ++ '}' :: rest) = true := closesBrace_iff.2 ⟨name, rest, rfl, h⟩
  rw [fill, if_pos ⟨rfl, hclosed⟩, fill_inside h.not_mem.2]

theorem fill_append (cs : List Char) (hrest : ∀ c ∈ rest.head?, c = '/') :
    fill .none (cs ++ rest) = fill .none cs ++ fill .none rest := by
  cases rest with
  | nil => simp [fill]
  | cons c rest =>
    obtain rfl := hrest c rfl
    rw [fill_append_slash, fill_slash]

theorem head?_fill (hrest : ∀ c ∈ rest.head?, c = '/') : ∀ c ∈ (fill .none rest).head?, c = '/' := by
  cases rest with
  | nil => exact hrest
  | cons c rest =>
    obtain rfl := hrest c rfl
    simp [fill_slash]

theorem fill_literal (h : ∀ c ∈ text, c ∉ ['/', '{', '}', ':', '+', '*', '?', '#']) :
    fill .none text = text := by
  apply fill_eq_self
  · intro hc
    exact h '{' hc (by simp)
  · intro c hc
    have := h c hc
    simp at this
    simp [IsLiteral, this]

/-- No query and no fragment begins in a filled segment. -/
theorem IsSegment.mem_fill (h : IsSegment segment) : ∀ c ∈ fill .none segment, c ≠ '?' ∧ c ≠ '#' := by
  cases h with
  | literal h =>
    rw [fill_literal h]
    intro c hc
    have := h c hc
    simp at this
    simp [this]
  | param _ h =>
    rw [fill_braces h]
    simp [fill, placeholder]

/-! ## Instances -/

theorem spells_literal_append {ss : List Template.Sign} (hopen : '{' ∉ text) (hclose : '}' ∉ text)
    (h : Template.Spells ss t) :
    Template.Spells (text.map (fun c => (c, false)) ++ ss) (Template.literal text ++ t) := by
  induction text with
  | nil => exact h
  | cons c text ih =>
    rw [List.mem_cons, not_or] at hopen hclose
    exact .char (.inr ⟨Ne.symm hopen.1, Ne.symm hclose.1⟩) (ih hopen.2 hclose.2)

theorem takes_literal_append (text : List Char) (h : Template.Takes t cs) :
    Template.Takes (Template.literal text ++ t) (text ++ cs) := by
  induction text with
  | nil => exact h
  | cons c text ih => exact .char c ih

/-- A segment more in front spells a template more that takes its filled text. -/
theorem IsSegment.spells_takes_fill (h : IsSegment segment) (hrest : ∀ c ∈ rest.head?, c = '/')
    (hs : Template.Spells (Template.signs rest) t) (ht : Template.Takes t (fill .none rest)) :
    ∃ t', Template.Spells (Template.signs (segment ++ rest)) t' ∧
      Template.Takes t' (fill .none (segment ++ rest)) := by
  cases h with
  | literal h =>
    have hopen : '{' ∉ segment := fun hc => h '{' hc (by simp)
    have hclose : '}' ∉ segment := fun hc => h '}' hc (by simp)
    refine ⟨Template.literal segment ++ t, ?_, ?_⟩
    · rw [signs_append hopen hclose]
      exact spells_literal_append hopen hclose hs
    · rw [fill_append segment hrest, fill_literal h]
      exact takes_literal_append segment ht
  | @param first name hfirst h =>
    refine ⟨.param :: t, ?_, ?_⟩
    · rw [List.cons_append, List.append_assoc, List.singleton_append, signs_braces h hrest]
      exact .param hfirst h.not_mem_signs (head?_signs hrest) hs
    · rw [List.cons_append, List.append_assoc, List.singleton_append, fill_braces h]
      exact .param placeholder (by decide) (head?_fill hrest) nofun ht

theorem IsTemplate.head? (h : IsTemplate cs) : ∀ c ∈ cs.head?, c = '/' := by
  cases h <;> simp

theorem spells_takes_slash (h : ∃ t, Template.Spells (Template.signs cs) t ∧ Template.Takes t (fill .none cs)) :
    ∃ t, Template.Spells (Template.signs ('/' :: cs)) t ∧ Template.Takes t (fill .none ('/' :: cs)) := by
  obtain ⟨t, hs, ht⟩ := h
  refine ⟨.char '/' :: t, ?_, ?_⟩
  · rw [signs_slash]
    exact .char (.inr (by decide)) hs
  · rw [fill_slash]
    exact .char '/' ht

/-- A route path spells a template that takes the filled path. -/
theorem IsTemplate.spells_takes_fill (h : IsTemplate cs) :
    ∃ t, Template.Spells (Template.signs cs) t ∧ Template.Takes t (fill .none cs) := by
  induction h with
  | @last segment h =>
    have hnil : ∀ c ∈ ([] : List Char).head?, c = '/' := nofun
    have hsegment := h.spells_takes_fill hnil .nil .nil
    rw [List.append_nil] at hsegment
    exact spells_takes_slash hsegment
  | @rest name h =>
    have hstar : IsPlainName ('*' :: name) := List.forall_mem_cons.2 ⟨by decide, h⟩
    refine spells_takes_slash ⟨[.rest], ?_, ?_⟩
    · have hnil : ∀ c ∈ ([] : List Char).head?, c = '/' := nofun
      rw [signs_braces hstar hnil]
      exact .rest h.not_mem_signs
    · rw [fill_braces hstar]
      exact .rest (by simp [placeholder])
  | @cons segment path h hpath ih =>
    obtain ⟨t, hs, ht⟩ := ih
    exact spells_takes_slash (h.spells_takes_fill hpath.head? hs ht)

theorem IsTemplate.mem_fill (h : IsTemplate cs) : ∀ c ∈ fill .none cs, c ≠ '?' ∧ c ≠ '#' := by
  induction h with
  | last h =>
    rw [fill_slash]
    exact List.forall_mem_cons.2 ⟨by decide, h.mem_fill⟩
  | @rest name h =>
    have hstar : IsPlainName ('*' :: name) := List.forall_mem_cons.2 ⟨by decide, h⟩
    rw [fill_slash, fill_braces hstar]
    simp [fill, placeholder]
  | @cons segment path h hpath ih =>
    rw [fill_slash, fill_append segment hpath.head?]
    exact List.forall_mem_cons.2 ⟨by decide, List.forall_mem_append.2 ⟨h.mem_fill, ih⟩⟩

/-- A route has its own sample for an instance. -/
theorem IsTemplate.isInstance_samplePath (h : IsTemplate x.path.toList) : x.IsInstance x.samplePath where
  noQuery hc := by
    rw [samplePath, toList_sample] at hc
    exact (h.mem_fill '?' hc).1 rfl
  noFragment hc := by
    rw [samplePath, toList_sample] at hc
    exact (h.mem_fill '#' hc).2 rfl
  takes := by
    unfold Takes Spells samplePath
    rw [toList_sample]
    exact h.spells_takes_fill

/-- Instances are what the router matches with the path. -/
theorem matches?_of_takes {path : String} (h : x.Takes path) (ht : Template.ofText? x.path = some t) :
    t.matches? path.toList = true := by
  obtain ⟨t', hs, htakes⟩ := h
  rw [(Template.spells_of_ofText? ht).unique hs]
  exact Template.matches?_iff_takes.2 htakes

end Route

namespace Gate

/-- **Instances.** The sample of a route is an instance of it, which the router matches with its path. So there
is an instance that is declined for each method that the report lists, and a method is listed that is declined
on all of them. -/
theorem lists_of_instances {x : Route} (h : Route.IsTemplate x.path.toList) :
    x.IsInstance x.samplePath ∧
    (∀ t, Template.ofText? x.path = some t → t.matches? x.samplePath.toList = true) ∧
    ∀ (g : Gate) (routes : List Route),
      g.disabledRoutes routes = (g.reported routes).map (fun line => reportLine line.1 line.2) ∧
      (g.Lists routes x.path x.method →
        ∃ path, x.IsInstance path ∧ (g.evaluate x.method path).1.isDeclined = true) ∧
      (x ∈ routes → (∀ path, x.IsInstance path → (g.evaluate x.method path).1.isDeclined = true) →
        g.Lists routes x.path x.method) := by
  have hsample := h.isInstance_samplePath
  have hdeclined (g : Gate) : (g.evaluate x.method x.samplePath).1.isDeclined = true ↔
      g.registry.HasEntryFor (Route.sample x.path) x.method := by
    rw [isDeclined_evaluate, Route.uriPath_eq_self hsample.noQuery hsample.noFragment]
    rfl
  refine ⟨hsample, fun t => Route.matches?_of_takes hsample.takes, fun g routes => ⟨disabledRoutes_eq g routes, ?_, ?_⟩⟩
  · intro hlists
    exact ⟨_, hsample, (hdeclined g).2 (lists_iff.1 hlists).2⟩
  · intro hx hall
    exact lists_iff.2 ⟨hx, (hdeclined g).1 (hall _ hsample)⟩

/-- A route with an empty segment, and marks in the names of its parameters. -/
theorem lists_instances_rest :
    let x : Route := ⟨"GET", "/v1.0/\x7ba:b+\x7d//\x7b*rest?\x7d"⟩
    let g := ofRegistry (Registry.empty.insert "/**" .any)
    Route.IsTemplate x.path.toList ∧ x.samplePath = "/v1.0/param//param" ∧
      (∃ t, Template.ofText? x.path = some t ∧ t.matches? "/v1.0/param//param".toList = true) ∧
      (∃ path, x.IsInstance path ∧ (g.evaluate "GET" path).1.isDeclined = true) ∧
      g.Lists [x] x.path "GET" := by
  intro x g
  have htemplate : Route.IsTemplate x.path.toList := by
    have hpath : x.path.toList = '/' :: ("v1.0".toList ++ '/' :: (('{' :: ('a' :: ":b+".toList ++ ['}'])) ++
        '/' :: ([] ++ '/' :: '{' :: ('*' :: "rest?".toList ++ ['}'])))) := by decide
    rw [hpath]
    exact .cons (.literal (by simp)) (.cons (.param (by decide) (by simp [Route.IsPlainName]))
      (.cons (.literal nofun) (.rest (by simp [Route.IsPlainName]))))
  have hsample : x.samplePath = "/v1.0/param//param" := by decide +kernel
  have hread : Template.ofText? x.path =
      some [.char '/', .char 'v', .char '1', .char '.', .char '0', .char '/', .param, .char '/', .char '/', .rest] := by
    decide +kernel
  obtain ⟨-, hmatches, hreport⟩ := lists_of_instances htemplate
  obtain ⟨-, hdeclined, hlisted⟩ := hreport g [x]
  have hall : ∀ path, x.IsInstance path → (g.evaluate "GET" path).1.isDeclined = true := by
    intro path hpath
    have hlead : Pattern.LeadsWithSlash path := by
      obtain ⟨t, hs, ht⟩ := hpath.takes
      rw [hs.unique (Template.spells_of_ofText? hread)] at ht
      generalize hcs : path.toList = cs at ht
      cases ht
      simp [Pattern.LeadsWithSlash, hcs]
    have hparts : Pattern.slashParts "/**" = [['*', '*']] := by decide +kernel
    have hdescribes : Pattern.Describes "/**" path := by
      refine ⟨iff_of_true (by simp [Pattern.LeadsWithSlash]) hlead, ?_, .inl (by rw [hparts]; rfl)⟩
      rw [hparts, ← List.append_nil (Pattern.slashParts path)]
      exact .any _ .nil
    rw [isDeclined_evaluate, Route.uriPath_eq_self hpath.noQuery hpath.noFragment]
    exact hasEntryFor_insert_any.2 ((Pattern.matches?_compile _ _).2 hdescribes)
  have hlists := hlisted (List.mem_singleton_self x) hall
  exact ⟨htemplate, hsample, ⟨_, hread, hsample ▸ hmatches _ hread⟩, hdeclined hlists, hlists⟩

end Gate

end EndpointGate
