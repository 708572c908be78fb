import EndpointGate.Proofs.Gate.Handler
import EndpointGate.Proofs.Router.Instance

/-!
# Recorded routes and answers

Without a gate a router answers just what its record tells: the path of a recorded route without parameters
is served for its method, and what is served is an instance of a recorded route (`answers_by_record`).
-/

namespace EndpointGate

/-- The path of the route spells the template. -/
def Route.Spells (x : Route) (t : Template) : Prop := t.Spells (Template.signs x.path.toList)

/-- The path is an instance of the route. -/
def Route.Takes (x : Route) (path : String) : Prop := ∃ t, x.Spells t ∧ t.Takes path.toList

variable {router : Router} {x : Route} {id : String} {r : Http.Request}

theorem Router.Agrees.ofText?_eq (h : router.Agrees) (hx : x ∈ router.routes) {t : Template}
    (ht : x.Spells t) : Template.ofText? x.path = some t := by
  obtain ⟨e, he, hep, -⟩ := h.exists_endpoint hx
  have hread := h.wellFormed.template e he
  rw [hep] at hread
  rw [hread, ht.unique (Template.spells_of_ofText? hread)]

namespace GatedRouter

theorem status_answer_ungated :
    (answer id ⟨router, none⟩ r).1.status = 200 ↔ (router.table.handlerFor? r).isSome = true := by
  have hstatus : (answer id ⟨router, none⟩ r).1.status = (router.table.respond r).status := by
    unfold answer
    rw [status_sent, response_of_allow rfl]
  rw [hstatus, ← Table.respond_eq_served_iff]
  constructor
  · exact Table.respond_eq_served_of_status
  · intro h
    rw [h]
    rfl

theorem status_of_recorded (h : router.Agrees) (hx : x ∈ router.routes)
    (hmethod : x.method ∈ Http.standardMethods) (hr : r.method = x.method)
    (hpath : x.Spells (.literal r.target.path.toList)) :
    (answer id ⟨router, none⟩ r).1.status = 200 := by
  have hhandler := (h.handlerFor?_eq_iff hx hmethod (h.ofText?_eq hx hpath)).2 ⟨rfl, .inl hr⟩
  rw [status_answer_ungated, hhandler]
  rfl

/-- What is served has a handler in the table, and the handler is that of a route. -/
theorem exists_recorded_of_status (h : router.Agrees)
    (hmethods : ∀ x ∈ router.routes, x.method ∈ Http.standardMethods)
    (hstatus : (answer id ⟨router, none⟩ r).1.status = 200) :
    ∃ x ∈ router.routes, x.Takes r.target.path ∧
      (x.method = r.method ∨ x.method = "GET" ∧ r.method = "HEAD") := by
  obtain ⟨handler, hhandler⟩ := Option.isSome_iff_exists.1 (status_answer_ungated.1 hstatus)
  obtain ⟨e, he, hhandler⟩ := Option.bind_eq_some_iff.1 hhandler
  obtain ⟨s, hs, -⟩ := Option.map_eq_some_iff.1 hhandler
  obtain ⟨hmem, hm⟩ := Table.mem_of_lookup he
  obtain ⟨x, hx, hpath, rfl⟩ := h.exists_route hmem (e.serviceFor?_mem hs)
  have hread := h.wellFormed.template e hmem
  rw [← hpath] at hread
  refine ⟨x, hx, ⟨e.template, Template.spells_of_ofText? hread, Template.matches?_iff_takes.1 hm⟩, ?_⟩
  rw [Service.ofMethod_of_mem (hmethods x hx)] at hs
  rcases (Endpoint.serviceFor?_eq_method_iff.1 hs).2 with hr | ⟨hhead, hget, -⟩
  · exact .inl hr.symm
  · exact .inr ⟨hget, hhead⟩

/-- **The record.** Of a router that steps put together, and no gate, a request on the path of a recorded
route without parameters is served if it has the method of the route. What is served is an instance of a
recorded route, whose method is that of the request, or `GET` for a `HEAD` request. -/
theorem answers_by_record {steps : List Step} (hsteps : Router.ofSteps? steps = some router)
    (hverbs : ∀ m ∈ Step.methodsAll steps, m ∈ Step.verbs) (id : String) :
    (∀ x ∈ router.routes, ∀ r : Http.Request, r.method = x.method →
      x.Spells (.literal r.target.path.toList) → (answer id ⟨router, none⟩ r).1.status = 200) ∧
    ∀ r : Http.Request, (answer id ⟨router, none⟩ r).1.status = 200 →
      ∃ x ∈ router.routes, x.Takes r.target.path ∧
        (x.method = r.method ∨ x.method = "GET" ∧ r.method = "HEAD") := by
  have hagrees := Router.Agrees.of_ofSteps? hsteps
  have hmethods : ∀ x ∈ router.routes, x.method ∈ Http.standardMethods := fun x hx =>
    (by decide : Step.verbs ⊆ Http.standardMethods)
      ((Router.methods_invariant (· ∈ Step.verbs)).ofSteps? hverbs hsteps x hx)
  refine ⟨?_, ?_⟩
  · intro x hx r hr hpath
    exact status_of_recorded hagrees hx (hmethods x hx) hr hpath
  · intro r hstatus
    exact exists_recorded_of_status hagrees hmethods hstatus

/-- Routes nested twice: the path of one is served, and what is served is an instance of the other. -/
theorem answers_nested_by_record :
    ∃ router, Router.ofSteps? [.nest "/a/" [.route "GET" "/", .nest "/b" [.route "PUT" "/\x7bx\x7d"]]] =
        some router ∧
      (answer "1" ⟨router, none⟩ ⟨"GET", "/a", "/a?q"⟩).1.status = 200 ∧
      ∃ x ∈ router.routes, x.Takes "/a/b/7" ∧ (x.method = "PUT" ∨ x.method = "GET" ∧ "PUT" = "HEAD") := by
  let router : Router := ⟨[⟨"GET", "/a"⟩, ⟨"PUT", "/a/b/\x7bx\x7d"⟩],
    [⟨"/a", .literal "/a".toList, [.method "GET"]⟩,
      ⟨"/a/b/\x7bx\x7d", Template.literal "/a/b/".toList ++ [.param], [.method "PUT"]⟩]⟩
  have hsteps : Router.ofSteps?
      [.nest "/a/" [.route "GET" "/", .nest "/b" [.route "PUT" "/\x7bx\x7d"]]] = some router := by
    decide +kernel
  obtain ⟨hrecorded, hserved⟩ := answers_by_record hsteps (by decide) "1"
  refine ⟨router, hsteps, ?_, ?_⟩
  · exact hrecorded ⟨"GET", "/a"⟩ List.mem_cons_self _ rfl
      (Template.spells_literal (by decide) (by decide))
  · exact hserved ⟨"PUT", "/a/b/7", "/a/b/7"⟩ (by decide +kernel)

/-- A segment without characters is served in front of a slash, and a path with doubled braces is not. -/
theorem serves_empty_segment :
    ∃ router, Router.ofSteps? [.route "GET" "/\x7bx\x7d/\x7by\x7d", .route "GET" "/\x7b\x7b"] =
        some router ∧
      router.routes = [⟨"GET", "/\x7bx\x7d/\x7by\x7d"⟩, ⟨"GET", "/\x7b\x7b"⟩] ∧
      Http.Request.ofText? "GET" "//b" = some ⟨"GET", "//b", "//b"⟩ ∧
      (answer "1" ⟨router, none⟩ ⟨"GET", "//b", "//b"⟩).1.status = 200 ∧
      (∀ v w : List Char, "//b".toList = '/' :: (v ++ '/' :: w) → v = [] ∨ '/' ∈ v) ∧
      Http.Request.ofText? "GET" "/\x7b\x7b" = some ⟨"GET", "/\x7b\x7b", "/\x7b\x7b"⟩ ∧
      (answer "1" ⟨router, none⟩ ⟨"GET", "/\x7b\x7b", "/\x7b\x7b"⟩).1.status = 404 := by
  refine ⟨⟨[⟨"GET", "/\x7bx\x7d/\x7by\x7d"⟩, ⟨"GET", "/\x7b\x7b"⟩],
    [⟨"/\x7bx\x7d/\x7by\x7d", [.char '/', .param, .char '/', .param], [.method "GET"]⟩,
      ⟨"/\x7b\x7b", [.char '/', .char '\x7b'], [.method "GET"]⟩]⟩,
    by decide +kernel, rfl, by decide +kernel, by decide +kernel, ?_, by decide +kernel, by decide +kernel⟩
  intro v w h
  cases v with
  | nil => exact .inl rfl
  | cons c v =>
    have hslash : '/' = c := (List.cons.inj (List.cons.inj h).2).1
    exact .inr (hslash ▸ List.mem_cons_self)

end GatedRouter

end EndpointGate
