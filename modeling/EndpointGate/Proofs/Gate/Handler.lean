import EndpointGate.Proofs.Gate.Transparency
import EndpointGate.Proofs.Router.Building

/-!
# Handlers behind a gate

Each request that is served is answered by the handler of one route (`existsUnique_answeredBy`). The gate
goes by the path that a request is routed by, so that a request gets past it to the handler of a
route only if the gate does not decline the route. There is one exception: the handler of a `GET` route has
the `HEAD` requests too, and `HEAD` is another method to the gate (`answeredBy_iff_of_declined`).
-/

namespace EndpointGate

/-- The methods of the registrations `get`, `post`, `put`, `patch` and `delete`. -/
def Step.verbs : List String := ["GET", "POST", "PUT", "PATCH", "DELETE"]

/-! ## Declined paths -/

theorem uriPath_uriPath (uri : String) : uriPath (uriPath uri) = uriPath uri := by
  rw [uriPath, uriPath, String.toList_ofList, List.takeWhile_idem]

/-- The path of a request has no query. -/
theorem Http.uriPath_path {uri : String} {t : Target} (h : Target.ofText? uri = some t) :
    uriPath t.path = t.path := by
  obtain ⟨-, hpath, -⟩ | ⟨-, hpath⟩ := uriPath_resource h
  · rw [hpath]
    rfl
  · rw [← hpath, uriPath_uriPath]

namespace GatedRouter

/-- The request is answered by the handler of the route. -/
structure AnsweredBy (id : String) (g : GatedRouter) (r : Http.Request) (x : Route) : Prop where
  serves : g.Serves id r
  handler : g.router.table.handlerFor? r = some x.handler

/-- The router after requests one after another. -/
def afterAll (g : GatedRouter) (rs : List Http.Request) : GatedRouter := rs.foldl after g

variable {id : String} {g : GatedRouter} {r : Http.Request} {x : Route}

/-! ## Served requests -/

/-- A request is served if the gate lets it pass and there is a handler for it. -/
theorem serves_iff :
    g.Serves id r ↔ g.decision r = .allow ∧ (g.router.table.handlerFor? r).isSome = true := by
  rw [← Table.respond_eq_served_iff]
  constructor
  · intro hs
    cases hd : g.decision r with
    | decline d => exact absurd hs (declines_iff_decision.2 ⟨d, hd⟩).not_serves
    | allow =>
      have hstatus := congrArg Http.Response.status hs
      unfold answer at hstatus
      rw [status_sent, status_sent, response_of_allow hd] at hstatus
      exact ⟨rfl, Table.respond_eq_served_of_status hstatus⟩
  · rintro ⟨hd, hs⟩
    exact congrArg (g.sent r) ((response_of_allow hd).trans hs)

theorem answeredBy_iff :
    g.AnsweredBy id r x ↔ g.decision r = .allow ∧ g.router.table.handlerFor? r = some x.handler := by
  constructor
  · exact fun h => ⟨(serves_iff.1 h.serves).1, h.handler⟩
  · exact fun h => ⟨serves_iff.2 ⟨h.1, Option.isSome_of_mem h.2⟩, h.2⟩

/-- What is served is answered by the handler of one of the routes. -/
theorem existsUnique_answeredBy (h : g.router.Agrees) (hs : g.Serves id r) :
    ∃! x, x ∈ g.router.routes ∧ g.AnsweredBy id r x := by
  obtain ⟨handler, hr⟩ := Option.isSome_iff_exists.1 (serves_iff.1 hs).2
  have hmem := h.handlers.mem_iff.1 (Table.handlerFor?_mem hr)
  obtain ⟨x, hx, rfl⟩ := List.mem_map.1 hmem
  refine ⟨x, ⟨hx, hs, hr⟩, ?_⟩
  rintro y ⟨hy, -, hr'⟩
  exact List.inj_on_of_nodup_map h.nodup hy hx (Option.some.inj (hr'.symm.trans hr))

theorem answeredBy_afterAll (rs : List Http.Request) :
    (g.afterAll rs).AnsweredBy id r x ↔ g.AnsweredBy id r x := by
  induction rs generalizing g with
  | nil => exact Iff.rfl
  | cons s rs ih =>
    have hs : (g.after s).AnsweredBy id r x ↔ g.AnsweredBy id r x := by
      rw [answeredBy_iff, answeredBy_iff, decision_after]
      rfl
    exact ih.trans hs

/-- The gate lets a request pass if it does not decline its path. -/
theorem decision_eq_allow_iff {router : Router} {gate : Gate} {method uri : String}
    (hr : Http.Request.ofText? method uri = some r) (ho : ¬Http.OmitsPath uri) :
    decision ⟨router, some gate⟩ r = .allow ↔
      (gate.evaluate r.method r.target.path).1.isDeclined = false := by
  obtain ⟨-, hr⟩ := Option.ite_none_right_eq_some.1 hr
  obtain ⟨t, ht, rfl⟩ := Option.map_eq_some_iff.1 hr
  rw [← Decision.isDeclined_eq_false_iff]
  show (gate.registry.judge method t.resource).isDeclined = false ↔
    (gate.registry.judge method t.path).isDeclined = false
  rw [Registry.isDeclined_judge, Registry.isDeclined_judge, Http.uriPath_of_not_omitsPath ho ht,
    Http.uriPath_path ht]

/-- **Declined routes.** Of a route without parameters that the gate declines the handler answers no
requests, whatever was asked before, but the `HEAD` requests on its path if it is for `GET` and the gate
does not decline them. -/
theorem answeredBy_iff_of_declined {steps : List Step} {router : Router} (gate : Gate) {path : String}
    (hsteps : Router.ofSteps? steps = some router)
    (hverbs : ∀ m ∈ Step.methodsAll steps, m ∈ Step.verbs) (hx : x ∈ router.routes)
    (hpath : x.StandsFor path)
    (hdeclined : (gate.evaluate x.method path).1.isDeclined = true) (rs : List Http.Request) (id : String)
    {method uri : String} (hr : Http.Request.ofText? method uri = some r) (ho : ¬Http.OmitsPath uri) :
    (afterAll ⟨router, some gate⟩ rs).AnsweredBy id r x ↔
      x.method = "GET" ∧ r.method = "HEAD" ∧ r.target.path = path ∧
        (gate.evaluate "HEAD" path).1.isDeclined = false := by
  have hmethods := (Router.methods_invariant (· ∈ Step.verbs)).ofSteps? hverbs hsteps
  have hstandard : x.method ∈ Http.standardMethods :=
    (by decide : Step.verbs ⊆ Http.standardMethods) (hmethods x hx)
  have hhead : ⟨"HEAD", x.path⟩ ∉ router.routes := fun h =>
    absurd (hmethods _ h) (by decide : "HEAD" ∉ Step.verbs)
  rw [answeredBy_afterAll, answeredBy_iff, decision_eq_allow_iff hr ho,
    (Router.Agrees.of_ofSteps? hsteps).handlerFor?_eq_iff hx hstandard hpath]
  constructor
  · rintro ⟨hallow, rfl, hm | ⟨hm, hget, -⟩⟩
    · -- The gate declines just this.
      rw [hm, hdeclined] at hallow
      exact absurd hallow nofun
    · rw [hm] at hallow
      exact ⟨hget, hm, rfl, hallow⟩
  · rintro ⟨hget, hm, rfl, hallow⟩
    rw [hm]
    exact ⟨hallow, rfl, .inr ⟨rfl, hget, hhead⟩⟩

/-- The root of a nested router, declined for every method: its handler does not get a `HEAD` request. -/
theorem not_answeredBy_nested_root :
    Router.ofSteps? [.nest "/a/" [.route "GET" "/"]] =
        some ⟨[⟨"GET", "/a"⟩], [⟨"/a", [.char '/', .char 'a'], [.method "GET"]⟩]⟩ ∧
      Http.Request.ofText? "HEAD" "http://h/a?q" = some ⟨"HEAD", "/a", "/a?q"⟩ ∧
      ¬(afterAll ⟨⟨[⟨"GET", "/a"⟩], [⟨"/a", [.char '/', .char 'a'], [.method "GET"]⟩]⟩,
          some (.ofRegistry (Registry.empty.insert "/a" .any))⟩ [⟨"GET", "/a", "/a"⟩]).AnsweredBy "1"
        ⟨"HEAD", "/a", "/a?q"⟩ ⟨"GET", "/a"⟩ := by
  have hsteps : Router.ofSteps? [.nest "/a/" [.route "GET" "/"]] =
      some ⟨[⟨"GET", "/a"⟩], [⟨"/a", [.char '/', .char 'a'], [.method "GET"]⟩]⟩ := by decide
  have ht : Http.Target.ofText? "http://h/a?q" = some ⟨"/a", "/a?q"⟩ := by decide
  have hr : Http.Request.ofText? "HEAD" "http://h/a?q" = some ⟨"HEAD", "/a", "/a?q"⟩ := by decide
  have ho : ¬Http.OmitsPath "http://h/a?q" := by
    intro ho
    obtain ⟨query, hquery⟩ := Http.readResource?_of_omitsPath ho ht
    exact absurd (Http.uriPath_of_query hquery).1 (by decide : "/a" ≠ "/")
  refine ⟨hsteps, hr, fun h => ?_⟩
  have hhead := (answeredBy_iff_of_declined (.ofRegistry (Registry.empty.insert "/a" .any)) hsteps
    (by decide) List.mem_cons_self (Route.standsFor_of_not_mem (by decide) (by decide)) (by decide)
    [⟨"GET", "/a", "/a"⟩] "1" hr ho).1 h
  exact absurd hhead.2.2.2 (by decide)

/-- Two ways past a gate to the handler of a declined route: a `HEAD` request where `GET` alone is declined,
and a request for a path with a brace where the path declined is the one with the brace doubled. -/
theorem answeredBy_of_declined :
    (Router.ofSteps? [.route "GET" "/a"] =
        some ⟨[⟨"GET", "/a"⟩], [⟨"/a", [.char '/', .char 'a'], [.method "GET"]⟩]⟩ ∧
      ((Gate.ofRegistry (Registry.empty.insert "/a" (.only ["GET"]))).evaluate "GET" "/a").1.isDeclined =
        true ∧
      Http.Request.ofText? "HEAD" "/a" = some ⟨"HEAD", "/a", "/a"⟩ ∧
      AnsweredBy "1"
        ⟨⟨[⟨"GET", "/a"⟩], [⟨"/a", [.char '/', .char 'a'], [.method "GET"]⟩]⟩,
          some (.ofRegistry (Registry.empty.insert "/a" (.only ["GET"])))⟩
        ⟨"HEAD", "/a", "/a"⟩ ⟨"GET", "/a"⟩) ∧
    (Router.ofSteps? [.route "GET" "/\x7b\x7b"] =
        some ⟨[⟨"GET", "/\x7b\x7b"⟩],
          [⟨"/\x7b\x7b", [.char '/', .char '\x7b'], [.method "GET"]⟩]⟩ ∧
      ((Gate.ofRegistry (Registry.empty.insert "/??" .any)).evaluate "GET" "/\x7b\x7b").1.isDeclined =
        true ∧
      Http.Request.ofText? "GET" "/\x7b" = some ⟨"GET", "/\x7b", "/\x7b"⟩ ∧
      AnsweredBy "1"
        ⟨⟨[⟨"GET", "/\x7b\x7b"⟩],
            [⟨"/\x7b\x7b", [.char '/', .char '\x7b'], [.method "GET"]⟩]⟩,
          some (.ofRegistry (Registry.empty.insert "/??" .any))⟩
        ⟨"GET", "/\x7b", "/\x7b"⟩ ⟨"GET", "/\x7b\x7b"⟩) := by
  refine ⟨⟨?_, ?_, ?_, answeredBy_iff.2 ⟨?_, ?_⟩⟩, ⟨?_, ?_, ?_, answeredBy_iff.2 ⟨?_, ?_⟩⟩⟩ <;> decide

end GatedRouter

end EndpointGate
