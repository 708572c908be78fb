import EndpointGate.Proofs.Router.Table
import EndpointGate.Router.Basic

/-!
# Putting a router together

The record of a router and its table are kept up side by side. `Router.Agrees` says that they tell the same:
the table is well-formed and its handlers are those of the recorded routes. It is an `Invariant`, kept by
each of the ways to go on with a router, and so it holds of every router that steps put together
(`Agrees.of_ofSteps?`).
-/

namespace EndpointGate

/-- The handler that a route registers. -/
def Route.handler (r : Route) : String × Service := (r.path, .ofMethod r.method)

/-- The route has no parameters: it stands for this path alone. -/
def Route.StandsFor (r : Route) (path : String) : Prop :=
  Template.ofText? r.path = some (.literal path.toList)

theorem Route.standsFor_of_not_mem {r : Route} (hopen : '\x7b' ∉ r.path.toList)
    (hclose : '\x7d' ∉ r.path.toList) : r.StandsFor r.path :=
  Template.ofText?_of_not_mem hopen hclose

mutual

/-- The methods that a step registers routes for. -/
def Step.methods : Step → List String
  | .route method _ => [method]
  | .nest _ steps => methodsAll steps
  | .merge steps => methodsAll steps

/-- The methods that steps register routes for. -/
def Step.methodsAll : List Step → List String
  | [] => []
  | s :: steps => s.methods ++ methodsAll steps

end

theorem Service.ofMethod_of_mem {method : String} (h : method ∈ Http.standardMethods) :
    ofMethod method = .method method := if_pos h

theorem Service.eq_of_ofMethod {method name : String} (h : ofMethod method = .method name) :
    method = name := by
  unfold ofMethod at h
  split at h
  · exact Service.method.inj h
  · exact absurd h nofun

namespace Router

/-- The handlers in the table are those of the recorded routes. -/
structure Agrees (r : Router) : Prop where
  wellFormed : r.table.WellFormed
  handlers : r.table.handlers.Perm (r.routes.map Route.handler)

/-- The property holds of the router without routes, and what is done to routers with the property keeps
it, as long as only allowed methods are registered. -/
structure Invariant (allowed : String → Prop) (P : Router → Prop) : Prop where
  empty : P empty
  route : ∀ {r r' method path}, allowed method → P r → r.route? method path = some r' → P r'
  nest : ∀ {r r' base inner}, P r → P inner → r.nest? base inner = some r' → P r'
  merge : ∀ {r r' other}, P r → P other → r.merge? other = some r' → P r'

variable {r r' inner other : Router} {steps : List Step} {method path base : String}
  {allowed : String → Prop} {P : Router → Prop}

/-! ## Runs -/

mutual

theorem Invariant.take? {r r' : Router} (hP : Invariant allowed P) (s : Step)
    (hs : ∀ m ∈ s.methods, allowed m) (hr : P r) (h : r.take? s = some r') : P r' := by
  cases s with
  | route method path =>
    rw [Router.take?] at h
    exact hP.route (hs method List.mem_cons_self) hr h
  | nest base steps =>
    rw [Router.take?] at h
    obtain ⟨inner, hinner, h⟩ := Option.bind_eq_some_iff.1 h
    exact hP.nest hr (hP.run? steps hs hP.empty hinner) h
  | merge steps =>
    rw [Router.take?] at h
    obtain ⟨other, hother, h⟩ := Option.bind_eq_some_iff.1 h
    exact hP.merge hr (hP.run? steps hs hP.empty hother) h

theorem Invariant.run? {r r' : Router} (hP : Invariant allowed P) (steps : List Step)
    (hs : ∀ m ∈ Step.methodsAll steps, allowed m) (hr : P r) (h : r.run? steps = some r') : P r' := by
  cases steps with
  | nil =>
    rw [Router.run?] at h
    exact Option.some.inj h ▸ hr
  | cons s steps =>
    rw [Router.run?] at h
    obtain ⟨u, hu, h⟩ := Option.bind_eq_some_iff.1 h
    have hs := List.forall_mem_append.1 hs
    exact hP.run? steps hs.2 (hP.take? s hs.1 hr hu) h

end

theorem Invariant.ofSteps? (hP : Invariant allowed P) (hs : ∀ m ∈ Step.methodsAll steps, allowed m)
    (h : ofSteps? steps = some r) : P r :=
  hP.run? steps hs hP.empty h

/-! ## One step -/

theorem route?_cases (h : r.route? method path = some r') :
    Http.isMethod method = true ∧ ∃ table, r.table.add? path [.ofMethod method] = some table ∧
      r' = ⟨r.routes ++ [⟨method, path⟩], table⟩ := by
  obtain ⟨hm, h⟩ := Option.ite_none_right_eq_some.1 h
  obtain ⟨table, ht, h⟩ := Option.map_eq_some_iff.1 h
  exact ⟨hm, table, ht, h.symm⟩

theorem nest?_cases (h : r.nest? base inner = some r') :
    isBasePath (trimSlashes base) = true ∧
      ∃ table, r.table.addAll? (under (trimSlashes base)) inner.table = some table ∧
        r' = ⟨r.routes ++ inner.routes.map fun x => ⟨x.method, under (trimSlashes base) x.path⟩, table⟩ := by
  obtain ⟨hb, h⟩ := Option.ite_none_right_eq_some.1 h
  obtain ⟨table, ht, h⟩ := Option.map_eq_some_iff.1 h
  exact ⟨hb, table, ht, h.symm⟩

theorem merge?_cases (h : r.merge? other = some r') :
    ∃ table, r.table.addAll? id other.table = some table ∧ r' = ⟨r.routes ++ other.routes, table⟩ := by
  obtain ⟨table, ht, h⟩ := Option.map_eq_some_iff.1 h
  exact ⟨table, ht, h.symm⟩

/-! ## The record and the table -/

/-- Routes with other paths have the handlers with those paths. -/
theorem Agrees.addAll? {place : String → String} {table : Table} (hr : r.Agrees) (ho : other.Agrees)
    (h : r.table.addAll? place other.table = some table) :
    Agrees ⟨r.routes ++ other.routes.map fun x => ⟨x.method, place x.path⟩, table⟩ where
  wellFormed := hr.wellFormed.addAll? ho.wellFormed h
  handlers := by
    have hplaced := ho.handlers.map fun x => (place x.1, x.2)
    rw [List.map_map] at hplaced
    rw [List.map_append, List.map_map]
    exact (Table.handlers_addAll? h).trans (hr.handlers.append hplaced)

theorem agrees_invariant : Invariant (fun _ => True) Agrees where
  empty := ⟨Table.wellFormed_nil, .nil⟩
  route _ hr h := by
    obtain ⟨-, table, ht, rfl⟩ := route?_cases h
    refine ⟨hr.wellFormed.add? (List.nodup_singleton _) ht, ?_⟩
    rw [List.map_append]
    exact (Table.handlers_add? ht).trans (hr.handlers.append_right _)
  nest hr hinner h := by
    obtain ⟨-, table, ht, rfl⟩ := nest?_cases h
    exact hr.addAll? hinner ht
  merge {r r' other} hr hother h := by
    obtain ⟨table, ht, rfl⟩ := merge?_cases h
    have := hr.addAll? hother ht
    rwa [show (fun x : Route => (⟨x.method, id x.path⟩ : Route)) = id from rfl, List.map_id] at this

/-- The record of a router that steps put together agrees with its table. -/
theorem Agrees.of_ofSteps? (h : ofSteps? steps = some r) : r.Agrees :=
  agrees_invariant.ofSteps? (fun _ _ => trivial) h

theorem methods_invariant (allowed : String → Prop) :
    Invariant allowed fun r => ∀ x ∈ r.routes, allowed x.method where
  empty := nofun
  route ha hr h := by
    obtain ⟨-, table, -, rfl⟩ := route?_cases h
    exact List.forall_mem_append.2 ⟨hr, List.forall_mem_singleton.2 ha⟩
  nest hr hinner h := by
    obtain ⟨-, table, -, rfl⟩ := nest?_cases h
    refine List.forall_mem_append.2 ⟨hr, ?_⟩
    rw [List.forall_mem_map]
    exact hinner
  merge hr hother h := by
    obtain ⟨table, -, rfl⟩ := merge?_cases h
    exact List.forall_mem_append.2 ⟨hr, hother⟩

/-! ## What the record tells -/

/-- No two routes register one handler. -/
theorem Agrees.nodup (h : r.Agrees) : (r.routes.map Route.handler).Nodup :=
  h.handlers.nodup_iff.1 h.wellFormed.nodup_handlers

/-- A route has the endpoint of its path, which has its handler. -/
theorem Agrees.exists_endpoint (h : r.Agrees) {x : Route} (hx : x ∈ r.routes) :
    ∃ e ∈ r.table, e.path = x.path ∧ .ofMethod x.method ∈ e.services :=
  Table.mem_handlers.1 (h.handlers.mem_iff.2 (List.mem_map_of_mem hx))

/-- An endpoint has handlers of routes alone. -/
theorem Agrees.exists_route (h : r.Agrees) {e : Endpoint} {s : Service} (he : e ∈ r.table)
    (hs : s ∈ e.services) : ∃ x ∈ r.routes, x.path = e.path ∧ .ofMethod x.method = s := by
  have hmem := h.handlers.mem_iff.1 (Table.mem_handlers.2 ⟨e, he, rfl, hs⟩)
  obtain ⟨x, hx, hh⟩ := List.mem_map.1 hmem
  obtain ⟨hpath, hservice⟩ := Prod.mk.inj hh
  exact ⟨x, hx, hpath, hservice⟩

/-- An endpoint serves a standard method by itself if there is a route for it. -/
theorem Agrees.method_mem_iff (h : r.Agrees) {e : Endpoint} (he : e ∈ r.table)
    (hmethod : method ∈ Http.standardMethods) :
    .method method ∈ e.services ↔ ⟨method, e.path⟩ ∈ r.routes := by
  constructor
  · intro hs
    obtain ⟨⟨m, p⟩, hx, rfl, hm⟩ := h.exists_route he hs
    obtain rfl := Service.eq_of_ofMethod hm
    exact hx
  · intro hx
    obtain ⟨f, hf, hpath, hs⟩ := h.exists_endpoint hx
    obtain rfl := h.wellFormed.eq_of_path_eq hf he hpath
    rwa [Service.ofMethod_of_mem hmethod] at hs

/-- A route without parameters has the requests on its path with its method, and those with `HEAD` if it is
for `GET` and no route with the path is for `HEAD`. -/
theorem Agrees.handlerFor?_eq_iff (h : r.Agrees) {x : Route} (hx : x ∈ r.routes)
    (hmethod : x.method ∈ Http.standardMethods)
    (hpath : x.StandsFor path) {q : Http.Request} :
    r.table.handlerFor? q = some x.handler ↔
      q.target.path = path ∧
        (q.method = x.method ∨
          (q.method = "HEAD" ∧ x.method = "GET" ∧ ⟨"HEAD", x.path⟩ ∉ r.routes)) := by
  obtain ⟨e, he, hep, hes⟩ := h.exists_endpoint hx
  have htemplate : e.template = .literal path.toList := by
    have := h.wellFormed.template e he
    rw [hep, show Template.ofText? x.path = _ from hpath] at this
    exact (Option.some.inj this).symm
  rw [Service.ofMethod_of_mem hmethod] at hes
  have hhead := h.method_mem_iff he (by decide : "HEAD" ∈ Http.standardMethods)
  unfold Route.handler
  rw [Service.ofMethod_of_mem hmethod, ← hep, h.wellFormed.handlerFor?_eq_iff he,
    h.wellFormed.lookup_literal_iff he htemplate, Endpoint.serviceFor?_eq_method_iff, hhead,
    and_iff_right hes]

end Router

end EndpointGate
