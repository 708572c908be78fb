import EndpointGate.Proofs.Router.Template
import EndpointGate.Router.Table
import Mathlib.Data.List.Nodup
import Mathlib.Data.List.Perm.Basic

/-!
# The handlers of a table

What a table does is a matter of its handlers: adding a path adds its handlers and nothing else
(`handlers_add?`), and a request is served if one of them is found for it (`respond_eq_served_iff`).

In a well-formed table every path has one endpoint, and every endpoint the template of its path. Adding
paths keeps a table well-formed (`WellFormed.add?`), and a template of characters alone is found by its path,
whatever else matches (`WellFormed.lookup_literal`).
-/

namespace EndpointGate

namespace Endpoint

variable {e : Endpoint} {method : String}

/-- The handler of an endpoint that a method gets. -/
def serviceFor? (e : Endpoint) (method : String) : Option Service :=
  if .method method ∈ e.services then some (.method method)
  else if method = "HEAD" ∧ .method "GET" ∈ e.services then some (.method "GET")
  else if .every ∈ e.services then some .every
  else none

theorem isSome_serviceFor? (e : Endpoint) (method : String) :
    (e.serviceFor? method).isSome = e.serves method := by
  unfold serviceFor? serves
  split
  · simp [*]
  split
  · simp [*]
  split
  · simp [*]
  · simp_all

theorem serviceFor?_mem {s : Service} (h : e.serviceFor? method = some s) : s ∈ e.services := by
  unfold serviceFor? at h
  split at h
  · next hs => exact Option.some.inj h ▸ hs
  split at h
  · next hs => exact Option.some.inj h ▸ hs.2
  split at h
  · next hs => exact Option.some.inj h ▸ hs
  · exact absurd h nofun

/-- The handler for one method gets this method, and the one for `GET` gets `HEAD` where there is none for
it. -/
theorem serviceFor?_eq_method_iff {name : String} :
    e.serviceFor? method = some (.method name) ↔
      .method name ∈ e.services ∧
        (method = name ∨ (method = "HEAD" ∧ name = "GET" ∧ .method "HEAD" ∉ e.services)) := by
  unfold serviceFor?
  split
  · -- The method has a handler of its own.
    next hs =>
    constructor
    · intro h
      obtain rfl := Service.method.inj (Option.some.inj h)
      exact ⟨hs, .inl rfl⟩
    · rintro ⟨-, rfl | ⟨rfl, -, hnone⟩⟩
      · rfl
      · exact absurd hs hnone
  · next hs =>
    split
    · -- It is `HEAD`, which falls to the handler for `GET`.
      next hget =>
      obtain ⟨rfl, hget⟩ := hget
      constructor
      · intro h
        obtain rfl := Service.method.inj (Option.some.inj h)
        exact ⟨hget, .inr ⟨rfl, rfl, hs⟩⟩
      · rintro ⟨hname, rfl | ⟨-, rfl, -⟩⟩
        · exact absurd hname hs
        · rfl
    · next hget =>
      constructor
      · intro h
        split at h <;> cases h
      · rintro ⟨hname, rfl | ⟨rfl, rfl, -⟩⟩
        · exact absurd hname hs
        · exact absurd ⟨rfl, hname⟩ hget

end Endpoint

namespace Table

/-- The handlers: what each of them serves, with its path. -/
def handlers (t : Table) : List (String × Service) :=
  t.flatMap fun e => e.services.map fun s => (e.path, s)

/-- The handler that a request gets. -/
def handlerFor? (t : Table) (r : Http.Request) : Option (String × Service) :=
  (t.lookup r.target.path).bind fun e => (e.serviceFor? r.method).map fun s => (e.path, s)

/-- The endpoints have the templates of their paths, which do not clash, and no handler twice. -/
structure WellFormed (t : Table) : Prop where
  template : ∀ e ∈ t, Template.ofText? e.path = some e.template
  apart : (t.map (·.template)).Pairwise fun a b => a.clashes b = false
  services : ∀ e ∈ t, e.services.Nodup

variable {t t' : Table} {e a b : Endpoint} {path : String} {services : List Service}

theorem mem_handlers {s : Service} :
    (path, s) ∈ t.handlers ↔ ∃ e ∈ t, e.path = path ∧ s ∈ e.services := by
  unfold handlers
  rw [List.mem_flatMap]
  constructor
  · rintro ⟨e, he, h⟩
    obtain ⟨s', hs, h⟩ := List.mem_map.1 h
    obtain ⟨rfl, rfl⟩ := Prod.mk.inj h
    exact ⟨e, he, rfl, hs⟩
  · rintro ⟨e, he, rfl, hs⟩
    exact ⟨e, he, List.mem_map_of_mem hs⟩

/-! ## The answer to a request -/

theorem respond_eq_served_of_status {r : Http.Request} (h : (t.respond r).status = 200) :
    t.respond r = .served := by
  unfold respond Endpoint.respond at h ⊢
  split at h
  · exact absurd h (by decide : Http.Response.notFound.status ≠ 200)
  split at h
  · next hs => exact if_pos hs
  · exact absurd h (by decide : Http.Response.methodNotAllowed.status ≠ 200)

theorem respond_eq_served_iff {r : Http.Request} :
    t.respond r = .served ↔ (t.handlerFor? r).isSome = true := by
  unfold respond handlerFor?
  cases t.lookup r.target.path with
  | none => exact ⟨nofun, nofun⟩
  | some e =>
    show e.respond r.method = .served ↔ ((e.serviceFor? r.method).map _).isSome = true
    unfold Endpoint.respond
    rw [Option.isSome_map, Endpoint.isSome_serviceFor?]
    cases e.serves r.method with
    | false => exact ⟨nofun, nofun⟩
    | true => exact ⟨fun _ => rfl, fun _ => rfl⟩

/-! ## Adding a path -/

/-- Handlers are added to the first endpoint of the path. -/
theorem extend?_cases (h : t.extend? path services = some t') :
    ∃ l e r, t = l ++ e :: r ∧ t' = l ++ { e with services := e.services ++ services } :: r ∧
      e.path = path ∧ e.services.Disjoint services := by
  induction t generalizing t' with
  | nil => exact absurd h nofun
  | cons x xs ih =>
    unfold extend? at h
    split at h
    · next hpath =>
      obtain ⟨hnone, h⟩ := Option.ite_none_left_eq_some.1 h
      obtain rfl := Option.some.inj h
      refine ⟨[], x, xs, rfl, rfl, hpath, fun s hx hs => hnone ?_⟩
      exact List.any_eq_true.2 ⟨s, hs, decide_eq_true hx⟩
    · obtain ⟨t'', ht, rfl⟩ := Option.map_eq_some_iff.1 h
      obtain ⟨l, e, r, rfl, rfl, hrest⟩ := ih ht
      exact ⟨x :: l, e, r, rfl, rfl, hrest⟩

/-- A path is added to a table behind its endpoints, or its handlers behind those of its endpoint. -/
theorem add?_cases (h : t.add? path services = some t') :
    isRoutePath path = true ∧
      ((∃ template, Template.ofText? path = some template ∧ (∀ e ∈ t, e.path ≠ path) ∧
          (∀ e ∈ t, e.template.clashes template = false) ∧ t' = t ++ [⟨path, template, services⟩]) ∨
        ∃ l e r, t = l ++ e :: r ∧ t' = l ++ { e with services := e.services ++ services } :: r ∧
          e.path = path ∧ e.services.Disjoint services) := by
  obtain ⟨hpath, h⟩ := Option.ite_none_right_eq_some.1 h
  refine ⟨hpath, ?_⟩
  split at h
  · exact .inr (extend?_cases h)
  · next hnew =>
    obtain ⟨template, ht, h⟩ := Option.bind_eq_some_iff.1 h
    obtain ⟨hclash, h⟩ := Option.ite_none_left_eq_some.1 h
    refine .inl ⟨template, ht, fun e he hep => hnew ?_, fun e he => ?_, (Option.some.inj h).symm⟩
    · exact List.any_eq_true.2 ⟨e, he, beq_iff_eq.2 hep⟩
    · simp only [List.any_eq_true, not_exists, not_and, Bool.not_eq_true] at hclash
      exact hclash e he

theorem handlers_add? (h : t.add? path services = some t') :
    t'.handlers.Perm (t.handlers ++ services.map fun s => (path, s)) := by
  obtain ⟨-, ⟨template, -, -, -, rfl⟩ | ⟨l, e, r, rfl, rfl, rfl, -⟩⟩ := add?_cases h
  · unfold handlers
    rw [List.flatMap_append, List.flatMap_singleton]
  · have hswap : ((services.map fun s => (e.path, s)) ++ handlers r).Perm
        (handlers r ++ services.map fun s => (e.path, s)) := List.perm_append_comm
    unfold handlers at hswap ⊢
    simp only [List.flatMap_append, List.flatMap_cons, List.map_append, List.append_assoc]
    exact (hswap.append_left _).append_left _

theorem wellFormed_nil : WellFormed [] := ⟨nofun, .nil, nofun⟩

/-- What holds of every endpoint holds still when one is replaced by another that it holds of. -/
theorem forall_mem_replace {P : Endpoint → Prop} {l r : List Endpoint} (h : ∀ x ∈ l ++ a :: r, P x)
    (hb : P a → P b) : ∀ x ∈ l ++ b :: r, P x := by
  rw [List.forall_mem_append, List.forall_mem_cons] at h ⊢
  exact ⟨h.1, hb h.2.1, h.2.2⟩

theorem WellFormed.add? (hw : t.WellFormed) (hs : services.Nodup) (h : t.add? path services = some t') :
    t'.WellFormed := by
  obtain ⟨-, ⟨template, ht, -, hclash, rfl⟩ | ⟨l, e, r, rfl, rfl, -, hnew⟩⟩ := add?_cases h
  · refine ⟨?_, ?_, ?_⟩
    · exact List.forall_mem_append.2 ⟨hw.template, List.forall_mem_singleton.2 ht⟩
    · rw [List.map_append]
      refine List.pairwise_append.2 ⟨hw.apart, List.pairwise_singleton _ _, ?_⟩
      rw [List.forall_mem_map]
      exact fun x hx => List.forall_mem_singleton.2 (hclash x hx)
    · exact List.forall_mem_append.2 ⟨hw.services, List.forall_mem_singleton.2 hs⟩
  · refine ⟨forall_mem_replace hw.template id, ?_, forall_mem_replace hw.services fun he => ?_⟩
    · have hapart := hw.apart
      rw [List.map_append] at hapart ⊢
      exact hapart
    · exact he.append hs hnew

/-! ## Adding a table -/

theorem addAll?_cons {place : String → String} {es : List Endpoint}
    (h : t.addAll? place (e :: es) = some t') :
    ∃ u, t.add? (place e.path) e.services = some u ∧ u.addAll? place es = some t' := by
  unfold addAll? at h
  rw [List.foldlM_cons] at h
  exact Option.bind_eq_some_iff.1 h

theorem handlers_addAll? {place : String → String} {es : List Endpoint}
    (h : t.addAll? place es = some t') :
    t'.handlers.Perm (t.handlers ++ (handlers es).map fun x => (place x.1, x.2)) := by
  induction es generalizing t with
  | nil =>
    obtain rfl := Option.some.inj h
    rw [show handlers [] = [] from rfl, List.map_nil, List.append_nil]
  | cons e es ih =>
    obtain ⟨u, hu, h⟩ := addAll?_cons h
    have hcons : (handlers (e :: es)).map (fun x => (place x.1, x.2)) =
        (e.services.map fun s => (place e.path, s)) ++
          (handlers es).map fun x => (place x.1, x.2) := by
      unfold handlers
      rw [List.flatMap_cons, List.map_append, List.map_map]
      rfl
    rw [hcons, ← List.append_assoc]
    exact (ih h).trans ((handlers_add? hu).append_right _)

theorem WellFormed.addAll? {place : String → String} {es : List Endpoint} (hw : t.WellFormed)
    (hes : WellFormed es) (h : t.addAll? place es = some t') : t'.WellFormed := by
  have hnodup := hes.services
  clear hes
  induction es generalizing t with
  | nil => exact Option.some.inj h ▸ hw
  | cons e es ih =>
    obtain ⟨u, hu, h⟩ := addAll?_cons h
    rw [List.forall_mem_cons] at hnodup
    exact ih (hw.add? hnodup.1 hu) h hnodup.2

/-! ## Looking up a path -/

theorem better_cons_subset (a b : Endpoint) (es : List Endpoint) : better a b :: es ⊆ a :: b :: es := by
  refine List.cons_subset.2 ⟨?_, fun x hx => List.mem_cons_of_mem a (List.mem_cons_of_mem b hx)⟩
  unfold better
  split
  · exact List.mem_cons_of_mem a List.mem_cons_self
  · exact List.mem_cons_self

theorem foldl_better_mem (es : List Endpoint) (a : Endpoint) : es.foldl better a ∈ a :: es := by
  induction es generalizing a with
  | nil => exact List.mem_cons_self
  | cons b es ih => exact better_cons_subset a b es (ih (better a b))

/-- The endpoint that goes before all others, and that none goes before, is the best one. -/
theorem foldl_better_eq {es : List Endpoint} (hmem : e ∈ a :: es)
    (hbeats : ∀ x ∈ a :: es, x ≠ e → e.template.beats x.template = true)
    (hlast : ∀ x ∈ a :: es, x.template.beats e.template = false) : es.foldl better a = e := by
  induction es generalizing a with
  | nil => exact (List.mem_singleton.1 hmem).symm
  | cons b es ih =>
    have hsub := better_cons_subset a b es
    refine ih ?_ (fun x hx => hbeats x (hsub hx)) fun x hx => hlast x (hsub hx)
    -- Of two endpoints it is the better one.
    obtain rfl | hmem := List.mem_cons.1 hmem
    · have hb := hlast b (List.mem_cons_of_mem e List.mem_cons_self)
      rw [better, hb]
      exact List.mem_cons_self
    · obtain rfl | hmem := List.mem_cons.1 hmem
      · by_cases hae : a = e
        · rw [hae, better, ite_self]
          exact List.mem_cons_self
        · rw [better, if_pos (hbeats a List.mem_cons_self hae)]
          exact List.mem_cons_self
      · exact List.mem_cons_of_mem _ hmem

theorem mem_of_lookup (h : t.lookup path = some e) : e ∈ t ∧ e.template.matches? path.toList = true := by
  unfold lookup at h
  split at h
  · exact absurd h nofun
  · next a es hes =>
    have hmem := foldl_better_mem es a
    rw [Option.some.inj h, ← hes] at hmem
    exact List.mem_filter.1 hmem

/-- A request gets no handlers but those in the table. -/
theorem handlerFor?_mem {r : Http.Request} {h : String × Service} (hr : t.handlerFor? r = some h) :
    h ∈ t.handlers := by
  obtain ⟨e, he, hr⟩ := Option.bind_eq_some_iff.1 hr
  obtain ⟨s, hs, rfl⟩ := Option.map_eq_some_iff.1 hr
  exact mem_handlers.2 ⟨e, (mem_of_lookup he).1, rfl, e.serviceFor?_mem hs⟩

theorem lookup_eq_some (he : e ∈ t) (hm : e.template.matches? path.toList = true)
    (hbeats : ∀ x ∈ t, x.template.matches? path.toList = true → x ≠ e →
      e.template.beats x.template = true)
    (hlast : ∀ x ∈ t, x.template.beats e.template = false) : t.lookup path = some e := by
  have hmem : e ∈ t.filter fun e => e.template.matches? path.toList := List.mem_filter.2 ⟨he, hm⟩
  unfold lookup
  split
  · next hnil => rw [hnil] at hmem; exact absurd hmem List.not_mem_nil
  · next a es hes =>
    rw [hes] at hmem
    have hsub : ∀ x ∈ a :: es, x ∈ t ∧ x.template.matches? path.toList = true :=
      fun x hx => List.mem_filter.1 (hes ▸ hx)
    exact congrArg some (foldl_better_eq hmem (fun x hx => hbeats x (hsub x hx).1 (hsub x hx).2)
      fun x hx => hlast x (hsub x hx).1)

/-- A template clashes with itself, so none is there twice. -/
theorem WellFormed.nodup_templates (hw : t.WellFormed) : (t.map (·.template)).Nodup := by
  apply hw.apart.imp
  intro a b hclash heq
  rw [heq, Template.clashes_self] at hclash
  exact Bool.false_ne_true hclash.symm

theorem WellFormed.eq_of_template_eq (hw : t.WellFormed) (ha : a ∈ t) (hb : b ∈ t)
    (h : a.template = b.template) : a = b :=
  List.inj_on_of_nodup_map hw.nodup_templates ha hb h

theorem WellFormed.eq_of_path_eq (hw : t.WellFormed) (ha : a ∈ t) (hb : b ∈ t) (h : a.path = b.path) :
    a = b := by
  have hta := hw.template a ha
  have htb := hw.template b hb
  rw [h, htb] at hta
  exact hw.eq_of_template_eq ha hb (Option.some.inj hta).symm

/-- No handler is there twice. -/
theorem WellFormed.nodup_handlers (hw : t.WellFormed) : t.handlers.Nodup := by
  refine List.nodup_flatMap.2 ⟨fun e he => ?_, ?_⟩
  · exact (hw.services e he).map fun _ _ h => (Prod.mk.inj h).2
  · refine (List.pairwise_map.1 hw.apart).imp_of_mem fun {a b} ha hb hclash x hxa hxb => ?_
    obtain ⟨s, -, rfl⟩ := List.mem_map.1 hxa
    obtain ⟨s', -, h⟩ := List.mem_map.1 hxb
    obtain rfl := hw.eq_of_path_eq hb ha (Prod.mk.inj h).1
    rw [Template.clashes_self] at hclash
    exact Bool.false_ne_true hclash.symm

/-- A template of characters alone is what its path finds. -/
theorem WellFormed.lookup_literal (hw : t.WellFormed) (he : e ∈ t)
    (ht : e.template = .literal path.toList) : t.lookup path = some e := by
  refine lookup_eq_some he ?_ (fun x hx hm hne => ?_) fun x _ => ?_
  · rw [ht, Template.matches?_literal]
  · rw [ht]
    exact Template.literal_beats hm fun hx' => hne (hw.eq_of_template_eq hx he (hx'.trans ht.symm))
  · rw [ht]
    exact Template.not_beats_literal _ _

theorem WellFormed.lookup_literal_iff (hw : t.WellFormed) (he : e ∈ t)
    (ht : e.template = .literal path.toList) {p : String} : t.lookup p = some e ↔ p = path := by
  constructor
  · intro hl
    have hm := (mem_of_lookup hl).2
    rw [ht, Template.matches?_literal] at hm
    exact String.toList_inj.1 hm
  · rintro rfl
    exact hw.lookup_literal he ht

/-- A request gets a handler of an endpoint if its path finds the endpoint. -/
theorem WellFormed.handlerFor?_eq_iff (hw : t.WellFormed) (he : e ∈ t) {r : Http.Request} {s : Service} :
    t.handlerFor? r = some (e.path, s) ↔
      t.lookup r.target.path = some e ∧ e.serviceFor? r.method = some s := by
  unfold handlerFor?
  constructor
  · intro h
    obtain ⟨f, hf, h⟩ := Option.bind_eq_some_iff.1 h
    obtain ⟨s', hs, h⟩ := Option.map_eq_some_iff.1 h
    obtain ⟨hpath, rfl⟩ := Prod.mk.inj h
    obtain rfl := hw.eq_of_path_eq (mem_of_lookup hf).1 he hpath
    exact ⟨hf, hs⟩
  · rintro ⟨hl, hs⟩
    rw [hl, Option.bind_some, hs, Option.map_some]

end Table

end EndpointGate
