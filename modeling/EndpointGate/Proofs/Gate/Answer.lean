import EndpointGate.Proofs.Gate.SeenPath
import EndpointGate.Router.Gated

/-!
# What a gate declines

The answer behind a gate tells apart what the gate declines from what a handler serves: sending an answer
keeps its status and its type (`status_sent`, `contentType_sent`), and no answer of the router has the type
of the answer to a declined request.

A request is declined if the registry has an entry for the path that the gate sees
(`declines_iff_hasEntryFor`). This is the path that the router goes by, but for a URI that has its query
right behind its host; `guardsRoutedPath_iff` tells exactly when the difference shows.
-/

namespace EndpointGate

/-- The registry has an entry for the path and the method, in whatever case its letters are. -/
def Registry.HasEntryFor (r : Registry) (path method : String) : Prop :=
  (r.lookup path (Text.asciiUppercase method)).isSome = true

theorem Registry.judge_eq_decline_iff {r : Registry} {method uri : String} {d : Declined} :
    r.judge method uri = .decline d ↔
      ∃ e, r.lookup (uriPath uri) (Text.asciiUppercase method) = some e ∧
        d = ⟨method, uri, e.methods, e.text⟩ := by
  unfold Registry.judge
  cases r.lookup (uriPath uri) (Text.asciiUppercase method) with
  | none => exact ⟨nofun, fun ⟨_, h, _⟩ => nomatch h⟩
  | some e =>
    constructor
    · exact fun h => ⟨e, rfl, (Decision.decline.inj h).symm⟩
    · rintro ⟨e', he, rfl⟩
      rw [Option.some.inj he]

theorem Decision.isDeclined_eq_false_iff {d : Decision} : d.isDeclined = false ↔ d = .allow := by
  cases d with
  | allow => exact ⟨fun _ => rfl, fun _ => rfl⟩
  | decline d => exact ⟨nofun, nofun⟩

theorem Registry.isDeclined_judge (r : Registry) (method uri : String) :
    (r.judge method uri).isDeclined = (r.lookup (uriPath uri) (Text.asciiUppercase method)).isSome := by
  unfold judge
  cases r.lookup (uriPath uri) (Text.asciiUppercase method) <;> rfl

theorem Registry.hasEntryFor_uriPath_iff {r : Registry} {method uri : String} :
    r.HasEntryFor (uriPath uri) method ↔ ∃ d, r.judge method uri = .decline d := by
  unfold HasEntryFor
  rw [Option.isSome_iff_exists]
  constructor
  · rintro ⟨e, he⟩
    exact ⟨_, judge_eq_decline_iff.2 ⟨e, he, rfl⟩⟩
  · rintro ⟨d, hd⟩
    obtain ⟨e, he, -⟩ := judge_eq_decline_iff.1 hd
    exact ⟨e, he⟩

namespace GatedRouter

/-- The request is answered as a declined one. -/
def Declines (id : String) (g : GatedRouter) (r : Http.Request) : Prop :=
  ∃ d, (g.answer id r).1 = g.sent r (.declined id d)

/-- The request is answered by a handler. -/
def Serves (id : String) (g : GatedRouter) (r : Http.Request) : Prop :=
  (g.answer id r).1 = g.sent r .served

/-- The gate decides on a request by the path that it is routed by: the request is declined if and only if
the registry has an entry for that path, and then no handler serves it. -/
structure GuardsRoutedPath (id : String) (router : Router) (gate : Gate) (r : Http.Request) : Prop where
  declines_iff : Declines id ⟨router, some gate⟩ r ↔ gate.registry.HasEntryFor r.target.path r.method
  not_serves : gate.registry.HasEntryFor r.target.path r.method → ¬Serves id ⟨router, some gate⟩ r

variable {id : String} {g : GatedRouter} {r : Http.Request}

/-! ## Answers as they are sent -/

theorem status_sent (g : GatedRouter) (r : Http.Request) (a : Http.Response) :
    (g.sent r a).status = a.status := by
  unfold sent Http.Response.sentFor
  split
  · rfl
  · split <;> rfl

theorem contentType_sent (g : GatedRouter) (r : Http.Request) (a : Http.Response) :
    (g.sent r a).contentType = a.contentType := by
  unfold sent Http.Response.sentFor
  split
  · rfl
  · split <;> rfl

/-- What the router answers by itself has not the type of an answer to a declined request. -/
theorem contentType_respond (t : Table) (r : Http.Request) :
    (t.respond r).contentType ≠ some "application/json" := by
  unfold Table.respond
  split
  · decide
  · unfold Endpoint.respond
    split <;> decide

theorem response_of_decline {d : Declined} (h : g.decision r = .decline d) :
    g.response id r = .declined id d := by
  unfold response
  rw [h]

theorem response_of_allow (h : g.decision r = .allow) : g.response id r = g.router.table.respond r := by
  unfold response
  rw [h]

/-! ## Declined requests -/

theorem declines_iff_decision : g.Declines id r ↔ ∃ d, g.decision r = .decline d := by
  constructor
  · rintro ⟨d, hd⟩
    cases hdec : g.decision r with
    | decline d => exact ⟨d, rfl⟩
    | allow =>
      -- The type of the answer would be that of a declined request.
      have htype := congrArg Http.Response.contentType hd
      unfold answer at htype
      rw [contentType_sent, contentType_sent, response_of_allow hdec] at htype
      exact absurd htype (contentType_respond _ _)
  · rintro ⟨d, hd⟩
    exact ⟨d, congrArg (g.sent r) (response_of_decline hd)⟩

theorem declines_iff_hasEntryFor (id : String) (router : Router) (gate : Gate) (r : Http.Request) :
    Declines id ⟨router, some gate⟩ r ↔
      gate.registry.HasEntryFor (uriPath r.target.resource) r.method :=
  declines_iff_decision.trans Registry.hasEntryFor_uriPath_iff.symm

theorem Declines.not_serves (h : g.Declines id r) : ¬g.Serves id r := by
  intro hs
  obtain ⟨d, hd⟩ := h
  have hstatus := congrArg Http.Response.status (hd.symm.trans hs)
  rw [status_sent, status_sent] at hstatus
  exact absurd hstatus (by decide : Declined.status ≠ 200)

/-! ## The routed path -/

theorem guardsRoutedPath_iff_hasEntryFor (id : String) (router : Router) (gate : Gate) (r : Http.Request) :
    GuardsRoutedPath id router gate r ↔
      (gate.registry.HasEntryFor (uriPath r.target.resource) r.method ↔
        gate.registry.HasEntryFor r.target.path r.method) := by
  have hd := declines_iff_hasEntryFor id router gate r
  constructor
  · exact fun h => hd.symm.trans h.declines_iff
  · exact fun h => ⟨hd.trans h, fun hp => (hd.2 (h.2 hp)).not_serves⟩

/-- **The routed path.** A gate guards the routed path of every request, unless the request has its query
right behind its host. Such a one is routed by the root and declined if there is an entry for the empty
path, so that the gate guards the root for it just when it has entries for both or for neither. -/
theorem guardsRoutedPath_iff (id : String) (router : Router) (gate : Gate) {method uri : String}
    {r : Http.Request} (h : Http.Request.ofText? method uri = some r) :
    (GuardsRoutedPath id router gate r ↔
        (Http.OmitsPath uri →
          (gate.registry.HasEntryFor "" method ↔ gate.registry.HasEntryFor "/" method))) ∧
      (Http.OmitsPath uri →
        r.target.path = "/" ∧
          (Declines id ⟨router, some gate⟩ r ↔ gate.registry.HasEntryFor "" method)) := by
  obtain ⟨-, h⟩ := Option.ite_none_right_eq_some.1 h
  obtain ⟨t, ht, rfl⟩ := Option.map_eq_some_iff.1 h
  rw [guardsRoutedPath_iff_hasEntryFor, declines_iff_hasEntryFor]
  obtain ⟨ho, hpath, hseen⟩ | ⟨ho, hseen⟩ := Http.uriPath_resource ht
  · rw [hseen, hpath]
    exact ⟨⟨fun hg _ => hg, fun hg => hg ho⟩, fun _ => ⟨rfl, Iff.rfl⟩⟩
  · rw [hseen]
    exact ⟨⟨fun _ h => absurd h ho, fun _ => Iff.rfl⟩, fun h => absurd h ho⟩

/-- A query right behind the host leads around a gate that has an entry for the root alone. -/
theorem not_guardsRoutedPath_host_query :
    Http.Request.ofText? "GET" "http://h?q=1" = some ⟨"GET", "/", "?q=1"⟩ ∧
      ¬GuardsRoutedPath "1" ⟨[⟨"GET", "/"⟩], [⟨"/", [.char '/'], [.method "GET"]⟩]⟩
        (.ofRegistry (Registry.empty.insert "/**" .any)) ⟨"GET", "/", "?q=1"⟩ := by
  have hr : Http.Request.ofText? "GET" "http://h?q=1" = some ⟨"GET", "/", "?q=1"⟩ := by decide
  have ho : Http.OmitsPath "http://h?q=1" :=
    ⟨['h', 't', 't', 'p'], ['h'], ['q', '=', '1'], by decide, List.all_eq_true.1 (by decide),
      List.forall_mem_singleton.2 (by decide)⟩
  refine ⟨hr, fun hg => ?_⟩
  have hiff := (guardsRoutedPath_iff _ _ _ hr).1.1 hg ho
  exact absurd (hiff.2 (by unfold Registry.HasEntryFor; decide))
    (by unfold Registry.HasEntryFor; decide)

end GatedRouter

end EndpointGate
