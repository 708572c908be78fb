import EndpointGate.Proofs.FirstOccurrences
import EndpointGate.Proofs.Gate.Answer
import EndpointGate.Proofs.Pattern.Literal
import EndpointGate.Proofs.Route.Sample
import EndpointGate.Proofs.Router.Template
import EndpointGate.Router.Basic
import Mathlib.Data.List.Sort

/-!
# The report of disabled routes

The report has one line for each path that it names (`disabledRoutes_eq`, `reported_increasing`). On the
line of a path stand the methods of its routes that the gate declines on the sample of the path
(`lists_iff`). So the report tells what the gate does with requests for a path if the path is its own
sample, and only then: a gate that declines the sample alone tells the two apart (`report_agrees`).
-/

namespace EndpointGate

variable {routes : List Route} {path method : String}

namespace Gate

/-- The paths that the report names, each with the methods on its line. -/
def reported (g : Gate) (routes : List Route) : List (String × List String) :=
  let disabled := g.registry.disabledAmong routes
  (reportPaths disabled).map fun path => (path, methodsAt path disabled)

/-- The line of the path lists the method. -/
def Lists (g : Gate) (routes : List Route) (path method : String) : Prop :=
  ∃ methods, (path, methods) ∈ g.reported routes ∧ method ∈ methods

/-- Whatever the gate, its report says of a path what the gate does with requests for the URI. -/
def ReportAgrees (path uri : String) : Prop :=
  ∀ (g : Gate) (routes : List Route) (method : String),
    g.Lists routes path method ↔
      ⟨method, path⟩ ∈ routes ∧ (g.evaluate method uri).1.isDeclined = true

/-! ## Lines -/

theorem disabledRoutes_eq (g : Gate) (routes : List Route) :
    g.disabledRoutes routes = (g.reported routes).map fun line => reportLine line.1 line.2 := by
  simp [disabledRoutes, reported]

theorem mem_reportPaths_iff : path ∈ reportPaths routes ↔ ∃ method, ⟨method, path⟩ ∈ routes := by
  simp only [reportPaths, List.mem_mergeSort, List.mem_eraseDups, List.mem_map]
  constructor
  · rintro ⟨⟨method, _⟩, hr, rfl⟩
    exact ⟨method, hr⟩
  · rintro ⟨method, hr⟩
    exact ⟨_, hr, rfl⟩

theorem mem_methodsAt_iff : method ∈ methodsAt path routes ↔ ⟨method, path⟩ ∈ routes := by
  simp only [methodsAt, List.mem_eraseDups, List.mem_map, List.mem_filter, beq_iff_eq]
  constructor
  · rintro ⟨⟨_, _⟩, ⟨hr, rfl⟩, rfl⟩
    exact hr
  · intro hr
    exact ⟨_, ⟨hr, rfl⟩, rfl⟩

theorem reportPaths_increasing (routes : List Route) : (reportPaths routes).Pairwise (· < ·) := by
  have htrans : ∀ a b c : String, (a < b || a == b) = true → (b < c || b == c) = true →
      (a < c || a == c) = true := by
    simp only [Bool.or_eq_true, decide_eq_true_eq, beq_iff_eq]
    rintro a b c (hab | rfl) (hbc | rfl)
    · exact .inl (String.lt_trans hab hbc)
    · exact .inl hab
    · exact .inl hbc
    · exact .inr rfl
  have htotal : ∀ a b : String, ((a < b || a == b) || (b < a || b == a)) = true := by
    intro a b
    simp only [Bool.or_eq_true, decide_eq_true_eq, beq_iff_eq]
    rcases Std.lt_trichotomy a b with h | h | h
    · exact .inl (.inl h)
    · exact .inl (.inr h)
    · exact .inr (.inl h)
  have hnodup : (reportPaths routes).Nodup :=
    (List.mergeSort_perm _ _).nodup_iff.2 (firstOccurrences_eraseDups _).nodup
  have hsorted := List.pairwise_mergeSort htrans htotal (routes.map (·.path)).eraseDups
  apply (hsorted.and hnodup).imp
  rintro a b ⟨hle, hne⟩
  simpa [hne] using hle

theorem map_fst_reported (g : Gate) (routes : List Route) :
    (g.reported routes).map Prod.fst = reportPaths (g.registry.disabledAmong routes) := by
  simp [reported, Function.comp_def]

theorem reported_increasing (g : Gate) (routes : List Route) :
    ((g.reported routes).map Prod.fst).Pairwise (· < ·) := by
  rw [map_fst_reported]
  exact reportPaths_increasing _

/-! ## Listed methods -/

theorem lists_iff {g : Gate} :
    g.Lists routes path method ↔
      ⟨method, path⟩ ∈ routes ∧ g.registry.HasEntryFor (Route.sample path) method := by
  have hdisabled : ⟨method, path⟩ ∈ g.registry.disabledAmong routes ↔
      ⟨method, path⟩ ∈ routes ∧ g.registry.HasEntryFor (Route.sample path) method := List.mem_filter
  rw [← hdisabled]
  simp only [Lists, reported, List.mem_map, Prod.mk.injEq]
  constructor
  · rintro ⟨_, ⟨_, -, rfl, rfl⟩, hm⟩
    exact mem_methodsAt_iff.1 hm
  · intro hm
    exact ⟨_, ⟨path, mem_reportPaths_iff.2 ⟨method, hm⟩, rfl, rfl⟩, mem_methodsAt_iff.2 hm⟩

theorem isDeclined_evaluate {g : Gate} {uri : String} :
    (g.evaluate method uri).1.isDeclined = true ↔ g.registry.HasEntryFor (uriPath uri) method := by
  show (g.registry.judge method uri).isDeclined = true ↔ _
  rw [Registry.isDeclined_judge]
  exact Iff.rfl

/-! ## Samples and paths -/

theorem hasEntryFor_insert_any {text : String} :
    (Registry.empty.insert text .any).HasEntryFor path method ↔
      (Pattern.compile text).matches? path = true := by
  simp [Registry.HasEntryFor, Registry.lookup, Registry.insertEntry, Entry.covers, MethodSet.covers]

theorem hasNoWild_sample (hbrace : '{' ∉ path.toList) (hquery : '?' ∉ path.toList) :
    Pattern.HasNoWild (Route.sample path).toList := by
  intro c hc
  have hstar := (Route.isLiteral_of_mem_sample hc).2.2
  have hone : c ≠ '?' := fun h => Route.not_mem_sample (by decide) hquery (h ▸ hc)
  have hopen : c ≠ '{' := fun h => Route.not_mem_sample (by decide) hbrace (h ▸ hc)
  simp [Pattern.isWild, hstar, hone, hopen]

/-- The pattern that is the text of the sample declines the sample, but not a path that differs from it. -/
theorem tells_sample_from_path (method : String) (hbrace : '{' ∉ path.toList)
    (hquery : '?' ∉ path.toList) {c : Char} (hc : c ∈ path.toList) (hlit : ¬Route.IsLiteral c) :
    (Registry.empty.insert (Route.sample path) .any).HasEntryFor (Route.sample path) method ∧
      ¬(Registry.empty.insert (Route.sample path) .any).HasEntryFor path method := by
  have hwild := hasNoWild_sample hbrace hquery
  have hslash : c ≠ '/' := by
    rintro rfl
    exact hlit (by simp [Route.IsLiteral])
  rw [hasEntryFor_insert_any, hasEntryFor_insert_any]
  refine ⟨Pattern.matches?_literal_self hwild, fun hm => ?_⟩
  have hmem := (Pattern.mem_iff_of_matches?_literal hwild hm hslash).1 hc
  exact hlit (Route.isLiteral_of_mem_sample hmem)

/-- **The report.** What the report says of a path without braces is what the gate does with requests for
its sample. It is what the gate does with requests for the path itself, for every gate and all routes, if
and only if the path has no colon, plus or star. -/
theorem report_agrees (hbrace : '{' ∉ path.toList) (hquery : '?' ∉ path.toList)
    (hfragment : '#' ∉ path.toList) :
    (∀ (g : Gate) (routes : List Route),
      g.disabledRoutes routes = (g.reported routes).map (fun line => reportLine line.1 line.2) ∧
        ((g.reported routes).map Prod.fst).Pairwise (· < ·)) ∧
    ReportAgrees path (Route.sample path) ∧
    (ReportAgrees path path ↔ ∀ c ∈ path.toList, c ≠ ':' ∧ c ≠ '+' ∧ c ≠ '*') := by
  have hsample : ReportAgrees path (Route.sample path) := by
    intro g routes method
    rw [lists_iff, isDeclined_evaluate, Route.uriPath_sample hquery hfragment]
  refine ⟨fun g routes => ⟨disabledRoutes_eq g routes, reported_increasing g routes⟩, hsample, ?_⟩
  constructor
  · intro hagrees c hc
    by_contra hlit
    obtain ⟨hentry, hnone⟩ := tells_sample_from_path "GET" hbrace hquery hc hlit
    let g : Gate := .ofRegistry (Registry.empty.insert (Route.sample path) .any)
    have hlists : g.Lists [⟨"GET", path⟩] path "GET" := lists_iff.2 ⟨List.mem_singleton.2 rfl, hentry⟩
    have hdeclined := ((hagrees g _ _).1 hlists).2
    rw [isDeclined_evaluate, Route.uriPath_eq_self hquery hfragment] at hdeclined
    exact hnone hdeclined
  · intro hlit
    have hself := (Route.sample_eq_self_iff hbrace).2 hlit
    rwa [hself] at hsample

/-- A path with a dot in it is reported as it is, one with a colon is not. -/
theorem report_agrees_on_dot :
    ReportAgrees "/a.b" "/a.b" ∧ ¬ReportAgrees "/items:cancel" "/items:cancel" := by
  refine ⟨(report_agrees (by decide) (by decide) (by decide)).2.2.2 (by simp), fun h => ?_⟩
  have hlit := (report_agrees (by decide) (by decide) (by decide)).2.2.1 h
  exact (hlit ':' (by decide)).1 rfl

/-- A route that the gate declines is not in the report, and one that it does not decline is. -/
theorem not_lists_custom_verb :
    Router.ofSteps? [.route "POST" "/items:cancel", .route "GET" "/a+b"] =
      some ⟨[⟨"POST", "/items:cancel"⟩, ⟨"GET", "/a+b"⟩],
        [⟨"/items:cancel", .literal "/items:cancel".toList, [.method "POST"]⟩,
          ⟨"/a+b", .literal "/a+b".toList, [.method "GET"]⟩]⟩ ∧
    (let g := ofRegistry (Registry.empty.insert "/items:cancel" .any)
      let routes := [⟨"POST", "/items:cancel"⟩]
      (g.evaluate "POST" "/items:cancel").1.isDeclined = true ∧ g.disabledRoutes routes = [] ∧
        ¬g.Lists routes "/items:cancel" "POST") ∧
    (let g := ofRegistry (Registry.empty.insert "/aparamb" .any)
      let routes := [⟨"GET", "/a+b"⟩]
      (g.evaluate "GET" "/a+b").1.isDeclined = false ∧ g.disabledRoutes routes = ["/a+b [GET]"] ∧
        g.Lists routes "/a+b" "GET") := by
  have hnone : (Registry.empty.insert "/items:cancel" .any).disabledAmong
      [⟨"POST", "/items:cancel"⟩] = [] := by decide
  have hsome : (Registry.empty.insert "/aparamb" .any).disabledAmong [⟨"GET", "/a+b"⟩] =
      [⟨"GET", "/a+b"⟩] := by decide
  have hpaths : reportPaths [⟨"GET", "/a+b"⟩] = ["/a+b"] := by simp [reportPaths, List.eraseDups_cons]
  refine ⟨by decide +kernel, ⟨by decide, ?_, ?_⟩, by decide, ?_, ?_⟩
  · show (reportPaths ((Registry.empty.insert "/items:cancel" .any).disabledAmong _)).map _ = []
    rw [hnone]
    simp [reportPaths]
  · rw [lists_iff]
    unfold Registry.HasEntryFor
    decide
  · show (reportPaths ((Registry.empty.insert "/aparamb" .any).disabledAmong _)).map _ = _
    rw [hsome, hpaths]
    decide +kernel
  · rw [lists_iff]
    unfold Registry.HasEntryFor
    decide

end Gate

end EndpointGate
