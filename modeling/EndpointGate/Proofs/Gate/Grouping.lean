import EndpointGate.Proofs.Gate.Report
import EndpointGate.Proofs.Text.Octets

/-!
# The report as a grouped look-up

The report has one line for each path of a disabled route, in the order of the octets of the paths, and on the
line the methods of the disabled routes with the path, in the order of their first occurrences (`IsReport`).
There is only one such report (`IsReport.eq`), and it is the one that the gate writes
(`disabledRoutes_eq_iff`). It can be written while the routes are read: one more route changes the line of its
path, or none (`IsReport.note`, `IsReport.skip`), so that the report is kept from the empty one on
(`reported_eq_foldl`).
-/

namespace EndpointGate.Gate

/-- The methods, as they are spelled, of the routes with the path that a look-up of their sample finds, in
the order of the routes. -/
def disabledMethods (g : Gate) (routes : List Route) (path : String) : List String :=
  (routes.filter fun route => route.path = path ∧
    (g.registry.lookup (Route.sample path) (Text.asciiUppercase route.method)).isSome).map (·.method)

/-- The lines, each a path with its methods, report the routes that are disabled. -/
structure IsReport (g : Gate) (routes : List Route) (report : List (String × List String)) : Prop where
  increasing : (report.map Prod.fst).Pairwise fun p q => Text.octets p < Text.octets q
  mem_paths_iff : ∀ path, path ∈ report.map Prod.fst ↔ ∃ method, ⟨method, path⟩ ∈ routes ∧
    (g.registry.lookup (Route.sample path) (Text.asciiUppercase method)).isSome = true
  methods : ∀ line ∈ report, FirstOccurrences (g.disabledMethods routes line.1) line.2

/-- The methods with one more: it comes last, unless it is among them already. -/
def noteMethod (method : String) (methods : List String) : List String :=
  if method ∈ methods then methods else methods ++ [method]

/-- The lines with one more disabled route: its method is on the line of its path. -/
def noteDisabled (route : Route) : List (String × List String) → List (String × List String)
  | [] => [(route.path, [route.method])]
  | line :: report =>
    if line.1 < route.path then line :: noteDisabled route report
    else if line.1 = route.path then (line.1, noteMethod route.method line.2) :: report
    else (route.path, [route.method]) :: line :: report

variable {g : Gate} {routes : List Route} {route : Route} {report report' : List (String × List String)}
  {path : String} {line : String × List String}

/-! ## Disabled methods -/

theorem disabledMethods_eq (g : Gate) (routes : List Route) (path : String) :
    g.disabledMethods routes path =
      ((g.registry.disabledAmong routes).filter (·.path == path)).map (·.method) := by
  unfold disabledMethods Registry.disabledAmong
  rw [List.filter_filter]
  congr 1
  apply List.filter_congr
  rintro ⟨method, p⟩ _
  by_cases hp : p = path
  · subst hp
    simp [Registry.disables, Route.samplePath]
  · simp [hp]

theorem disabledMethods_concat_of_disables (h : g.registry.disables route = true) :
    g.disabledMethods (routes ++ [route]) route.path =
      g.disabledMethods routes route.path ++ [route.method] := by
  have h' : (g.registry.lookup (Route.sample route.path) (Text.asciiUppercase route.method)).isSome = true := h
  simp [disabledMethods, h']

theorem disabledMethods_concat_eq_self (h : route.path = path → g.registry.disables route = false) :
    g.disabledMethods (routes ++ [route]) path = g.disabledMethods routes path := by
  rw [disabledMethods_eq, disabledMethods_eq]
  by_cases hp : route.path = path
  · simp [Registry.disabledAmong, h hp]
  · cases hd : g.registry.disables route <;> simp [Registry.disabledAmong, hd, hp]

/-! ## One report -/

theorem isReport_reported (g : Gate) (routes : List Route) : g.IsReport routes (g.reported routes) where
  increasing := by
    simp only [Text.octets_lt_iff]
    exact reported_increasing g routes
  mem_paths_iff path := by
    rw [map_fst_reported, mem_reportPaths_iff]
    exact exists_congr fun _ => List.mem_filter
  methods line hline := by
    obtain ⟨path, -, rfl⟩ := List.mem_map.1 hline
    rw [disabledMethods_eq]
    exact firstOccurrences_eraseDups _

theorem IsReport.disabledMethods_eq_nil (h : g.IsReport routes report) (hpath : path ∉ report.map Prod.fst) :
    g.disabledMethods routes path = [] := by
  rw [h.mem_paths_iff] at hpath
  rw [disabledMethods, List.map_eq_nil_iff, List.filter_eq_nil_iff]
  rintro ⟨method, p⟩ hr hd
  obtain ⟨rfl, hd⟩ := of_decide_eq_true hd
  exact hpath ⟨method, hr, hd⟩

theorem IsReport.sorted (h : g.IsReport routes report) : report.Pairwise fun x y => x.1 < y.1 := by
  have hpairs := List.pairwise_map.1 h.increasing
  simpa only [Text.octets_lt_iff] using hpairs

theorem IsReport.subset (h : g.IsReport routes report) (h' : g.IsReport routes report') :
    report ⊆ report' := by
  rintro ⟨path, methods⟩ hline
  have hpath := (h.mem_paths_iff path).1 (List.mem_map_of_mem hline)
  obtain ⟨⟨path, methods'⟩, hline', rfl⟩ := List.mem_map.1 ((h'.mem_paths_iff path).2 hpath)
  have hmethods : methods = methods' := (h.methods _ hline).eq (h'.methods _ hline')
  rwa [hmethods]

/-- A gate has one report of the routes. -/
theorem IsReport.eq (h : g.IsReport routes report) (h' : g.IsReport routes report') : report = report' := by
  have hnodup : ∀ {r : List (String × List String)}, g.IsReport routes r → r.Nodup := by
    intro r hr
    apply hr.sorted.imp
    rintro x y hlt rfl
    exact lt_irrefl _ hlt
  have hperm : report.Perm report' :=
    (List.perm_ext_iff_of_nodup (hnodup h) (hnodup h')).2 fun _ => ⟨(h.subset h' ·), (h'.subset h ·)⟩
  exact hperm.eq_of_pairwise (fun x y _ _ hxy hyx => absurd hyx (lt_asymm hxy)) h.sorted h'.sorted

/-- **The grouped look-up.** The lines are those of the report: one for each path that has a disabled route, in
the order of the octets, with the methods of these routes, each once and in the order in which they occur
first. -/
theorem disabledRoutes_eq_iff (g : Gate) (routes : List Route) (lines : List String) :
    g.disabledRoutes routes = lines ↔
      ∃ report, g.IsReport routes report ∧
        lines = report.map fun line => line.1 ++ " [" ++ ",".intercalate line.2 ++ "]" := by
  constructor
  · rintro rfl
    exact ⟨_, isReport_reported g routes, disabledRoutes_eq g routes⟩
  · rintro ⟨report, hreport, rfl⟩
    rw [disabledRoutes_eq, (isReport_reported g routes).eq hreport]
    rfl

/-- Methods that differ in letter case stay apart, a route that is there twice counts once. -/
example : (ofRegistry (Registry.empty.insert "/**" .any)).disabledRoutes
    [⟨"GET", "/b"⟩, ⟨"get", "/b"⟩, ⟨"GET", "/a"⟩, ⟨"GET", "/b"⟩] = ["/a [GET]", "/b [GET,get]"] := by
  cbv

/-! ## One more route -/

theorem mem_paths_noteDisabled_iff :
    path ∈ (noteDisabled route report).map Prod.fst ↔ path = route.path ∨ path ∈ report.map Prod.fst := by
  induction report with
  | nil => simp [noteDisabled]
  | cons line report ih =>
    unfold noteDisabled
    split_ifs with hlt heq
    · rw [List.map_cons, List.map_cons, List.mem_cons, List.mem_cons, ih]
      tauto
    · simp [heq]
    · simp

/-- A path that is neither behind the first one of sorted lines nor the first one is before all of them. -/
theorem lt_of_not_le_head (h : (line :: report).Pairwise fun x y => x.1 < y.1) (hlt : ¬line.1 < path)
    (hne : line.1 ≠ path) : ∀ x ∈ line :: report, path < x.1 := by
  have hhead : path < line.1 := lt_of_le_of_ne (not_lt.1 hlt) (Ne.symm hne)
  intro x hx
  rcases List.mem_cons.1 hx with rfl | hx
  · exact hhead
  · exact lt_trans hhead ((List.pairwise_cons.1 h).1 x hx)

theorem noteDisabled_sorted (h : report.Pairwise fun x y => x.1 < y.1) :
    (noteDisabled route report).Pairwise fun x y => x.1 < y.1 := by
  induction report with
  | nil => exact List.pairwise_singleton _ _
  | cons line report ih =>
    obtain ⟨hhead, htail⟩ := List.pairwise_cons.1 h
    unfold noteDisabled
    split_ifs with hlt heq
    · refine List.pairwise_cons.2 ⟨fun x hx => ?_, ih htail⟩
      rcases mem_paths_noteDisabled_iff.1 (List.mem_map_of_mem hx) with hx | hx
      · rwa [hx]
      · obtain ⟨y, hy, hxy⟩ := List.mem_map.1 hx
        exact hxy ▸ hhead y hy
    · exact List.pairwise_cons.2 ⟨hhead, htail⟩
    · exact List.pairwise_cons.2 ⟨lt_of_not_le_head h hlt heq, h⟩

/-- A line with one more route is an old one of another path, or the grown or new line of the path. -/
theorem of_mem_noteDisabled (h : report.Pairwise fun x y => x.1 < y.1)
    (hline : line ∈ noteDisabled route report) :
    line.1 ≠ route.path ∧ line ∈ report ∨
      (∃ methods, (route.path, methods) ∈ report ∧ line = (route.path, noteMethod route.method methods)) ∨
      route.path ∉ report.map Prod.fst ∧ line = (route.path, [route.method]) := by
  induction report with
  | nil => exact .inr (.inr ⟨List.not_mem_nil, List.mem_singleton.1 hline⟩)
  | cons first report ih =>
    obtain ⟨hhead, htail⟩ := List.pairwise_cons.1 h
    unfold noteDisabled at hline
    split_ifs at hline with hlt heq
    · rcases List.mem_cons.1 hline with rfl | hline
      · exact .inl ⟨ne_of_lt hlt, List.mem_cons_self⟩
      · rcases ih htail hline with ⟨hne, hold⟩ | ⟨methods, hold, hnew⟩ | ⟨hnone, hnew⟩
        · exact .inl ⟨hne, List.mem_cons_of_mem _ hold⟩
        · exact .inr (.inl ⟨methods, List.mem_cons_of_mem _ hold, hnew⟩)
        · refine .inr (.inr ⟨?_, hnew⟩)
          rw [List.map_cons, List.mem_cons, not_or]
          exact ⟨ne_of_gt hlt, hnone⟩
    · rcases List.mem_cons.1 hline with rfl | hline
      · exact .inr (.inl ⟨first.2, heq ▸ List.mem_cons_self, by rw [heq]⟩)
      · exact .inl ⟨heq ▸ ne_of_gt (hhead line hline), List.mem_cons_of_mem _ hline⟩
    · have hgt : ∀ x ∈ first :: report, route.path < x.1 := lt_of_not_le_head h hlt heq
      rcases List.mem_cons.1 hline with rfl | hline
      · refine .inr (.inr ⟨fun hmem => ?_, rfl⟩)
        obtain ⟨x, hx, hpath⟩ := List.mem_map.1 hmem
        exact ne_of_gt (hgt x hx) hpath
      · exact .inl ⟨ne_of_gt (hgt line hline), hline⟩

theorem IsReport.note (h : g.IsReport routes report) (hd : g.registry.disables route = true) :
    g.IsReport (routes ++ [route]) (noteDisabled route report) where
  increasing := by
    simp only [Text.octets_lt_iff]
    exact List.pairwise_map.2 (noteDisabled_sorted h.sorted)
  mem_paths_iff path := by
    rw [mem_paths_noteDisabled_iff, h.mem_paths_iff]
    constructor
    · rintro (rfl | ⟨method, hr, hfound⟩)
      · exact ⟨route.method, List.mem_append_right _ List.mem_cons_self, hd⟩
      · exact ⟨method, List.mem_append_left _ hr, hfound⟩
    · rintro ⟨method, hr, hfound⟩
      rcases List.mem_append.1 hr with hr | hr
      · exact .inr ⟨method, hr, hfound⟩
      · exact .inl (congrArg Route.path (List.mem_singleton.1 hr))
  methods line hline := by
    rcases of_mem_noteDisabled h.sorted hline with ⟨hne, hold⟩ | ⟨methods, hold, rfl⟩ | ⟨hnone, rfl⟩
    · rw [disabledMethods_concat_eq_self fun heq => absurd heq.symm hne]
      exact h.methods line hold
    · have hmethods := h.methods _ hold
      rw [disabledMethods_concat_of_disables hd]
      simpa only [noteMethod, ← hmethods.mem_iff] using hmethods.concat route.method
    · rw [disabledMethods_concat_of_disables hd, h.disabledMethods_eq_nil hnone]
      exact .of_nodup (List.nodup_singleton _)

theorem IsReport.skip (h : g.IsReport routes report) (hd : g.registry.disables route = false) :
    g.IsReport (routes ++ [route]) report where
  increasing := h.increasing
  mem_paths_iff path := by
    rw [h.mem_paths_iff]
    constructor
    · rintro ⟨method, hr, hfound⟩
      exact ⟨method, List.mem_append_left _ hr, hfound⟩
    · rintro ⟨method, hr, hfound⟩
      rcases List.mem_append.1 hr with hr | hr
      · exact ⟨method, hr, hfound⟩
      · obtain rfl := List.mem_singleton.1 hr
        exact absurd (hfound.symm.trans hd) Bool.noConfusion
  methods line hline := by
    rw [disabledMethods_concat_eq_self fun _ => hd]
    exact h.methods line hline

/-- The report is kept while the routes are read. -/
theorem reported_eq_foldl (g : Gate) (routes : List Route) :
    g.reported routes =
      routes.foldl (fun report route =>
        if g.registry.disables route then noteDisabled route report else report) [] := by
  induction routes using List.reverseRecOn with
  | nil => simp [reported, Registry.disabledAmong, reportPaths]
  | append_singleton routes route ih =>
    have hreport := isReport_reported g routes
    rw [List.foldl_append, List.foldl_cons, List.foldl_nil, ← ih]
    cases hd : g.registry.disables route with
    | true => exact (isReport_reported g _).eq (hreport.note hd)
    | false => exact (isReport_reported g _).eq (hreport.skip hd)

end EndpointGate.Gate
