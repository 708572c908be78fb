import EndpointGate.Proofs.Gate.Transparency
import EndpointGate.Proofs.Route.Segment
import Mathlib.Data.List.DropRight

/-!
# Routers nested twice

Adding a table to another one is a matter of its `rows`, the paths with what is served on them (`addAll?_congr`).
A router that is nested by itself has the rows of the inner one, each under the base path (`rows_addAll?`). Under
two base paths, one after the other, a path is where it is under the two put together (`under_under`). So a
router that is nested twice is the one that is nested once (`nest?_nest?`), and `nesting_composes` says what
that means for its routes, its answers and its reports.
-/

namespace EndpointGate

namespace Table

/-- The paths with what is served on them. -/
def rows (t : Table) : List (String × List Service) := t.map fun e => (e.path, e.services)

variable {place place' : String → String} {t t' : Table} {es es' : List Endpoint}

/-! ## Rows -/

/-- Of the endpoints that are added only the rows count. -/
theorem addAll?_congr (h : (rows es).map (Prod.map place id) = (rows es').map (Prod.map place' id)) :
    t.addAll? place es = t.addAll? place' es' := by
  have hrows (place : String → String) (es : List Endpoint) : t.addAll? place es =
      ((rows es).map (Prod.map place id)).foldlM (fun t x => t.add? x.1 x.2) t := by
    rw [List.foldlM_map, rows, List.foldlM_map]
    rfl
  rw [hrows, hrows, h]

/-- On paths that are new to the table, and go to different places, rows are added as they are. -/
theorem rows_addAll? (hnew : (t.map Endpoint.path ++ es.map fun e => place e.path).Nodup)
    (h : t.addAll? place es = some t') : t'.rows = t.rows ++ (rows es).map (Prod.map place id) := by
  induction es generalizing t with
  | nil =>
    obtain rfl := Option.some.inj h
    exact (List.append_nil _).symm
  | cons e es ih =>
    obtain ⟨u, hu, h⟩ := addAll?_cons h
    obtain ⟨-, ⟨template, -, -, -, rfl⟩ | ⟨l, x, r, rfl, -, hx, -⟩⟩ := add?_cases hu
    · rw [ih (by simpa using hnew) h]
      simp [rows]
    · -- A path that is new has no endpoint to be extended.
      have hmem : x.path ∈ (l ++ x :: r).map Endpoint.path := List.mem_map_of_mem (by simp)
      exact absurd (hx ▸ List.mem_cons_self) (List.disjoint_of_nodup_append hnew hmem)

theorem isRoutePath_add? {path : String} {services : List Service} (ht : ∀ e ∈ t, isRoutePath e.path = true)
    (h : t.add? path services = some t') : ∀ e ∈ t', isRoutePath e.path = true := by
  obtain ⟨hpath, ⟨template, -, -, -, rfl⟩ | ⟨l, e, r, rfl, rfl, -, -⟩⟩ := add?_cases h
  · exact List.forall_mem_append.2 ⟨ht, List.forall_mem_singleton.2 hpath⟩
  · exact forall_mem_replace ht id

theorem isRoutePath_addAll? (ht : ∀ e ∈ t, isRoutePath e.path = true) (h : t.addAll? place es = some t') :
    ∀ e ∈ t', isRoutePath e.path = true := by
  induction es generalizing t with
  | nil => exact Option.some.inj h ▸ ht
  | cons e es ih =>
    obtain ⟨u, hu, h⟩ := addAll?_cons h
    exact ih (isRoutePath_add? ht hu) h

end Table

namespace Router

variable {a b base path : String} {outer inner twice r : Router} {steps : List Step}

/-! ## Base paths -/

theorem toList_trimSlashes (s : String) : (trimSlashes s).toList = s.toList.rdropWhile (· == '/') :=
  String.toList_ofList

theorem trimSlashes_eq_self (h : a.toList.getLast? ≠ some '/') : trimSlashes a = a := by
  rw [← String.toList_inj, toList_trimSlashes, List.rdropWhile_eq_self_iff]
  intro hne hlast
  rw [List.getLast?_eq_some_getLast hne, beq_iff_eq.1 hlast] at h
  exact h rfl

theorem exists_mem_trimSlashes (h : ∃ c ∈ b.toList, c ≠ '/') : ∃ c ∈ (trimSlashes b).toList, c ≠ '/' := by
  rw [toList_trimSlashes]
  have hne : b.toList.rdropWhile (· == '/') ≠ [] := by
    rw [Ne, List.rdropWhile_eq_nil_iff]
    simpa using h
  exact ⟨_, List.getLast_mem hne, by simpa using List.rdropWhile_last_not _ _ hne⟩

theorem trimSlashes_append (a : String) (h : ∃ c ∈ b.toList, c ≠ '/') :
    trimSlashes (a ++ b) = a ++ trimSlashes b := by
  have hne : ¬(b.toList.reverse.dropWhile (· == '/')).isEmpty = true := by
    rw [List.isEmpty_iff, List.dropWhile_eq_nil_iff]
    simpa using h
  rw [← String.toList_inj, String.toList_append, toList_trimSlashes, toList_trimSlashes, String.toList_append]
  unfold List.rdropWhile
  rw [List.reverse_append, List.dropWhile_append, if_neg hne, List.reverse_append, List.reverse_reverse]

theorem under_ne_root (h : ∃ c ∈ base.toList, c ≠ '/') : under base path ≠ "/" := by
  obtain ⟨c, hc, hne⟩ := h
  intro hroot
  have hmem : c ∈ (under base path).toList := by
    unfold under
    split
    · exact hc
    · rw [String.toList_append]
      exact List.mem_append_left _ hc
  rw [hroot] at hmem
  exact hne (List.mem_singleton.1 hmem)

/-- The root of the inner base path is the inner base path, which is no root itself. -/
theorem under_under (a path : String) (h : ∃ c ∈ base.toList, c ≠ '/') :
    under a (under base path) = under (a ++ base) path := by
  rw [under, if_neg (under_ne_root h)]
  unfold under
  split
  · rfl
  · exact String.append_assoc.symm

theorem under_trimSlashes_append (path : String) (ha : a.toList.getLast? ≠ some '/')
    (hb : ∃ c ∈ b.toList, c ≠ '/') :
    under (trimSlashes a) (under (trimSlashes b) path) = under (trimSlashes (a ++ b)) path := by
  rw [trimSlashes_eq_self ha, trimSlashes_append a hb]
  exact under_under a path (exists_mem_trimSlashes hb)

/-- Paths that are not empty go to different places. -/
theorem eq_of_under_eq {p q : String} (hp : p ≠ "") (hq : q ≠ "") (h : under base p = under base q) :
    p = q := by
  have hempty {s : String} (hs : base = base ++ s) : s = "" := by
    rw [← String.toList_inj, String.toList_append] at hs
    exact String.toList_inj.1 (List.self_eq_append_right.1 hs)
  unfold under at h
  split_ifs at h with hp' hq' hq'
  · rw [hp', hq']
  · exact absurd (hempty h) hq
  · exact absurd (hempty h.symm) hp
  · exact (String.append_right_inj base).1 h

theorem isBasePath_iff : isBasePath base = true ↔
    base.toList.head? = some '/' ∧ 1 < base.length ∧
      ∀ segment ∈ Text.pieces (· == '/') base.toList,
        (segment.head? ≠ some ':' ∧ segment.head? ≠ some '*') ∧ isRestSegment segment = false := by
  simp only [isBasePath, isRoutePath, Bool.and_eq_true, List.all_eq_true, decide_eq_true_eq, Bool.not_eq_true',
    List.any_eq_false, beq_iff_eq, forall_and, Bool.or_eq_false_iff, beq_eq_false_iff_ne, Bool.not_eq_true]
  tauto

theorem isBasePath_append (ha : isBasePath a = true) (hb : isBasePath b = true) : isBasePath (a ++ b) = true := by
  obtain ⟨hheada, hlength, hsegmentsa⟩ := isBasePath_iff.1 ha
  obtain ⟨hheadb, -, hsegmentsb⟩ := isBasePath_iff.1 hb
  obtain ⟨as, has⟩ := List.head?_eq_some_iff.1 hheada
  obtain ⟨bs, hbs⟩ := List.head?_eq_some_iff.1 hheadb
  rw [hbs, Text.pieces_cons_of_isEnd rfl, List.forall_mem_cons] at hsegmentsb
  refine isBasePath_iff.2 ⟨?_, ?_, ?_⟩
  · rw [String.toList_append, has]
    rfl
  · rw [String.length_append]
    exact Nat.lt_add_right b.length hlength
  · rw [String.toList_append, hbs, Text.pieces_append_cons rfl, List.forall_mem_append]
    exact ⟨hsegmentsa, hsegmentsb.2⟩

/-! ## Nesting -/

theorem isRoutePath_invariant :
    Invariant (fun _ => True) fun r => ∀ e ∈ r.table, isRoutePath e.path = true where
  empty := nofun
  route _ hr h := by
    obtain ⟨-, table, ht, rfl⟩ := route?_cases h
    exact Table.isRoutePath_add? hr ht
  nest hr _ h := by
    obtain ⟨-, table, ht, rfl⟩ := nest?_cases h
    exact Table.isRoutePath_addAll? hr ht
  merge hr _ h := by
    obtain ⟨table, ht, rfl⟩ := merge?_cases h
    exact Table.isRoutePath_addAll? hr ht

/-- No two endpoints of a router go to one place under a base path. -/
theorem nodup_under (hr : ofSteps? steps = some r) : (r.table.map fun e => under base e.path).Nodup := by
  have hwell := (Agrees.of_ofSteps? hr).wellFormed
  have hpath : ∀ e ∈ r.table, e.path ≠ "" := by
    intro e he hempty
    have hroute := isRoutePath_invariant.ofSteps? (fun _ _ => trivial) hr e he
    rw [hempty] at hroute
    nomatch head?_of_isRoutePath hroute
  refine List.Nodup.map_on (fun e he f hf heq => ?_) hwell.nodup_templates.of_map
  exact hwell.eq_of_path_eq he hf (eq_of_under_eq (hpath e he) (hpath f hf) heq)

/-- A router that is nested twice is the one that is nested once. -/
theorem nest?_nest? (hr : ofSteps? steps = some r) (ha : a.toList.getLast? ≠ some '/')
    (hb : ∃ c ∈ b.toList, c ≠ '/') (hinner : empty.nest? b r = some inner)
    (htwice : outer.nest? a inner = some twice) : outer.nest? (a ++ b) r = some twice := by
  obtain ⟨hbase, t, ht, rfl⟩ := nest?_cases hinner
  obtain ⟨hbase', table, htable, rfl⟩ := nest?_cases htwice
  have hunder := fun path => under_trimSlashes_append path ha hb
  have hnew : (empty.table.map Endpoint.path ++ r.table.map fun e => under (trimSlashes b) e.path).Nodup :=
    nodup_under hr
  have hrows : Table.rows t = r.table.rows.map (Prod.map (under (trimSlashes b)) id) :=
    Table.rows_addAll? hnew ht
  -- The templates that were read for the inner nesting are left behind: from the rows they are read again.
  have hplaced : r.table.rows.map (Prod.map (under (trimSlashes (a ++ b))) id) =
      (Table.rows t).map (Prod.map (under (trimSlashes a)) id) := by
    rw [hrows, List.map_map]
    exact List.map_congr_left fun x _ => Prod.ext (hunder x.1).symm rfl
  have hboth : isBasePath (trimSlashes (a ++ b)) = true := by
    rw [trimSlashes_append a hb, ← trimSlashes_eq_self ha]
    exact isBasePath_append hbase' hbase
  unfold nest?
  dsimp only
  rw [if_pos hboth, Table.addAll?_congr hplaced, htable]
  simp [empty, hunder]

/-- **Nesting.** Under a base path that does not end with a slash, and under another one behind it that is not
only slashes, every path is where it is under the two put together. So a router that can be nested under the one
and then under the other can be nested at once, and it has the same routes in the same order, answers every run
of requests in the same way, behind any gate and without one, and has the same report. -/
theorem nesting_composes :
    ∀ (steps : List Step) (r : Router) (a b : String), ofSteps? steps = some r →
      a.toList.getLast? ≠ some '/' → (∃ c ∈ b.toList, c ≠ '/') →
      (∀ path, under (trimSlashes a) (under (trimSlashes b) path) = under (trimSlashes (a ++ b)) path) ∧
      ∀ outer inner twice : Router, empty.nest? b r = some inner → outer.nest? a inner = some twice →
        outer.nest? (a ++ b) r = some twice ∧
        ∀ once, outer.nest? (a ++ b) r = some once →
          twice.routes = once.routes ∧
          (∀ gate rs, GatedRouter.answers ⟨twice, gate⟩ rs = GatedRouter.answers ⟨once, gate⟩ rs) ∧
          ∀ gate, GatedRouter.report ⟨twice, gate⟩ = GatedRouter.report ⟨once, gate⟩ := by
  intro steps r a b hr ha hb
  refine ⟨fun path => under_trimSlashes_append path ha hb, fun outer inner twice hinner htwice => ?_⟩
  have honce := nest?_nest? hr ha hb hinner htwice
  refine ⟨honce, fun once h => ?_⟩
  obtain rfl := Option.some.inj (honce.symm.trans h)
  exact ⟨rfl, fun _ _ => rfl, fun _ => rfl⟩

/-- The root and two slashes are routes under base paths with and without slashes at their ends. -/
theorem nesting_composes_slashes :
    ∃ r inner twice once,
      ofSteps? [.route "GET" "/", .route "PUT" "//", .nest "/\x7bv\x7d/" [.route "GET" "/", .route "GET" "/x"]] =
        some r ∧
      empty.nest? "/b//" r = some inner ∧ empty.nest? "/a" inner = some twice ∧
      empty.nest? "/a/b//" r = some once ∧ twice.routes = once.routes ∧
      twice.routes.map (·.path) = ["/a/b", "/a/b//", "/a/b/\x7bv\x7d", "/a/b/\x7bv\x7d/x"] := by
  have hbuilt : ((ofSteps? [.route "GET" "/", .route "PUT" "//",
        .nest "/\x7bv\x7d/" [.route "GET" "/", .route "GET" "/x"]]).bind fun r =>
      (empty.nest? "/b//" r).bind (empty.nest? "/a")).map (fun twice => twice.routes.map (·.path)) =
        some ["/a/b", "/a/b//", "/a/b/\x7bv\x7d", "/a/b/\x7bv\x7d/x"] := by decide +kernel
  obtain ⟨twice, htwice, hpaths⟩ := Option.map_eq_some_iff.1 hbuilt
  obtain ⟨r, hr, htwice⟩ := Option.bind_eq_some_iff.1 htwice
  obtain ⟨inner, hinner, htwice⟩ := Option.bind_eq_some_iff.1 htwice
  have hnest := nesting_composes _ r "/a" "/b//" hr (by decide) ⟨'b', by decide, by decide⟩
  obtain ⟨honce, hsame⟩ := hnest.2 _ _ _ hinner htwice
  exact ⟨r, inner, twice, twice, hr, hinner, htwice, honce, (hsame _ honce).1, hpaths⟩

end Router

end EndpointGate
