import EndpointGate.Proofs.Gate.Report
import EndpointGate.Proofs.Pattern.Language
import EndpointGate.Proofs.Router.Building

/-!
# Sample paths, segment by segment

No parameter goes beyond a slash, so the sample of a path is made of the samples of its segments
(`fill_append_slash`, `segments_sample`), of which none vanishes (`fill_eq_nil_iff`). A path is its own sample
just when it has no parameter (`fill_eq_self_iff`). A nested route has the sample of its base path in front
of its own sample, but a route to the root has that of the base path alone (`samplePath_nest`).
-/

namespace EndpointGate

namespace Route

/-- Somewhere in the text a name stands between braces. -/
def HasBraces (cs : List Char) : Prop :=
  ∃ before name after, cs = before ++ '{' :: (name ++ '}' :: after) ∧
    ∀ c ∈ name, c ≠ '/' ∧ c ≠ '{' ∧ c ≠ '}'

/-- What stands between the slashes of a path, empty texts included. -/
def segments (path : String) : List String := (path.toList.splitOn '/').map String.ofList

variable {within : Within} {cs : List Char} {c : Char} {path : String}

/-! ## Braces -/

theorem isNameChar_iff : isNameChar c = true ↔ c ≠ '/' ∧ c ≠ '{' ∧ c ≠ '}' := by
  simp [isNameChar, and_assoc]

theorem closesBrace_cons (c : Char) (cs : List Char) :
    closesBrace (c :: cs) = if isNameChar c then closesBrace cs else c == '}' := by
  unfold closesBrace
  rw [List.dropWhile_cons]
  split <;> simp

theorem closesBrace_iff :
    closesBrace cs = true ↔ ∃ name after, cs = name ++ '}' :: after ∧ ∀ c ∈ name, c ≠ '/' ∧ c ≠ '{' ∧ c ≠ '}' := by
  induction cs with
  | nil => simp [closesBrace]
  | cons c cs ih =>
    rw [closesBrace_cons]
    split
    · next hc =>
      rw [ih]
      have hname := isNameChar_iff.1 hc
      constructor
      · rintro ⟨name, after, rfl, h⟩
        exact ⟨c :: name, after, rfl, List.forall_mem_cons.2 ⟨hname, h⟩⟩
      · rintro ⟨name, after, heq, h⟩
        cases name with
        | nil => exact absurd (List.cons.inj heq).1 hname.2.2
        | cons d name =>
          obtain ⟨rfl, rfl⟩ := List.cons.inj heq
          exact ⟨name, after, rfl, fun e he => h e (List.mem_cons_of_mem _ he)⟩
    · next hc =>
      rw [beq_iff_eq]
      constructor
      · rintro rfl
        exact ⟨[], cs, rfl, nofun⟩
      · rintro ⟨name, after, heq, h⟩
        cases name with
        | nil => exact (List.cons.inj heq).1
        | cons d name =>
          obtain ⟨rfl, rfl⟩ := List.cons.inj heq
          exact absurd (isNameChar_iff.2 (h c List.mem_cons_self)) hc

/-- Behind a slash no brace is closed. -/
theorem closesBrace_append_slash (as bs : List Char) : closesBrace (as ++ '/' :: bs) = closesBrace as := by
  induction as with
  | nil => rfl
  | cons a as ih => rw [List.cons_append, closesBrace_cons, closesBrace_cons, ih]

theorem hasBraces_cons : HasBraces (c :: cs) ↔ (c = '{' ∧ closesBrace cs = true) ∨ HasBraces cs := by
  rw [closesBrace_iff]
  constructor
  · rintro ⟨before, name, after, heq, h⟩
    cases before with
    | nil =>
      obtain ⟨rfl, rfl⟩ := List.cons.inj heq
      exact .inl ⟨rfl, name, after, rfl, h⟩
    | cons d before =>
      obtain ⟨rfl, rfl⟩ := List.cons.inj heq
      exact .inr ⟨before, name, after, rfl, h⟩
  · rintro (⟨rfl, name, after, rfl, h⟩ | ⟨before, name, after, rfl, h⟩)
    · exact ⟨[], name, after, rfl, h⟩
    · exact ⟨c :: before, name, after, rfl, h⟩

/-! ## Segments -/

/-- What stands behind a slash is filled by itself. Between braces a reader comes to a slash only if they are
not closed. -/
theorem fill_append_slash_of (as bs : List Char) (h : within = .braces → closesBrace as = true) :
    fill within (as ++ '/' :: bs) = fill within as ++ '/' :: fill .none bs := by
  fun_induction fill within as with
  | case1 within =>
    cases within with
    | none => simp [fill, closesBrace]
    | braces => simp [closesBrace] at h
    | colon => simp [fill, endsColon]
  | case2 cs ih => simp [fill, ih (by simp)]
  | case3 c cs hc ih =>
    have hclosed := h rfl
    rw [closesBrace_cons] at hclosed
    have htail : closesBrace cs = true := by
      split at hclosed
      · exact hclosed
      · exact absurd (beq_iff_eq.1 hclosed) hc
    simp [fill, hc, ih fun _ => htail]
  | case4 c cs hend ih => simp [fill, hend, ih (by simp)]
  | case5 c cs hend ih => simp [fill, hend, ih (by simp)]
  | case6 c cs hopen ih => simp [fill, hopen, closesBrace_append_slash, ih fun _ => hopen.2]
  | case7 cs _ ih => simp [fill, ih (by simp)]
  | case8 c cs hopen hcolon hwild ih => simp [fill, hopen, hcolon, hwild, closesBrace_append_slash, ih (by simp)]
  | case9 c cs hopen hcolon hwild ih => simp [fill, hopen, hcolon, hwild, closesBrace_append_slash, ih (by simp)]

theorem fill_append_slash (as bs : List Char) :
    fill .none (as ++ '/' :: bs) = fill .none as ++ '/' :: fill .none bs :=
  fill_append_slash_of as bs (by simp)

theorem fill_slash (cs : List Char) : fill .none ('/' :: cs) = '/' :: fill .none cs := fill_append_slash [] cs

theorem fill_eq_nil_iff : fill .none cs = [] ↔ cs = [] := by
  constructor
  · intro h
    cases cs with
    | nil => rfl
    | cons c cs =>
      unfold fill at h
      split_ifs at h <;> simp [placeholder] at h
  · rintro rfl
    rfl

theorem not_slash_mem_fill (h : '/' ∉ cs) : '/' ∉ fill .none cs := by
  intro hmem
  rcases mayOccur_of_mem_fill hmem with hmem | hmem
  · exact absurd hmem (by decide)
  · exact h hmem.1

theorem splitOn_fill (cs : List Char) :
    (fill .none cs).splitOn '/' = (cs.splitOn '/').map (fill .none) := by
  -- both parts around a slash are shorter
  induction hn : cs.length using Nat.strongRecOn generalizing cs with
  | ind n ih =>
    subst hn
    by_cases h : '/' ∈ cs
    · obtain ⟨as, bs, rfl⟩ := List.append_of_mem h
      rw [fill_append_slash, List.splitOn_append_cons_self, List.splitOn_append_cons_self, List.map_append,
        ih as.length (by simp) as rfl, ih bs.length (by simp; omega) bs rfl]
    · rw [List.splitOn_eq_singleton h, List.splitOn_eq_singleton (not_slash_mem_fill h)]
      rfl

/-! ## Texts without parameters -/

theorem placeholder_append_ne (xs : List Char) (h : c ≠ 'p') : placeholder ++ xs ≠ c :: cs := by
  intro heq
  exact h (List.cons.inj heq).1.symm

/-- Where a parameter begins the filled text differs. -/
theorem fill_cons_eq_self_iff : fill .none (c :: cs) = c :: cs ↔
    ¬(c = '{' ∧ closesBrace cs = true) ∧ IsLiteral c ∧ fill .none cs = cs := by
  rw [fill]
  unfold IsLiteral
  split_ifs with hopen hcolon hwild
  · simp [hopen, placeholder_append_ne]
  · simp [hcolon, placeholder_append_ne]
  · rcases hwild with rfl | rfl <;> simp [placeholder_append_ne]
  · simp [hopen, hcolon, not_or.1 hwild]

theorem fill_eq_self_iff : fill .none cs = cs ↔ (∀ c ∈ cs, IsLiteral c) ∧ ¬HasBraces cs := by
  induction cs with
  | nil => simp [fill, HasBraces]
  | cons c cs ih =>
    rw [fill_cons_eq_self_iff, ih, List.forall_mem_cons, hasBraces_cons, not_or]
    tauto

/-! ## Whole paths -/

theorem toList_append_slash (a b : String) : (a ++ "/" ++ b).toList = a.toList ++ '/' :: b.toList := by simp

theorem sample_append_slash (a b : String) : sample (a ++ "/" ++ b) = sample a ++ "/" ++ sample b := by
  rw [← String.toList_inj, toList_append_slash, toList_sample, toList_append_slash, fill_append_slash,
    toList_sample, toList_sample]

theorem sample_eq_empty_iff : sample path = "" ↔ path = "" := by
  rw [← String.toList_inj, ← String.toList_inj, toList_sample]
  exact fill_eq_nil_iff

theorem segments_sample (path : String) : segments (sample path) = (segments path).map sample := by
  unfold segments
  rw [toList_sample, splitOn_fill, List.map_map, List.map_map]
  apply List.map_congr_left
  intro segment _
  simp [sample]

theorem sample_eq_self_iff_notMem :
    sample path = path ↔ (∀ c ∈ path.toList, IsLiteral c) ∧ ¬HasBraces path.toList := by
  rw [← String.toList_inj, toList_sample, fill_eq_self_iff]

/-! ## Nested routes -/

/-- A path that starts with a slash is filled by itself behind a base path. -/
theorem sample_append (base : String) (h : path.toList.head? = some '/') :
    sample (base ++ path) = sample base ++ sample path := by
  obtain ⟨rest, hrest⟩ := List.head?_eq_some_iff.1 h
  rw [← String.toList_inj, String.toList_append, toList_sample, toList_sample, toList_sample,
    String.toList_append, hrest, fill_append_slash, fill_slash]

theorem sample_under (base : String) (h : path.toList.head? = some '/') :
    sample (under base path) = if path = "/" then sample base else sample base ++ sample path := by
  unfold under
  split
  · rfl
  · exact sample_append base h

end Route

namespace Router

variable {r r' inner : Router} {steps : List Step} {base : String}

theorem head?_of_isRoutePath {path : String} (h : isRoutePath path = true) : path.toList.head? = some '/' :=
  beq_iff_eq.1 (Bool.and_eq_true_iff.1 h).1

/-- The paths of the record start with a slash. -/
theorem slash_invariant :
    Invariant (fun _ => True) fun r => ∀ x ∈ r.routes, x.path.toList.head? = some '/' where
  empty := nofun
  route _ hr h := by
    obtain ⟨-, table, ht, rfl⟩ := route?_cases h
    have hpath := head?_of_isRoutePath (Table.add?_cases ht).1
    exact List.forall_mem_append.2 ⟨hr, List.forall_mem_singleton.2 hpath⟩
  nest {r r' base inner} hr _ h := by
    obtain ⟨hbase, table, -, rfl⟩ := nest?_cases h
    have hslash : (trimSlashes base).toList.head? = some '/' :=
      head?_of_isRoutePath (Bool.and_eq_true_iff.1 (Bool.and_eq_true_iff.1 hbase).1).1
    refine List.forall_mem_append.2 ⟨hr, ?_⟩
    rw [List.forall_mem_map]
    intro x _
    show (under (trimSlashes base) x.path).toList.head? = _
    unfold under
    split <;> simp [hslash]
  merge hr hother h := by
    obtain ⟨table, -, rfl⟩ := merge?_cases h
    exact List.forall_mem_append.2 ⟨hr, hother⟩

/-- Nesting adds the samples of the nested routes behind that of the base path. -/
theorem samplePath_nest (hinner : ofSteps? steps = some inner) (h : r.nest? base inner = some r') :
    r'.routes.map (·.samplePath) = r.routes.map (·.samplePath) ++ inner.routes.map fun x =>
      if x.path = "/" then Route.sample (trimSlashes base)
      else Route.sample (trimSlashes base) ++ x.samplePath := by
  obtain ⟨-, table, -, rfl⟩ := nest?_cases h
  have hslash := slash_invariant.ofSteps? (fun _ _ => trivial) hinner
  rw [List.map_append, List.map_map]
  congr 1
  apply List.map_congr_left
  intro x hx
  exact Route.sample_under _ (hslash x hx)

/-- **Segments.** The sample of two paths with a slash between them is that of the one, a slash and that of the
other. Segments stay where they are and none becomes empty, no character that begins a parameter is left, and
just the paths without parameters stay as they are. The samples of nested routes are those of the inner
routes behind that of the base path, which stands alone where the inner path is the root. -/
theorem sample_by_segments :
    (∀ a b, Route.sample (a ++ "/" ++ b) = Route.sample a ++ "/" ++ Route.sample b) ∧
    (∀ segment, Route.sample segment = "" ↔ segment = "") ∧
    (∀ path, Route.segments (Route.sample path) = (Route.segments path).map Route.sample) ∧
    (∀ path, ∀ c ∈ (Route.sample path).toList, c ≠ ':' ∧ c ≠ '+' ∧ c ≠ '*') ∧
    (∀ path, Route.sample path = path ↔
      (∀ c ∈ path.toList, c ≠ ':' ∧ c ≠ '+' ∧ c ≠ '*') ∧ ¬Route.HasBraces path.toList) ∧
    ∀ (steps : List Step) (inner r r' : Router) (base : String), ofSteps? steps = some inner →
      r.nest? base inner = some r' →
        r'.routes.map (·.samplePath) = r.routes.map (·.samplePath) ++ inner.routes.map fun x =>
          if x.path = "/" then Route.sample (trimSlashes base)
          else Route.sample (trimSlashes base) ++ x.samplePath := by
  refine ⟨Route.sample_append_slash, fun _ => Route.sample_eq_empty_iff, Route.segments_sample, ?_, ?_, ?_⟩
  · exact fun _ _ => Route.isLiteral_of_mem_sample
  · exact fun _ => Route.sample_eq_self_iff_notMem
  · exact fun _ _ _ _ _ => samplePath_nest

/-- Routes under a base path with a parameter, one of them at the base path itself. -/
theorem samplePath_nest_parameters :
    ∃ inner r', ofSteps? [.route "GET" "/", .route "PUT" "/a:b-c/\x7bid\x7d"] = some inner ∧
      empty.nest? "/\x7bv\x7d/" inner = some r' ∧
      r'.routes.map (·.path) = ["/\x7bv\x7d", "/\x7bv\x7d/a:b-c/\x7bid\x7d"] ∧
      r'.routes.map (·.samplePath) = ["/param", "/param/aparam-c/param"] := by
  let inner : Router := ⟨[⟨"GET", "/"⟩, ⟨"PUT", "/a:b-c/\x7bid\x7d"⟩],
    [⟨"/", .literal "/".toList, [.method "GET"]⟩,
      ⟨"/a:b-c/\x7bid\x7d", Template.literal "/a:b-c/".toList ++ [.param], [.method "PUT"]⟩]⟩
  let nested : Router := ⟨[⟨"GET", "/\x7bv\x7d"⟩, ⟨"PUT", "/\x7bv\x7d/a:b-c/\x7bid\x7d"⟩],
    [⟨"/\x7bv\x7d", [.char '/', .param], [.method "GET"]⟩,
      ⟨"/\x7bv\x7d/a:b-c/\x7bid\x7d",
        [.char '/', .param] ++ Template.literal "/a:b-c/".toList ++ [.param], [.method "PUT"]⟩]⟩
  have hsteps : ofSteps? [.route "GET" "/", .route "PUT" "/a:b-c/\x7bid\x7d"] = some inner := by
    decide +kernel
  have hnest : empty.nest? "/\x7bv\x7d/" inner = some nested := by decide +kernel
  have hsamples := sample_by_segments.2.2.2.2.2 _ inner empty nested _ hsteps hnest
  refine ⟨inner, nested, hsteps, hnest, rfl, ?_⟩
  rw [hsamples]
  decide +kernel

/-- A route to the root is recorded as the base path, and has no slash behind it. -/
theorem not_appended_nested_root :
    ∃ router, ofSteps? [.nest "/a" [.route "GET" "/"]] = some router ∧
      router.routes = [⟨"GET", "/a"⟩] ∧
      router.routes.map (·.samplePath) ≠ [Route.sample "/a" ++ Route.sample "/"] ∧
      (Gate.ofRegistry (Registry.empty.insert "/a/" .any)).disabledRoutes router.routes = [] := by
  refine ⟨⟨[⟨"GET", "/a"⟩], [⟨"/a", .literal "/a".toList, [.method "GET"]⟩]⟩, by decide +kernel, rfl, ?_, ?_⟩
  · decide +kernel
  · have hnone : (Registry.empty.insert "/a/" .any).disabledAmong [⟨"GET", "/a"⟩] = [] := by decide
    show (Gate.reportPaths ((Registry.empty.insert "/a/" .any).disabledAmong _)).map _ = []
    rw [hnone]
    simp [Gate.reportPaths]

end Router

end EndpointGate
