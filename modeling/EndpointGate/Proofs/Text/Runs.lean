import EndpointGate.Text.Split
import Mathlib.Data.List.TakeWhile

/-!
# Runs of characters

`Runs isEnd cs ts` takes a text apart into its maximal runs of characters that are no ends. Every text is
taken apart in one way, which `fields` computes (`runs_iff`).
-/

namespace EndpointGate.Text

/-- The parts of a text are its maximal runs of characters that do not end a part. -/
inductive Runs (isEnd : Char → Bool) : List Char → List (List Char) → Prop
  | ends {s : List Char} (hs : ∀ c ∈ s, isEnd c = true) : Runs isEnd s []
  | run {s t rest : List Char} {ts : List (List Char)} (hs : ∀ c ∈ s, isEnd c = true) (ht : t ≠ [])
      (hrun : ∀ c ∈ t, isEnd c = false) (hend : ∀ c ∈ rest.head?, isEnd c = true)
      (hrest : Runs isEnd rest ts) : Runs isEnd (s ++ t ++ rest) (t :: ts)

variable {p isEnd : Char → Bool} {s t cs rest : List Char} {ts : List (List Char)}

/-! ## Cutting where a run ends -/

theorem takeWhile_append_of_head? (hs : ∀ c ∈ s, p c = true) (hrest : ∀ c ∈ rest.head?, p c = false) :
    (s ++ rest).takeWhile p = s := by
  rw [List.takeWhile_append_of_pos hs]
  cases rest with
  | nil => simp
  | cons c rest => simp [hrest c rfl]

theorem dropWhile_append_of_head? (hs : ∀ c ∈ s, p c = true) (hrest : ∀ c ∈ rest.head?, p c = false) :
    (s ++ rest).dropWhile p = rest := by
  rw [List.dropWhile_append_of_pos hs]
  cases rest with
  | nil => rfl
  | cons c rest => simp [hrest c rfl]

/-! ## Pieces -/

theorem pieces_eq_splitOnP (isEnd : Char → Bool) (cs : List Char) : pieces isEnd cs = cs.splitOnP isEnd := by
  induction cs with
  | nil => rw [pieces, List.splitOnP_nil]
  | cons c cs ih =>
    rw [pieces, List.splitOnP_cons_eq_if_modifyHead, ih]
    split
    · rfl
    · cases hp : cs.splitOnP isEnd with
      | nil => exact absurd hp (List.splitOnP_ne_nil _ _)
      | cons p ps => rfl

/-- What is joined by a character that is nowhere in it is taken apart again. -/
theorem pieces_intercalate {sep : Char} (hne : ts ≠ []) (h : ∀ t ∈ ts, sep ∉ t) :
    pieces (· == sep) ([sep].intercalate ts) = ts := by
  rw [pieces_eq_splitOnP]
  exact List.splitOn_intercalate sep h hne

/-! ## Fields -/

theorem fields_cons_of_isEnd {c : Char} (h : isEnd c = true) (cs : List Char) :
    fields isEnd (c :: cs) = fields isEnd cs := by
  simp [fields, pieces_cons_of_isEnd h]

theorem fields_append_of_ends (hs : ∀ c ∈ s, isEnd c = true) (cs : List Char) :
    fields isEnd (s ++ cs) = fields isEnd cs := by
  induction s with
  | nil => rfl
  | cons c s ih =>
    rw [List.cons_append, fields_cons_of_isEnd (hs c List.mem_cons_self)]
    exact ih fun d hd => hs d (List.mem_cons_of_mem c hd)

theorem fields_append_left_of_ends (hs : ∀ c ∈ s, isEnd c = true) (cs : List Char) :
    fields isEnd (cs ++ s) = fields isEnd cs := by
  cases s with
  | nil => rw [List.append_nil]
  | cons c s =>
    have hnone := fields_append_of_ends (fun d hd => hs d (List.mem_cons_of_mem c hd)) []
    rw [List.append_nil] at hnone
    rw [fields_append_cons (hs c List.mem_cons_self), hnone]
    exact List.append_nil _

theorem pieces_of_run (ht : ∀ c ∈ t, isEnd c = false) : pieces isEnd t = [t] := by
  induction t with
  | nil => rfl
  | cons c t ih =>
    unfold pieces
    rw [ih fun d hd => ht d (List.mem_cons_of_mem c hd), ht c List.mem_cons_self]
    rfl

theorem fields_of_run (hne : t ≠ []) (ht : ∀ c ∈ t, isEnd c = false) : fields isEnd t = [t] := by
  simp [fields, pieces_of_run ht, hne]

theorem fields_append_of_run (hne : t ≠ []) (ht : ∀ c ∈ t, isEnd c = false)
    (hrest : ∀ c ∈ rest.head?, isEnd c = true) : fields isEnd (t ++ rest) = t :: fields isEnd rest := by
  cases rest with
  | nil =>
    rw [List.append_nil, fields_of_run hne ht]
    rfl
  | cons c rest =>
    have hc := hrest c rfl
    rw [fields_append_cons hc, fields_of_run hne ht, fields_cons_of_isEnd hc]
    rfl

/-- Runs with one separator between them are taken apart again. -/
theorem fields_intercalate {sep : Char} (hsep : isEnd sep = true)
    (h : ∀ t ∈ ts, t ≠ [] ∧ ∀ c ∈ t, isEnd c = false) : fields isEnd ([sep].intercalate ts) = ts := by
  induction ts with
  | nil => rfl
  | cons t ts ih =>
    obtain ⟨hne, ht⟩ := h t List.mem_cons_self
    have hrest := ih fun u hu => h u (List.mem_cons_of_mem t hu)
    cases ts with
    | nil => rw [List.intercalate_singleton, fields_of_run hne ht]
    | cons u ts =>
      rw [List.intercalate_cons_cons, List.append_assoc, List.singleton_append,
        fields_append_of_run hne ht (by simpa using hsep), fields_cons_of_isEnd hsep, hrest]

/-! ## Runs -/

theorem Runs.fields_eq (h : Runs isEnd cs ts) : fields isEnd cs = ts := by
  induction h with
  | ends hs =>
    have hends := fields_append_of_ends hs []
    rwa [List.append_nil] at hends
  | run hs ht hrun hend _ ih =>
    rw [List.append_assoc, fields_append_of_ends hs, fields_append_of_run ht hrun hend, ih]

theorem Runs.mem_of_mem (h : Runs isEnd cs ts) (ht : t ∈ ts) {c : Char} (hc : c ∈ t) :
    c ∈ cs ∧ isEnd c = false := by
  induction h with
  | ends => exact absurd ht List.not_mem_nil
  | run _ _ hrun _ _ ih =>
    rcases List.mem_cons.1 ht with rfl | ht
    · exact ⟨by simp [hc], hrun c hc⟩
    · exact ⟨List.mem_append_right _ (ih ht).1, (ih ht).2⟩

theorem Runs.ne_nil_of_mem (h : Runs isEnd cs ts) (ht : t ∈ ts) : t ≠ [] := by
  induction h with
  | ends => exact absurd ht List.not_mem_nil
  | run _ hne _ _ _ ih =>
    rcases List.mem_cons.1 ht with rfl | ht
    · exact hne
    · exact ih ht

/-- Put together, the runs are the text without its ends. -/
theorem Runs.flatten_eq (h : Runs isEnd cs ts) : ts.flatten = cs.filter fun c => !isEnd c := by
  induction h with
  | ends hs => simpa using hs
  | @run s t rest ts hs _ hrun _ _ ih =>
    have hends : s.filter (fun c => !isEnd c) = [] := List.filter_eq_nil_iff.2 (by simpa using hs)
    have hself : t.filter (fun c => !isEnd c) = t := List.filter_eq_self.2 (by simpa using hrun)
    rw [List.flatten_cons, ih, List.filter_append, List.filter_append, hends, hself, List.nil_append]

/-- One character more in front is an end, begins a run or prolongs the first one. -/
theorem Runs.exists_cons (h : Runs isEnd cs ts) (c : Char) : ∃ ts', Runs isEnd (c :: cs) ts' := by
  cases hc : isEnd c with
  | true =>
    cases h with
    | ends hs => exact ⟨[], .ends (List.forall_mem_cons.2 ⟨hc, hs⟩)⟩
    | run hs ht hrun hend hrest =>
      exact ⟨_, .run (List.forall_mem_cons.2 ⟨hc, hs⟩) ht hrun hend hrest⟩
  | false =>
    have hone : ∀ d ∈ [c], isEnd d = false := List.forall_mem_singleton.2 hc
    cases h with
    | ends hs =>
      refine ⟨_, .run (s := []) (t := [c]) nofun (List.cons_ne_nil c []) hone ?_ (.ends hs)⟩
      intro d hd
      exact hs d (List.mem_of_mem_head? hd)
    | @run s t rest ts hs ht hrun hend hrest =>
      cases s with
      | nil =>
        exact ⟨_, .run (s := []) (t := c :: t) nofun (List.cons_ne_nil c t)
          (List.forall_mem_cons.2 ⟨hc, hrun⟩) hend hrest⟩
      | cons d s =>
        refine ⟨_, .run (s := []) (t := [c]) nofun (List.cons_ne_nil c []) hone ?_
          (.run hs ht hrun hend hrest)⟩
        rintro _ ⟨⟩
        exact hs d List.mem_cons_self

theorem runs_fields (isEnd : Char → Bool) (cs : List Char) : Runs isEnd cs (fields isEnd cs) := by
  have hall : ∃ ts, Runs isEnd cs ts := by
    induction cs with
    | nil => exact ⟨[], .ends nofun⟩
    | cons c cs ih =>
      obtain ⟨ts, hts⟩ := ih
      exact hts.exists_cons c
  obtain ⟨ts, hts⟩ := hall
  rwa [hts.fields_eq]

theorem flatten_pieces (isEnd : Char → Bool) (cs : List Char) :
    (pieces isEnd cs).flatten = cs.filter fun c => !isEnd c := by
  rw [← List.flatten_filter_not_isEmpty]
  exact (runs_fields isEnd cs).flatten_eq

theorem runs_iff : Runs isEnd cs ts ↔ fields isEnd cs = ts := by
  constructor
  · exact Runs.fields_eq
  · rintro rfl
    exact runs_fields isEnd cs

end EndpointGate.Text
