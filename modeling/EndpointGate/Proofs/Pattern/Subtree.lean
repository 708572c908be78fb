import EndpointGate.Proofs.Pattern.Language
import EndpointGate.Proofs.Text.Runs

/-!
# Patterns of subtrees

A pattern with `/**` behind it matches what lies at or below the paths that the pattern matches: some number
of segments that the path starts with make up a path which the pattern matches (`matches?_subtree_iff`).
-/

namespace EndpointGate.Pattern

/-- The path with these segments. -/
def pathOf (parts : List (List Char)) : String := String.ofList ('/' :: ['/'].intercalate parts)

/-- The pattern text with `/**` behind it. -/
def subtree (pattern : String) : String := pattern ++ "/**"

variable {ps qs parts : List (List Char)} {pattern path : String}

/-! ## Segments -/

/-- With `**` behind them the segments of a pattern take every path that starts with what they take. -/
theorem takes_concat_any_iff : Takes (ps ++ [['*', '*']]) qs ↔ ∃ taken, taken <+: qs ∧ Takes ps taken := by
  constructor
  · intro h
    induction ps generalizing qs with
    | nil => exact ⟨[], List.nil_prefix, .nil⟩
    | cons p ps ih =>
      cases h with
      | any taken h =>
        obtain ⟨more, hmore, htakes⟩ := ih h
        exact ⟨taken ++ more, (List.prefix_append_right_inj taken).2 hmore, .any taken htakes⟩
      | one hp hr h =>
        obtain ⟨more, hmore, htakes⟩ := ih h
        exact ⟨_ :: more, List.cons_prefix_cons.2 ⟨rfl, hmore⟩, .one hp hr htakes⟩
  · rintro ⟨taken, ⟨left, rfl⟩, h⟩
    induction h with
    | nil => simpa using Takes.any left .nil
    | any taken _ ih =>
      rw [List.append_assoc]
      exact .any taken ih
    | one hp hr _ ih => exact .one hp hr ih

theorem slashParts_append_slash (s t : String) :
    slashParts (s ++ "/" ++ t) = slashParts s ++ slashParts t := by
  have hcs : (s ++ "/" ++ t).toList = s.toList ++ '/' :: t.toList := by simp
  rw [← pathParts_eq_slashParts, ← pathParts_eq_slashParts, ← pathParts_eq_slashParts, hcs]
  exact Text.fields_append_cons rfl _ _

theorem slashParts_subtree (pattern : String) :
    slashParts (subtree pattern) = slashParts pattern ++ [['*', '*']] := by
  have hsplit : subtree pattern = pattern ++ "/" ++ "**" := by
    rw [String.append_assoc]
    rfl
  rw [hsplit, slashParts_append_slash]
  rfl

/-! ## Paths -/

/-- What can stand between slashes. -/
def IsPart (part : List Char) : Prop := part ≠ [] ∧ ∀ c ∈ part, isSlash c = false

theorem isPart_of_mem_slashParts {s : String} {part : List Char} (h : part ∈ slashParts s) : IsPart part := by
  have hruns := Text.runs_fields isSlash s.toList
  rw [← pathParts_eq_slashParts] at h
  exact ⟨hruns.ne_nil_of_mem h, fun c hc => (hruns.mem_of_mem h hc).2⟩

theorem slashParts_pathOf (h : ∀ part ∈ parts, IsPart part) : slashParts (pathOf parts) = parts := by
  rw [← pathParts_eq_slashParts, pathOf, String.toList_ofList]
  show Text.fields isSlash _ = parts
  rw [Text.fields_cons_of_isEnd rfl, Text.fields_intercalate rfl h]

theorem leadsWithSlash_pathOf (parts : List (List Char)) : LeadsWithSlash (pathOf parts) := by
  simp [LeadsWithSlash, pathOf]

/-- Only the path without segments has a slash for its last character. -/
theorem eq_nil_of_getLast? (h : ∀ part ∈ parts, IsPart part)
    (hlast : ('/' :: ['/'].intercalate parts).getLast? = some '/') : parts = [] := by
  induction parts with
  | nil => rfl
  | cons part parts ih =>
    exfalso
    obtain ⟨hne, hplain⟩ := h part List.mem_cons_self
    cases parts with
    | nil =>
      rw [List.intercalate_singleton, List.getLast?_cons_of_ne_nil hne] at hlast
      exact absurd (hplain '/' (List.mem_of_getLast? hlast)) (by decide)
    | cons next parts =>
      rw [List.intercalate_cons_cons, List.append_assoc, ← List.cons_append, List.singleton_append,
        List.getLast?_append_cons] at hlast
      exact absurd (ih (fun p hp => h p (List.mem_cons_of_mem part hp)) hlast) (List.cons_ne_nil _ _)

theorem not_trailsWithSlash_pathOf (h : ∀ part ∈ parts, IsPart part) : ¬TrailsWithSlash (pathOf parts) := by
  rintro ⟨hsize, hlast⟩
  rw [pathOf, String.toList_ofList] at hlast
  obtain rfl := eq_nil_of_getLast? h hlast
  exact absurd hsize (by decide)

/-! ## Subtrees -/

theorem matches?_pathOf_iff (hlead : LeadsWithSlash pattern) (hend : pattern.toList.getLast? ≠ some '/')
    (h : ∀ part ∈ parts, IsPart part) :
    (compile pattern).matches? (pathOf parts) = true ↔ Takes (slashParts pattern) parts := by
  rw [matches?_compile]
  constructor
  · intro hd
    have htakes := hd.takes
    rwa [slashParts_pathOf h] at htakes
  · intro htakes
    refine ⟨iff_of_true hlead (leadsWithSlash_pathOf parts), by rwa [slashParts_pathOf h], .inr ?_⟩
    exact iff_of_false (fun ht => hend ht.2) (not_trailsWithSlash_pathOf h)

theorem matches?_subtree (hlead : LeadsWithSlash pattern) :
    (compile (subtree pattern)).matches? path = true ↔
      LeadsWithSlash path ∧ ∃ taken, taken <+: slashParts path ∧ Takes (slashParts pattern) taken := by
  have hlead' : LeadsWithSlash (subtree pattern) := by
    unfold LeadsWithSlash subtree at *
    rw [String.toList_append, List.head?_append, hlead, Option.some_or]
  rw [matches?_compile, ← takes_concat_any_iff, ← slashParts_subtree]
  constructor
  · exact fun hd => ⟨hd.lead.1 hlead', hd.takes⟩
  · rintro ⟨hpath, htakes⟩
    exact ⟨iff_of_true hlead' hpath, htakes, .inl (by simp [slashParts_subtree])⟩

/-- **Subtrees.** With `/**` behind it, a pattern that starts but does not end with a slash matches the paths
some first segments of which make up a path that the pattern matches. So it matches all paths that the
pattern matches, and all paths below them. -/
theorem matches?_subtree_iff (hlead : LeadsWithSlash pattern) (hend : pattern.toList.getLast? ≠ some '/') :
    (∀ path, (compile (subtree pattern)).matches? path = true ↔
      LeadsWithSlash path ∧ ∃ k ≤ (slashParts path).length,
        (compile pattern).matches? (pathOf ((slashParts path).take k)) = true) ∧
    ∀ path, (compile pattern).matches? path = true →
      (compile (subtree pattern)).matches? path = true ∧
        ∀ below, (compile (subtree pattern)).matches? (path ++ "/" ++ below) = true := by
  refine ⟨fun path => ?_, fun path hm => ?_⟩
  · have hfirst (k : Nat) : (compile pattern).matches? (pathOf ((slashParts path).take k)) = true ↔
        Takes (slashParts pattern) ((slashParts path).take k) :=
      matches?_pathOf_iff hlead hend fun part hp => isPart_of_mem_slashParts (List.mem_of_mem_take hp)
    simp only [matches?_subtree hlead, hfirst]
    refine and_congr_right fun _ => ⟨?_, ?_⟩
    · rintro ⟨taken, hprefix, htakes⟩
      exact ⟨taken.length, hprefix.length_le, List.prefix_iff_eq_take.1 hprefix ▸ htakes⟩
    · rintro ⟨k, -, htakes⟩
      exact ⟨_, List.take_prefix k _, htakes⟩
  · have hd := (matches?_compile pattern path).1 hm
    have hpath := hd.lead.1 hlead
    refine ⟨(matches?_subtree hlead).2 ⟨hpath, _, List.prefix_rfl, hd.takes⟩, fun below => ?_⟩
    refine (matches?_subtree hlead).2 ⟨?_, _, ?_, hd.takes⟩
    · unfold LeadsWithSlash at *
      rw [String.append_assoc, String.toList_append, List.head?_append, hpath, Option.some_or]
    · rw [slashParts_append_slash]
      exact List.prefix_append _ _

/-- The subtree of `/api/{v}` has what is below `/api/v1` in it, but not `/api` itself. -/
theorem matches?_subtree_api :
    (compile (subtree "/api/{v}")).matches? "/api//v1/users/" = true ∧
      ¬(compile (subtree "/api/{v}")).matches? "/api" = true := by
  have hlead : LeadsWithSlash "/api/{v}" := by
    unfold LeadsWithSlash
    decide
  have hpath : LeadsWithSlash "/api//v1/users/" := by
    unfold LeadsWithSlash
    decide
  have h := (matches?_subtree_iff hlead (by decide)).1
  refine ⟨(h _).2 ⟨hpath, 2, by decide, by decide⟩, fun hm => ?_⟩
  obtain ⟨-, k, hk, hfirst⟩ := (h _).1 hm
  have hnone : ∀ k ≤ 1, ¬(compile "/api/{v}").matches? (pathOf ((slashParts "/api").take k)) = true := by
    decide
  exact hnone k hk hfirst

end EndpointGate.Pattern
