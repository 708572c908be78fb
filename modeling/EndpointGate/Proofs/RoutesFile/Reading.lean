import EndpointGate.Proofs.RoutesFile.WellFormed
import EndpointGate.Proofs.Text.LetterCase
import EndpointGate.Proofs.Text.Lines
import Mathlib.Data.List.Forall2

/-!
# Reading routes files

What a routes file is read as follows from its lines alone: one route for each line that counts
(`readLines_eq_ok_iff`), or the first malformed line (`readLines_eq_error_iff`). Lines that do not count may be
added anywhere (`Pads.filter_eq`), and routes that are written one on a line are read again
(`readLines_map_line`).
-/

namespace EndpointGate

/-- The text is a word of its own: there are characters, and none of them is blank. -/
structure Text.IsWord (cs : List Char) : Prop where
  ne_nil : cs ≠ []
  not_isBlank : ∀ c ∈ cs, isBlank c = false

instance (cs : List Char) : Decidable (Text.IsWord cs) :=
  have : Decidable (∀ c ∈ cs, Text.isBlank c = false) := List.decidableBAll _ _
  decidable_of_iff (cs ≠ [] ∧ ∀ c ∈ cs, Text.isBlank c = false)
    ⟨fun ⟨hne, hblank⟩ => ⟨hne, hblank⟩, fun ⟨hne, hblank⟩ => ⟨hne, hblank⟩⟩

namespace Route

/-- The route as it is written on a line. -/
def line (r : Route) : List Char := r.method.toList ++ ' ' :: r.path.toList

/-- The route can be written: its parts are words, the method in upper case and no beginning of a comment. -/
structure IsWritable (r : Route) : Prop where
  method_word : Text.IsWord r.method.toList
  method_upper : Text.asciiUppercase r.method = r.method
  method_head : r.method.toList.head? ≠ some '#'
  path_word : Text.IsWord r.path.toList

end Route

namespace RoutesFile

/-- The line counts as a route. -/
def Counts (line : List Char) : Prop := ¬IsBlankLine line ∧ ¬IsComment line

instance (line : List Char) : Decidable (IsBlankLine line) :=
  List.decidableBAll _ _

instance (line : List Char) : Decidable (IsComment line) :=
  inferInstanceAs (Decidable (_ = _))

instance (line : List Char) : Decidable (Counts line) := inferInstanceAs (Decidable (_ ∧ _))

/-- The line consists of two words: the method in some letter case and the path. -/
def Gives (line : List Char) (r : Route) : Prop :=
  ∃ method : String, Text.Runs Text.isBlank line [method.toList, r.path.toList] ∧
    r.method = Text.asciiUppercase method

/-- The line counts as a route, but does not have two words. -/
def IsMalformed (line : List Char) : Prop := Counts line ∧ ¬HasTwoWords line

/-- The first malformed line, with its place among all lines, the first of which has the given number. -/
def IsFirstMalformed (number : Nat) (lines : List (List Char)) (m : MalformedLine) : Prop :=
  ∃ before line after, lines = before ++ line :: after ∧ (∀ l ∈ before, ¬IsMalformed l) ∧ IsMalformed line ∧
    m = ⟨number + before.length, String.ofList (Text.trim line)⟩

/-- The lines of the second list are those of the first one and others that do not count. -/
inductive Pads : List (List Char) → List (List Char) → Prop
  | nil : Pads [] []
  | keep (line : List Char) {ls ls' : List (List Char)} (h : Pads ls ls') : Pads (line :: ls) (line :: ls')
  | add {line : List Char} (hline : IsBlankLine line ∨ IsComment line) {ls ls' : List (List Char)}
    (h : Pads ls ls') : Pads ls (line :: ls')

/-- The text with each route on a line. -/
def write (routes : List Route) : String := String.ofList (routes.flatMap fun r => r.line ++ ['\n'])

variable {line : List Char} {lines lines' : List (List Char)} {number : Nat} {r : Route} {routes : List Route}
  {m : MalformedLine}

/-! ## One line -/

theorem counts_iff : Counts line ↔ ¬isSkipped (Text.trim line) = true := by
  rw [isSkipped_trim_iff, not_or]
  rfl

theorem readRoute?_trim_eq_some_iff : readRoute? (Text.trim line) = some r ↔ Gives line r := by
  rw [readRoute?, wordPair?_trim, Option.map_eq_some_iff]
  constructor
  · rintro ⟨⟨method, path⟩, hpair, rfl⟩
    exact ⟨method, wordPair?_eq_some_iff.1 hpair, rfl⟩
  · rintro ⟨method, hruns, hmethod⟩
    refine ⟨(method, r.path), wordPair?_eq_some_iff.2 hruns, ?_⟩
    show Route.mk (Text.asciiUppercase method) r.path = r
    rw [← hmethod]

/-- A route stands only on lines that have two words. -/
theorem isSome_readRoute?_iff_not_isMalformed (h : Counts line) :
    (readRoute? (Text.trim line)).isSome = true ↔ ¬IsMalformed line := by
  rw [isSome_readRoute?_trim_iff, IsMalformed, not_and_not_right]
  exact ⟨fun hwords _ => hwords, fun hwords => hwords h⟩

/-! ## All lines -/

theorem map_eq_ok_iff {α β ε : Type} {e : Except ε α} {f : α → β} {b : β} :
    e.map f = .ok b ↔ ∃ a, e = .ok a ∧ f a = b := by
  cases e <;> simp [Except.map]

theorem map_eq_error_iff {α β ε : Type} {e : Except ε α} {f : α → β} {x : ε} :
    e.map f = .error x ↔ e = .error x := by
  cases e <;> simp [Except.map]

theorem readLines_eq_ok_iff :
    readLines number lines = .ok routes ↔ List.Forall₂ Gives (lines.filter (Counts ·)) routes := by
  induction lines generalizing number routes with
  | nil =>
    rw [readLines, List.filter_nil, List.forall₂_nil_left_iff, Except.ok.injEq]
    exact eq_comm
  | cons line lines ih =>
    rw [readLines]
    by_cases hcounts : Counts line
    · rw [if_neg (counts_iff.1 hcounts), List.filter_cons, if_pos (decide_eq_true hcounts),
        List.forall₂_cons_left_iff]
      cases hroute : readRoute? (Text.trim line) with
      | none =>
        constructor
        · rintro ⟨⟩
        · rintro ⟨r, -, hgives, -⟩
          rw [readRoute?_trim_eq_some_iff.2 hgives] at hroute
          cases hroute
      | some r =>
        have hone (r' : Route) : Gives line r' ↔ r = r' := by
          rw [← readRoute?_trim_eq_some_iff, hroute, Option.some_inj]
        simp only [map_eq_ok_iff, hone, ih, exists_and_left, exists_eq_left']
        exact exists_congr fun rest => and_congr_right fun _ => eq_comm
    · rw [if_pos (not_not.1 (mt counts_iff.2 hcounts)), List.filter_cons,
        if_neg (by rwa [decide_eq_true_iff]), ih]

theorem isFirstMalformed_cons_of_isMalformed (h : IsMalformed line) :
    IsFirstMalformed number (line :: lines) m ↔ m = ⟨number, String.ofList (Text.trim line)⟩ := by
  constructor
  · rintro ⟨before, l, after, hlines, hbefore, -, rfl⟩
    cases before with
    | nil =>
      obtain ⟨rfl, -⟩ := List.cons.inj hlines
      rfl
    | cons b before =>
      obtain ⟨rfl, -⟩ := List.cons.inj hlines
      exact absurd h (hbefore _ List.mem_cons_self)
  · rintro rfl
    exact ⟨[], line, lines, rfl, nofun, h, rfl⟩

/-- A line that is not malformed counts among the lines all the same. -/
theorem isFirstMalformed_cons (h : ¬IsMalformed line) :
    IsFirstMalformed number (line :: lines) m ↔ IsFirstMalformed (number + 1) lines m := by
  constructor
  · rintro ⟨before, l, after, hlines, hbefore, hl, rfl⟩
    cases before with
    | nil =>
      obtain ⟨rfl, -⟩ := List.cons.inj hlines
      exact absurd hl h
    | cons b before =>
      obtain ⟨rfl, rfl⟩ := List.cons.inj hlines
      refine ⟨before, l, after, rfl, (List.forall_mem_cons.1 hbefore).2, hl, ?_⟩
      rw [List.length_cons, Nat.add_assoc, Nat.add_comm 1]
  · rintro ⟨before, l, after, rfl, hbefore, hl, rfl⟩
    refine ⟨line :: before, l, after, rfl, List.forall_mem_cons.2 ⟨h, hbefore⟩, hl, ?_⟩
    rw [List.length_cons, Nat.add_assoc, Nat.add_comm 1]

theorem readLines_eq_error_iff :
    readLines number lines = .error m ↔ IsFirstMalformed number lines m := by
  induction lines generalizing number with
  | nil =>
    refine ⟨nofun, ?_⟩
    rintro ⟨before, _, _, hlines, -⟩
    exact absurd hlines.symm (List.append_ne_nil_of_right_ne_nil _ (List.cons_ne_nil _ _))
  | cons line lines ih =>
    rw [readLines]
    by_cases hcounts : Counts line
    · rw [if_neg (counts_iff.1 hcounts)]
      have hsome := isSome_readRoute?_iff_not_isMalformed hcounts
      cases hroute : readRoute? (Text.trim line) with
      | none =>
        rw [hroute] at hsome
        rw [isFirstMalformed_cons_of_isMalformed (not_not.1 (mt hsome.2 Bool.false_ne_true)), Except.error.injEq]
        exact eq_comm
      | some r =>
        rw [hroute] at hsome
        rw [isFirstMalformed_cons (hsome.1 rfl), ← ih]
        exact map_eq_error_iff
    · rw [if_pos (not_not.1 (mt counts_iff.2 hcounts)), ih, isFirstMalformed_cons fun h => hcounts h.1]

/-! ## Lines that do not count -/

theorem Pads.filter_eq (h : Pads lines lines') : lines'.filter (Counts ·) = lines.filter (Counts ·) := by
  induction h with
  | nil => rfl
  | keep line _ ih => rw [List.filter_cons, List.filter_cons, ih]
  | @add line hline _ _ _ ih =>
    have hno : ¬decide (Counts line) = true := by
      rw [decide_eq_true_iff, Counts, ← not_or, not_not]
      exact hline
    rw [List.filter_cons, if_neg hno, ih]

/-! ## Writing -/

theorem runs_line (h : r.IsWritable) : Text.Runs Text.isBlank r.line [r.method.toList, r.path.toList] := by
  have hends : Text.Runs Text.isBlank ([] : List Char) [] := .ends (by simp)
  have hpath := Text.Runs.run (s := [' ']) (by simp; decide) h.path_word.ne_nil h.path_word.not_isBlank
    (by simp) hends
  have hline := Text.Runs.run (s := []) (by simp) h.method_word.ne_nil h.method_word.not_isBlank
    (by simp; decide) hpath
  rwa [List.append_nil, List.nil_append] at hline

theorem find?_line (h : r.IsWritable) :
    r.line.find? (fun c => !Text.isBlank c) = r.method.toList.head? := by
  obtain ⟨c, cs, hmethod⟩ := List.exists_cons_of_ne_nil h.method_word.ne_nil
  have hc := h.method_word.not_isBlank c (by rw [hmethod]; exact List.mem_cons_self)
  unfold Route.line
  rw [hmethod, List.cons_append, List.find?_cons_of_pos (by rw [hc]; rfl)]
  rfl

theorem counts_line (h : r.IsWritable) : Counts r.line := by
  have hfind := find?_line h
  refine ⟨fun hblank => h.method_word.ne_nil ?_, fun hcomment => h.method_head ?_⟩
  · rw [← List.head?_eq_none_iff, ← hfind, List.find?_eq_none]
    intro c hc
    simp [hblank c hc]
  · rw [← hfind]
    exact hcomment

theorem readLines_map_line (h : ∀ r ∈ routes, r.IsWritable) :
    readLines number (routes.map Route.line) = .ok routes := by
  have hall : (routes.map Route.line).filter (Counts ·) = routes.map Route.line := by
    rw [List.filter_eq_self, List.forall_mem_map]
    exact fun r hr => decide_eq_true (counts_line (h r hr))
  rw [readLines_eq_ok_iff, hall, List.forall₂_map_left_iff, List.forall₂_same]
  exact fun r hr => ⟨r.method, runs_line (h r hr), (h r hr).method_upper.symm⟩

theorem isLines_write (h : ∀ r ∈ routes, r.IsWritable) :
    Text.IsLines (write routes).toList (routes.map Route.line) := by
  unfold write
  rw [String.toList_ofList]
  induction routes with
  | nil => exact .nil
  | cons r routes ih =>
    obtain ⟨hr, hroutes⟩ := List.forall_mem_cons.1 h
    rw [List.flatMap_cons, List.map_cons, List.append_assoc, List.singleton_append]
    refine .feed ?_ ?_ (ih hroutes)
    · intro hmem
      rcases List.mem_append.1 hmem with hmem | hmem
      · exact absurd (hr.method_word.not_isBlank _ hmem) (by decide)
      · rcases List.mem_cons.1 hmem with heq | hmem
        · exact absurd heq (by decide)
        · exact absurd (hr.path_word.not_isBlank _ hmem) (by decide)
    · intro hlast
      have hpath : r.path.toList.getLast? = some '\r' := by
        rw [← hlast]
        unfold Route.line
        rw [List.getLast?_append_of_ne_nil _ (List.cons_ne_nil _ _),
          List.getLast?_cons_of_ne_nil hr.path_word.ne_nil]
      exact absurd (hr.path_word.not_isBlank _ (List.mem_of_getLast? hpath)) (by decide)

/-! ## Files -/

variable {content : String}

theorem read_of_isLines (h : Text.IsLines content.toList lines) : read content = readLines 1 lines := by
  unfold read
  rw [h.lines_eq]

/-- **Routes files.** A file whose lines are blank, comments or pairs of words is read as the routes on the
pairs, and any other one is refused at its first malformed line, whose number and text are told. Blank lines
and comments can be added anywhere, and written routes are read again. -/
theorem reads_line_by_line :
    (∀ content, ∃ lines, Text.IsLines content.toList lines ∧
      ((∃ routes, read content = .ok routes) ↔ ∀ line ∈ lines, Counts line → HasTwoWords line) ∧
      (∀ routes, read content = .ok routes ↔ List.Forall₂ Gives (lines.filter (Counts ·)) routes) ∧
      ∀ m, read content = .error m ↔ IsFirstMalformed 1 lines m) ∧
    (∀ content content' lines lines', Text.IsLines content.toList lines →
      Text.IsLines content'.toList lines' → Pads lines lines' →
        ∀ routes, read content' = .ok routes ↔ read content = .ok routes) ∧
    ∀ routes, (∀ r ∈ routes, r.IsWritable) → read (write routes) = .ok routes ∧
      ∀ content, Text.IsLines content.toList (routes.map Route.line) → read content = .ok routes := by
  refine ⟨fun content => ?_, ?_, fun routes hroutes => ?_⟩
  · have hlines := Text.isLines_lines content.toList
    refine ⟨_, hlines, ?_, fun routes => ?_, fun m => ?_⟩
    · rw [exists_read_eq_ok_iff]
      exact forall₂_congr fun line _ => and_imp.symm
    · rw [read_of_isLines hlines, readLines_eq_ok_iff]
    · rw [read_of_isLines hlines, readLines_eq_error_iff]
  · intro content content' lines lines' hlines hlines' hpads routes
    rw [read_of_isLines hlines, read_of_isLines hlines', readLines_eq_ok_iff, readLines_eq_ok_iff,
      hpads.filter_eq]
  · have hall (content : String) (hlines : Text.IsLines content.toList (routes.map Route.line)) :
        read content = .ok routes := by
      rw [read_of_isLines hlines, readLines_map_line hroutes]
    exact ⟨hall _ (isLines_write hroutes), hall⟩

/-- A next-line character between words, a carriage return at the end of a line and comments around a route. -/
theorem reads_line_by_line_returns :
    (read "get\x85/a\r\n\n#\n GET" = .error ⟨4, "GET"⟩ ∧
      IsFirstMalformed 1 [['g', 'e', 't', '\x85', '/', 'a'], [], ['#'], [' ', 'G', 'E', 'T']] ⟨4, "GET"⟩) ∧
    read "# a\r\nget /a\n\r\n # b" = .ok [⟨"GET", "/a"⟩] ∧
    read "GET /a\nM-SEARCH /#b\n" = .ok [⟨"GET", "/a"⟩, ⟨"M-SEARCH", "/#b"⟩] := by
  obtain ⟨hfiles, hpads, hwritten⟩ := reads_line_by_line
  have herror : read "get\x85/a\r\n\n#\n GET" = .error ⟨4, "GET"⟩ := by decide +kernel
  refine ⟨⟨herror, ?_⟩, ?_, ?_⟩
  · obtain ⟨lines, hlines, -, -, hmalformed⟩ := hfiles "get\x85/a\r\n\n#\n GET"
    have hfirst := (hmalformed _).1 herror
    rwa [← hlines.lines_eq, show Text.lines _ = _ from rfl] at hfirst
  · refine (hpads "get /a\n" _ _ _ (Text.isLines_lines _) (Text.isLines_lines _) ?_ _).2
      (by decide +kernel)
    show Pads [['g', 'e', 't', ' ', '/', 'a']]
      [['#', ' ', 'a'], ['g', 'e', 't', ' ', '/', 'a'], [], [' ', '#', ' ', 'b']]
    exact .add (by decide) (.keep _ (.add (by decide) (.add (by decide) .nil)))
  · have hroutes : ∀ r ∈ [(⟨"GET", "/a"⟩ : Route), ⟨"M-SEARCH", "/#b"⟩], r.IsWritable := by
      simp only [List.forall_mem_cons]
      refine ⟨⟨?_, ?_, ?_, ?_⟩, ⟨?_, ?_, ?_, ?_⟩, nofun⟩ <;> decide
    exact (hwritten _ hroutes).1

end RoutesFile

end EndpointGate
