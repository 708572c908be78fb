import EndpointGate.Pattern.Basic
import EndpointGate.Proofs.Pattern.Segment
import EndpointGate.Proofs.Text.Runs
import Mathlib.Logic.Relation

/-!
# Template variables

A `Site` is a place in a pattern text where a template variable can stand: outside the variables before it in
its segment. Whatever is written between the braces there, the variable has the tokens of an asterisk
(`ofText_put`). So the two patterns match the same paths, unless the asterisk makes the segment `**`
(`matches?_variable_eq_star`), and the name of a variable does not matter (`Renames.matches?_eq`).
-/

namespace EndpointGate.Pattern

/-- Read from left to right the text ends outside of template variables: each of its opening braces has its
closing one. -/
inductive EndsOutside : List Char → Prop
  | nil : EndsOutside []
  | char {c : Char} {cs : List Char} (hc : c ≠ '{') (h : EndsOutside cs) : EndsOutside (c :: cs)
  | braces {name cs : List Char} (hname : '}' ∉ name) (h : EndsOutside cs) :
    EndsOutside ('{' :: (name ++ '}' :: cs))

/-- A place in a segment of a pattern text: what stands before the segment, in it to the left and to the right
of the place, and after the segment. -/
structure Site where
  before : List Char
  left : List Char
  right : List Char
  after : List Char
  before_ends : ∀ c ∈ before.getLast?, c = '/'
  after_begins : ∀ c ∈ after.head?, c = '/'
  left_inside : '/' ∉ left
  right_inside : '/' ∉ right
  outside : EndsOutside left

/-- What can stand between the braces of a template variable. -/
def IsName (name : List Char) : Prop := '}' ∉ name ∧ '/' ∉ name

/-- The variable with this name. -/
def variableOf (name : List Char) : List Char := '{' :: (name ++ ['}'])

namespace Site

/-- The segment with a text at the place. -/
def segment (s : Site) (text : List Char) : List Char := s.left ++ text ++ s.right

/-- The pattern with a text at the place. -/
def put (s : Site) (text : List Char) : String := String.ofList (s.before ++ (s.segment text ++ s.after))

end Site

/-- The pattern texts differ in the names of template variables. -/
def Renames : String → String → Prop :=
  Relation.ReflTransGen fun pattern pattern' =>
    ∃ (s : Site) (name name' : List Char), IsName name ∧ IsName name' ∧
      pattern = s.put (variableOf name) ∧ pattern' = s.put (variableOf name')

variable {name name' left cs cs' text text' : List Char} {s : Site} {pattern pattern' : String}

/-! ## The tokens of a segment -/

/-- What stands in front is read alike, whatever the tokens behind it are written as. -/
theorem ofText_append_congr (h : EndsOutside left) (heq : Token.ofText false cs = Token.ofText false cs') :
    Token.ofText false (left ++ cs) = Token.ofText false (left ++ cs') := by
  induction h with
  | nil => exact heq
  | char hc _ ih => simp [Token.ofText, hc, ih]
  | @braces name left hname _ ih =>
    simp only [List.cons_append, List.append_assoc]
    rw [Token.ofText_braces hname, Token.ofText_braces hname, ih]

theorem ofText_variableOf (hname : '}' ∉ name) (cs : List Char) :
    Token.ofText false (variableOf name ++ cs) = Token.ofText false ('*' :: cs) := by
  rw [variableOf, List.cons_append, List.append_assoc, List.singleton_append, Token.ofText_braces hname,
    Token.ofText_star]

theorem ofText_put (s : Site) (hname : '}' ∉ name) :
    Token.ofText false (s.segment (variableOf name)) = Token.ofText false (s.segment ['*']) := by
  unfold Site.segment
  rw [List.append_assoc, List.append_assoc]
  exact ofText_append_congr s.outside (ofText_variableOf hname s.right)

theorem Segment.ofText_of_wild {c : Char} (hc : c ∈ text) (hwild : isWild c = true) (h : text ≠ ['*', '*']) :
    Segment.ofText text = .glob (Token.ofText false text) := by
  rw [Segment.ofText, if_neg h, if_pos (List.any_eq_true.2 ⟨c, hc, hwild⟩)]

theorem Site.ofText_variableOf (s : Site) (hname : '}' ∉ name) :
    Segment.ofText (s.segment (variableOf name)) = .glob (Token.ofText false (s.segment ['*'])) := by
  have hmem : '{' ∈ s.segment (variableOf name) := by simp [Site.segment, variableOf]
  have hne : s.segment (variableOf name) ≠ ['*', '*'] := by
    intro heq
    rw [heq] at hmem
    exact absurd hmem (by decide)
  rw [Segment.ofText_of_wild hmem rfl hne, ofText_put s hname]

theorem Site.ofText_star (h : s.segment ['*'] ≠ ['*', '*']) :
    Segment.ofText (s.segment ['*']) = .glob (Token.ofText false (s.segment ['*'])) := by
  have hmem : '*' ∈ s.segment ['*'] := by simp [Site.segment]
  exact Segment.ofText_of_wild hmem rfl h

/-! ## The segments of a pattern -/

/-- The text can stand at a site. -/
def Fits (text : List Char) : Prop := text ≠ [] ∧ '/' ∉ text

theorem fits_star : Fits ['*'] := by
  simp [Fits]

theorem fits_variableOf (h : '/' ∉ name) : Fits (variableOf name) := by
  simp [Fits, variableOf, h]

theorem Site.segment_fits (s : Site) (h : Fits text) : Fits (s.segment text) := by
  obtain ⟨hne, hslash⟩ := h
  simp [Fits, Site.segment, hne, hslash, s.left_inside, s.right_inside]

theorem pathParts_append_of_ends {before : List Char} (h : ∀ c ∈ before.getLast?, c = '/') (cs : List Char) :
    pathParts (before ++ cs) = pathParts before ++ pathParts cs := by
  unfold pathParts
  cases hlast : before.getLast? with
  | none =>
    rw [List.getLast?_eq_none_iff.1 hlast]
    rfl
  | some c =>
    obtain ⟨front, rfl⟩ := List.getLast?_eq_some_iff.1 hlast
    obtain rfl := h c hlast
    have hslash : isSlash '/' = true := rfl
    rw [List.append_assoc, List.singleton_append, Text.fields_append_cons hslash,
      Text.fields_append_left_of_ends (List.forall_mem_singleton.2 hslash)]

theorem pathParts_put (s : Site) (h : Fits text) :
    pathParts (s.put text).toList = pathParts s.before ++ s.segment text :: pathParts s.after := by
  obtain ⟨hne, hslash⟩ := s.segment_fits h
  have hrun : ∀ c ∈ s.segment text, isSlash c = false := by
    intro c hc
    exact beq_eq_false_iff_ne.2 fun heq => hslash (heq ▸ hc)
  have hend : ∀ c ∈ s.after.head?, isSlash c = true := fun c hc => beq_iff_eq.2 (s.after_begins c hc)
  rw [Site.put, String.toList_ofList, pathParts_append_of_ends s.before_ends]
  unfold pathParts
  rw [Text.fields_append_of_run hne hrun hend]

theorem startsWithSlash_put (s : Site) (h : Fits text) :
    startsWithSlash (s.put text).toList = startsWithSlash s.before := by
  obtain ⟨hne, hslash⟩ := s.segment_fits h
  rw [Site.put, String.toList_ofList]
  cases hbefore : s.before with
  | cons c before => rfl
  | nil =>
    cases hseg : s.segment text with
    | nil => exact absurd hseg hne
    | cons c rest =>
      rw [hseg, List.mem_cons, not_or] at hslash
      simpa [startsWithSlash, isSlash] using Ne.symm hslash.1

theorem endsWithSlash_put (s : Site) (h : Fits text) :
    endsWithSlash (s.put text).toList = s.after.getLast?.any isSlash := by
  obtain ⟨hne, hslash⟩ := s.segment_fits h
  obtain ⟨front, c, hseg⟩ := (List.eq_nil_or_concat _).resolve_left hne
  rw [Site.put, String.toList_ofList, hseg]
  rw [hseg, List.concat_eq_append, List.mem_append, List.mem_singleton, not_or] at hslash
  cases hlast : s.after.getLast? with
  | none => simp [endsWithSlash, List.getLast?_eq_none_iff.1 hlast, isSlash, Ne.symm hslash.2]
  | some d =>
    obtain ⟨rest, hafter⟩ := List.getLast?_eq_some_iff.1 hlast
    have htext : s.before ++ (front.concat c ++ s.after) = (s.before ++ front ++ c :: rest) ++ [d] := by
      simp [hafter]
    have hlength : 1 < (s.before ++ front ++ c :: rest ++ [d]).length := by
      simp only [List.length_append, List.length_cons]
      omega
    rw [htext, endsWithSlash, decide_eq_true hlength, List.getLast?_concat]
    rfl

/-! ## Patterns -/

/-- A pattern matches by its compiled form. -/
theorem matches?_congr {p q : Pattern} (hsegments : p.segments = q.segments) (habsolute : p.absolute = q.absolute)
    (htrailing : p.trailing = q.trailing) : p.matches? = q.matches? := by
  funext path
  unfold matches? matchesPath endsOpen
  rw [hsegments, habsolute, htrailing]

/-- Texts that compile to the same segment match alike at a site. -/
theorem matches?_put_congr (h : Fits text) (h' : Fits text')
    (heq : Segment.ofText (s.segment text) = Segment.ofText (s.segment text')) :
    (compile (s.put text)).matches? = (compile (s.put text')).matches? := by
  apply matches?_congr
  · show Segment.ofParts (pathParts _) = Segment.ofParts (pathParts _)
    rw [pathParts_put s h, pathParts_put s h']
    unfold Segment.ofParts
    rw [List.foldr_append, List.foldr_append, List.foldr_cons, List.foldr_cons, heq]
  · show startsWithSlash _ = startsWithSlash _
    rw [startsWithSlash_put s h, startsWithSlash_put s h']
  · show endsWithSlash _ = endsWithSlash _
    rw [endsWithSlash_put s h, endsWithSlash_put s h']

/-- A variable matches like an asterisk in its place, unless the segment with the asterisk is `**`. -/
theorem matches?_variable_eq_star (hname : IsName name) (h : s.segment ['*'] ≠ ['*', '*']) :
    (compile (s.put (variableOf name))).matches? = (compile (s.put ['*'])).matches? := by
  apply matches?_put_congr (fits_variableOf hname.2) fits_star
  rw [Site.ofText_variableOf s hname.1, Site.ofText_star h]

theorem Renames.refl (pattern : String) : Renames pattern pattern := Relation.ReflTransGen.refl

theorem Renames.matches?_eq (h : Renames pattern pattern') :
    (compile pattern').matches? = (compile pattern).matches? := by
  induction h with
  | refl => rfl
  | tail _ hstep ih =>
    obtain ⟨s, name, name', hname, hname', rfl, rfl⟩ := hstep
    rw [← ih]
    apply matches?_put_congr (fits_variableOf hname'.2) (fits_variableOf hname.2)
    rw [Site.ofText_variableOf s hname'.1, Site.ofText_variableOf s hname.1]

/-- A variable that is the last segment of a pattern can have any name. -/
theorem renames_last {before : List Char} (hbefore : ∀ c ∈ before.getLast?, c = '/') (hname : IsName name)
    (hname' : IsName name') :
    Renames (String.ofList (before ++ variableOf name)) (String.ofList (before ++ variableOf name')) := by
  let s : Site := ⟨before, [], [], [], hbefore, nofun, List.not_mem_nil, List.not_mem_nil, .nil⟩
  refine Relation.ReflTransGen.single ⟨s, name, name', hname, hname', ?_, ?_⟩
  · simp [s, Site.put, Site.segment]
  · simp [s, Site.put, Site.segment]

end EndpointGate.Pattern
