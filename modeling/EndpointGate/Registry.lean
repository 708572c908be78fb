import EndpointGate.MethodSet
import EndpointGate.Pattern.Basic

/-!
# The registry of deprecated endpoints

Patterns with the methods they cover, in the order of their first insertion. Inserting a pattern text
again replaces its methods and keeps its place; a look-up answers with the first entry that covers both
method and path.
-/

namespace EndpointGate

/-- A pattern and the methods it covers. -/
structure Entry where
  pattern : Pattern
  methods : MethodSet
  deriving DecidableEq, Repr, Inhabited

namespace Entry

/-- The text of the pattern. -/
abbrev text (e : Entry) : String := e.pattern.source

/-- The entry covers a request with this path and upper-case method. -/
def covers (e : Entry) (path method : String) : Bool :=
  e.methods.covers method && e.pattern.matches? path

end Entry

/-- The declared patterns in order of first insertion. -/
structure Registry where
  entries : List Entry
  deriving DecidableEq, Repr, Inhabited

namespace Registry

/-- The registry without entries. -/
def empty : Registry := ⟨[]⟩

/-- Sets the methods of a pattern text, in its place or at the end. -/
def insertEntry (text : String) (methods : MethodSet) : List Entry → List Entry
  | [] => [⟨Pattern.compile text, methods⟩]
  | e :: es =>
    if e.text = text then { e with methods } :: es else e :: insertEntry text methods es

/-- Declares a pattern text with its methods. -/
def insert (r : Registry) (text : String) (methods : MethodSet) : Registry :=
  ⟨insertEntry text methods r.entries⟩

/-- The methods of a pattern text. -/
def get? (r : Registry) (text : String) : Option MethodSet :=
  (r.entries.find? (·.text == text)).map (·.methods)

/-- The number of pattern texts. -/
def size (r : Registry) : Nat := r.entries.length

/-- The registry has no entry. -/
def isEmpty (r : Registry) : Bool := r.entries.isEmpty

/-- The first entry that covers the path and the upper-case method. -/
def lookup (r : Registry) (path method : String) : Option Entry :=
  r.entries.find? (·.covers path method)

@[simp] theorem entries_empty : empty.entries = [] := rfl

@[simp] theorem entries_insert (r : Registry) (text : String) (methods : MethodSet) :
    (r.insert text methods).entries = insertEntry text methods r.entries := rfl

theorem map_text_insertEntry (text : String) (methods : MethodSet) (es : List Entry) :
    (insertEntry text methods es).map (·.text) =
      if text ∈ es.map (·.text) then es.map (·.text) else es.map (·.text) ++ [text] := by
  induction es with
  | nil => simp [insertEntry, Entry.text]
  | cons e es ih =>
    by_cases h : e.text = text
    · subst h
      simp [insertEntry]
    · simp only [insertEntry, h, if_false, List.map_cons, ih, List.mem_cons]
      by_cases hm : text ∈ es.map (·.text)
      · simp [hm]
      · simp [hm, Ne.symm h]

end Registry

end EndpointGate
