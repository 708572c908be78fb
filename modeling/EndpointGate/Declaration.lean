import EndpointGate.Registry
import EndpointGate.Settings.Error
import EndpointGate.Text.Split

/-!
# Declarations

A declaration is a path pattern, and after it, if not every method is meant, a list of methods between
brackets, separated by blanks or commas. `Declaration.render` writes a declaration in this form.
-/

namespace EndpointGate

/-- A deprecated endpoint: a pattern text and the methods concerned. -/
structure Declaration where
  pattern : String
  methods : MethodSet
  deriving DecidableEq, Repr, Inhabited

namespace Declaration

def isBracket (c : Char) : Bool := c == '[' || c == ']'

def isPatternChar (c : Char) : Bool := !(Text.isBlank c || isBracket c)

/-- The character separates method names. -/
def isSeparator (c : Char) : Bool := Text.isBlank c || c == ','

/-- The pattern of a declaration and what stands between its brackets, if there are any. -/
def split? (cs : List Char) : Option (List Char × Option (List Char)) :=
  let text := Text.trimStart cs
  let pattern := text.takeWhile isPatternChar
  if pattern = [] then none
  else
    match Text.trimStart (text.dropWhile isPatternChar) with
    | [] => some (pattern, none)
    | c :: inner =>
      if c = '[' then
        match inner.dropWhile (fun d => !isBracket d) with
        | [] => none
        | d :: tail =>
          if d = ']' ∧ tail.all Text.isBlank then
            some (pattern, some (inner.takeWhile fun d => !isBracket d))
          else none
      else none

/-- The methods named between the brackets. -/
def methodsOf : Option (List Char) → MethodSet
  | none => .any
  | some body => .ofTokens ((Text.fields isSeparator body).map String.ofList)

def parse? (entry : String) : Option Declaration :=
  (split? entry.toList).map fun (pattern, body) => ⟨String.ofList pattern, methodsOf body⟩

/-- Reads a declaration, or quotes it where it is malformed. -/
def parse (entry : String) : Except SettingsError Declaration :=
  match parse? entry with
  | none => .error (.invalidDeclaration entry)
  | some d => .ok d

/-- Writes a declaration. -/
def render (d : Declaration) : String := d.pattern ++ " " ++ d.methods.render

end Declaration

namespace Registry

/-- Reads declarations one after another into the registry, up to the first malformed one. -/
def insertAll (r : Registry) : List String → Except SettingsError Registry
  | [] => .ok r
  | entry :: entries =>
    match Declaration.parse? entry with
    | none => .error (.invalidDeclaration entry)
    | some d => insertAll (r.insert d.pattern d.methods) entries

/-- The registry of a list of declarations. -/
def ofEntries (entries : List String) : Except SettingsError Registry := insertAll .empty entries

theorem insertAll_cons (r : Registry) (entry : String) (entries : List String) :
    r.insertAll (entry :: entries) =
      (Declaration.parse entry).bind fun d => (r.insert d.pattern d.methods).insertAll entries := by
  rw [insertAll, Declaration.parse]
  cases Declaration.parse? entry <;> rfl

/-- The declarations of a registry, in its order. -/
def declarations (r : Registry) : List Declaration :=
  r.entries.map fun e => ⟨e.text, e.methods⟩

end Registry

end EndpointGate
