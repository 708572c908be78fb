import EndpointGate.Settings.Basic
import EndpointGate.Yaml.Node.Reader

/-!
# Settings documents

A settings document is a mapping `deprecated` with a mapping `api` in it, which holds the switch
`disabled` and the declarations `patterns`. What is not written has its default; what is written must
have its form, and no other key may stand there.
-/

namespace EndpointGate

open Yaml

/-- A mapping with known keys, as it is written. -/
abbrev Section := List (String × Node)

namespace Section

/-- The name of a key, which is written as a scalar. -/
def keyName? (document : Node) (key : Node) : Option String :=
  match document.resolve? key with
  | some (.scalar _ v) => some v.text
  | _ => none

/-- Reads a mapping whose keys are among the known ones, each at most once. A section where nothing is
written is empty. -/
def read? (document : Node) (known : List String) (node : Node) : Option Section :=
  match document.resolve? node with
  | some (.mapping _ pairs) => do
    let named ← pairs.mapM fun (key, value) => (keyName? document key).map (·, value)
    let names := named.map (·.1)
    if names.Nodup ∧ names.all (· ∈ known) then return named else none
  | some (.scalar _ v) => if v.style = .plain ∧ v.text = "" then some [] else none
  | _ => none

end Section

namespace Settings

/-- The plain texts of a switch that is on. -/
def trueTexts : List String := ["true", "True", "TRUE"]

/-- The plain texts of a switch that is off. -/
def falseTexts : List String := ["false", "False", "FALSE"]

/-- The plain texts of a value that is null. -/
def nullTexts : List String := ["null", "Null", "NULL", "~"]

/-- The tag of truth values. -/
def boolTag : String := "tag:yaml.org,2002:bool"

/-- The tag of null values. -/
def nullTag : String := "tag:yaml.org,2002:null"

/-- Reads the switch: a plain scalar, or a literal one with the tag of truth values. -/
def readSwitch? (document : Node) (node : Node) : Option Bool :=
  match document.resolve? node with
  | some (.scalar _ v) =>
    if v.style = .plain ∨ (v.style = .literal ∧ v.tag = some boolTag) then
      if v.text ∈ trueTexts then some true
      else if v.text ∈ falseTexts then some false
      else none
    else none
  | _ => none

/-- Reads a declaration: the text of a scalar, however it is written. -/
def readPattern? (document : Node) (node : Node) : Option String :=
  match document.resolve? node with
  | some (.scalar _ v) => some v.text
  | _ => none

/-- Reads the declarations: a sequence, or null. A plain scalar without text is null unless it has a tag
of another kind; then it is the empty sequence. -/
def readPatterns? (document : Node) (node : Node) : Option (Option (List String)) :=
  match document.resolve? node with
  | some (.sequence _ items) => (items.mapM (readPattern? document)).map some
  | some (.scalar _ v) =>
    if v.style ≠ .plain then none
    else
      match v.tag with
      | none => if v.text = "" ∨ v.text ∈ nullTexts then some none else none
      | some tag =>
        if tag = nullTag then if v.text ∈ nullTexts then some none else none
        else if v.text = "" then some (some [])
        else none
  | _ => none

/-- Reads the value of a key, or takes the default where the key is missing. -/
def readOr? {α : Type} (key : String) (fallback : α) (read : Node → Option α) (s : Section) :
    Option α :=
  match s.lookup key with
  | none => some fallback
  | some node => read node

/-- The settings in the content of a document. -/
def ofNode? (document : Node) : Option Settings := do
  let top ← Section.read? document ["deprecated"] document
  let deprecated ← readOr? "deprecated" [] (Section.read? document ["api"]) top
  let api ← readOr? "api" [] (Section.read? document ["disabled", "patterns"]) deprecated
  let disabled ← readOr? "disabled" false (readSwitch? document) api
  let patterns ← readOr? "patterns" none (readPatterns? document) api
  return ⟨disabled, patterns⟩

/-- The settings a text describes; a text without a document describes the default ones. -/
def ofText? (text : String) : Option Settings :=
  match Yaml.read? text with
  | none => none
  | some none => some default
  | some (some node) => ofNode? node

/-- The settings of a text, if they can be used. -/
def load (text : String) : Except SettingsError Settings :=
  match ofText? text with
  | none => .error .notSettings
  | some s => s.validate.map fun _ => s

/-- The settings of a file's octets, if they are text. -/
def loadBytes (bytes : ByteArray) : Except SettingsError Settings :=
  match String.fromUTF8? bytes with
  | none => .error (.unreadable .notText)
  | some text => load text

end Settings

end EndpointGate
