import GuestCases.Files.Tree
import GuestCases.Json.Reader
import GuestCases.Kind

/-!
Decoding JSON values of a known shape. A record is written as an object, whose unknown keys do
not count, or as an array of its fields in declared order, whose last optional fields may be
left out. The first field in the order of the value that is wrong decides the fault; fields that
are missing come after that, in declared order. A section is decoded only when it is needed, so
what is wrong with one of them does not concern the other.
-/

namespace GuestCases.Settings

inductive BadSection where
  | wrongType (found expected : String)
  | missingField (name : String)
  | repeatedField (name : String)
  | wrongLength (length : Nat) (expected : String)
  | noVariant (choice : String)
  | notRowCount (text : String)
  | namesNoColumn (source : Nat) (key : String)
deriving DecidableEq, Repr

def BadSection.message : BadSection → String
  | .wrongType found expected => s!"invalid type: {found}, expected {expected}"
  | .missingField name => s!"missing field `{name}`"
  | .repeatedField name => s!"duplicate field `{name}`"
  | .wrongLength length expected => s!"invalid length {length}, expected {expected}"
  | .noVariant choice => s!"data did not match any variant of untagged enum {choice}"
  | .notRowCount text => s!"`bias` must be a row count, got '{text}'"
  | .namesNoColumn source key => s!"source {source}: `{key}` names no column"

inductive Fault where
  | unreadable (path : String) (fault : Files.Fault)
  | notJson (path : String)
  | missingSection (kind : Kind)
  | invalidSection (kind : Kind) (fault : BadSection)
  | noSources (kind : Kind)
deriving DecidableEq, Repr

def Fault.message : Fault → String
  | .unreadable path fault => s!"failed to read config {path}: {fault.message}"
  | .notJson path => s!"invalid config {path}: {Json.unreadable}"
  | .missingSection kind => s!"config has no `{kind.key}` section"
  | .invalidSection kind fault => s!"invalid `{kind.key}` section: {fault.message}"
  | .noSources kind => s!"`{kind.key}` section lists no specification sources"

abbrev Decoder (α : Type) := Json → Except BadSection α

namespace Decoder

def text : Decoder String
  | .text value => .ok value
  | value => .error (.wrongType value.description "a string")

def path : Decoder String
  | .text value => .ok value
  | value => .error (.wrongType value.description "path string")

def optional {α : Type} (decode : Decoder α) : Decoder (Option α)
  | .null => .ok none
  | value => (decode value).map some

def list {α : Type} (decode : Decoder α) : Decoder (List α)
  | .array items => items.mapM decode
  | value => .error (.wrongType value.description "a sequence")

def texts? (items : List Json) : Option (List String) :=
  items.mapM fun
    | .text value => some value
    | _ => none

def candidates : Decoder (List String)
  | .text name => .ok [name]
  | .array items =>
    match texts? items with
    | some names => .ok names
    | none => .error (.noVariant "OneOrMany")
  | _ => .error (.noVariant "OneOrMany")

def numberOrText : Decoder String
  | .text value => .ok value
  | .number value => .ok value.text
  | _ => .error (.noVariant "NumberOrText")

/-- A number of rows, given as a number or in a text with blanks around it. -/
def rowCount (value : Json) : Except BadSection Nat :=
  (numberOrText value).bind fun text =>
    match Numeral.word? 10 (Text.trimChars text.toList) with
    | some count => .ok count
    | none => .error (.notRowCount text)

end Decoder

/-- The shape of a record: its name in messages, the names of its fields in declared order, other
names of them, and how its values are gathered in `π` and made into a record `ρ`. -/
structure Shape (π ρ : Type) where
  name : String
  fields : List String
  aliases : List (String × String)
  empty : π
  /-- Decodes the value of a declared field. -/
  set : String → Json → π → Except BadSection π
  /-- Makes the record. `absent` is the fault of a missing field with this number and name. -/
  finish : (absent : Nat → String → BadSection) → π → Except BadSection ρ

namespace Shape

variable {π ρ : Type}

def declared? (shape : Shape π ρ) (key : String) : Option String :=
  let name := (shape.aliases.lookup key).getD key
  if name ∈ shape.fields then some name else none

/-- Decodes the fields of an object; `seen` holds the names of the fields before. -/
def gather (shape : Shape π ρ) (seen : List String) (gathered : π) :
    List (String × Json) → Except BadSection π
  | [] => .ok gathered
  | (key, value) :: rest =>
    match shape.declared? key with
    | none => shape.gather seen gathered rest
    | some name =>
      if name ∈ seen then .error (.repeatedField name)
      else (shape.set name value gathered).bind fun next => shape.gather (name :: seen) next rest

def gatherItems (shape : Shape π ρ) (gathered : π) :
    List String → List Json → Except BadSection π
  | name :: names, value :: values =>
    (shape.set name value gathered).bind fun next => shape.gatherItems next names values
  | _, _ => .ok gathered

def decode (shape : Shape π ρ) : Decoder ρ
  | .object fields =>
    (shape.gather [] shape.empty fields).bind (shape.finish fun _ name => .missingField name)
  | .array items => do
    let gathered ← shape.gatherItems shape.empty shape.fields items
    let expected := s!"{shape.name} with {shape.fields.length} elements"
    let record ← shape.finish (fun number _ => .wrongLength number expected) gathered
    if shape.fields.length < items.length then
      .error (.wrongLength items.length "fewer elements in array")
    else .ok record
  | value => .error (.wrongType value.description shape.name)

end Shape

def require {α : Type} (absent : Nat → String → BadSection) (number : Nat) (name : String) :
    Option α → Except BadSection α
  | some value => .ok value
  | none => .error (absent number name)

end GuestCases.Settings
