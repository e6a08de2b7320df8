import GuestCases.Dictionary
import GuestCases.Json.Token
import GuestCases.Json.Value

/-!
Reading JSON. The tokens are read from left to right with a stack of the arrays and objects that
are still open, at most 127 of them. An object of texts is read on its own: there every field
counts, also one that a later field with its key replaces.
-/

namespace GuestCases.Json

def maxDepth : Nat := 127

/-- An open array with its items, last first, or an open object with the key whose value is being
read. -/
inductive Frame where
  | array (items : List Json)
  | object (fields : List (String × Json)) (key : String)

inductive Awaited where
  | value
  /-- An item, or the end of an array that was just opened. -/
  | firstItem
  /-- A key, or the end of an object that was just opened. -/
  | firstKey
  | key (fields : List (String × Json))
  | colon (fields : List (String × Json)) (key : String)
  /-- What may follow a complete value. -/
  | after (value : Json)

def startValue (stack : List Frame) : Token → Option (Awaited × List Frame)
  | .null => some (.after .null, stack)
  | .boolean value => some (.after (.boolean value), stack)
  | .number value => some (.after (.number value), stack)
  | .text value => some (.after (.text value), stack)
  | .openArray =>
    if stack.length < maxDepth then some (.firstItem, .array [] :: stack) else none
  | .openObject => if stack.length < maxDepth then some (.firstKey, stack) else none
  | _ => none

def afterValue (value : Json) : List Frame → Token → Option (Awaited × List Frame)
  | .array items :: stack, .comma => some (.value, .array (value :: items) :: stack)
  | .array items :: stack, .closeArray =>
    some (.after (.array (value :: items).reverse), stack)
  | .object fields key :: stack, .comma =>
    some (.key (Dictionary.insertPair key value fields), stack)
  | .object fields key :: stack, .closeObject =>
    some (.after (.object (Dictionary.insertPair key value fields)), stack)
  | _, _ => none

def readToken (awaited : Awaited) (stack : List Frame) (token : Token) :
    Option (Awaited × List Frame) :=
  match awaited, token with
  | .value, token => startValue stack token
  | .firstItem, .closeArray => some (.after (.array []), stack.tail)
  | .firstItem, token => startValue stack token
  | .firstKey, .closeObject => some (.after (.object []), stack)
  | .firstKey, .text key => some (.colon [] key, stack)
  | .firstKey, _ => none
  | .key fields, .text key => some (.colon fields key, stack)
  | .key _, _ => none
  | .colon fields key, .colon => some (.value, .object fields key :: stack)
  | .colon _ _, _ => none
  | .after value, token => afterValue value stack token

def ofTokens? (awaited : Awaited) (stack : List Frame) : List Token → Option Json
  | [] =>
    match awaited, stack with
    | .after value, [] => some value
    | _, _ => none
  | token :: rest => do
    let (next, stack) ← readToken awaited stack token
    ofTokens? next stack rest

def ofText? (text : String) : Option Json := do
  let found ← tokens .between text.toList
  ofTokens? .value [] found

def objectOfText? (text : String) : Option (List (String × Json)) :=
  match ofText? text with
  | some (.object fields) => some fields
  | _ => none

def moreTextFields? : List Token → Option (List (String × String))
  | [.closeObject] => some []
  | .comma :: .text key :: .colon :: .text value :: rest =>
    (moreTextFields? rest).map ((key, value) :: ·)
  | _ => none

def textFields? : List Token → Option (List (String × String))
  | [.openObject, .closeObject] => some []
  | .openObject :: .text key :: .colon :: .text value :: rest =>
    (moreTextFields? rest).map ((key, value) :: ·)
  | _ => none

/-- The fields of the object of texts that a text holds, all of them and as they stand, also when
several have one key. -/
def textFieldsOfText? (text : String) : Option (List (String × String)) :=
  (tokens .between text.toList).bind textFields?

/-- What a message gives as the reason when a text is not JSON of the shape that is needed. -/
def unreadable : String := "<json>"

end GuestCases.Json
