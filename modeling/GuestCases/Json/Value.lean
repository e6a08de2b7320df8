import GuestCases.Json.Number
import GuestCases.Text.Quoted

/-!
JSON values and their texts. The fields of an object that was read are sorted by key, and of
several fields with one key the last one counts. A value is printed over several lines, two spaces
for each level.
-/

namespace GuestCases

inductive Json where
  | null
  | boolean (value : Bool)
  | number (value : Json.Number)
  | text (value : String)
  | array (items : List Json)
  | object (fields : List (String × Json))

namespace Json

def ofInt (value : Int) : Json :=
  if value < 0 then .number (.negative value.natAbs) else .number (.natural value.natAbs)

def description : Json → String
  | .null => "null"
  | .boolean value => s!"boolean `{value}`"
  | .number (.real isNegative magnitude) =>
    s!"floating point `{(Number.real isNegative magnitude).text}`"
  | .number value => s!"integer `{value.text}`"
  | .text value => s!"string {Text.quoted value}"
  | .array _ => "sequence"
  | .object _ => "map"

end Json

end GuestCases

namespace GuestCases.Json

def fourDigits (value : Nat) : List Char :=
  let digits := Nat.toDigits 16 value
  List.replicate (4 - digits.length) '0' ++ digits

def writtenChar (c : Char) : List Char :=
  match c with
  | '"' => ['\\', '"']
  | '\\' => ['\\', '\\']
  | '\x08' => ['\\', 'b']
  | '\x0C' => ['\\', 'f']
  | '\n' => ['\\', 'n']
  | '\r' => ['\\', 'r']
  | '\t' => ['\\', 't']
  | c => if c.toNat < 0x20 then '\\' :: 'u' :: fourDigits c.toNat else [c]

def writtenText (text : String) : List Char :=
  '"' :: text.toList.flatMap writtenChar ++ ['"']

def lineAt (level : Nat) : List Char :=
  '\n' :: List.replicate (2 * level) ' '

mutual

def written (level : Nat) : Json → List Char
  | .null => "null".toList
  | .boolean value => (toString value).toList
  | .number value => value.text.toList
  | .text value => writtenText value
  | .array [] => ['[', ']']
  | .array (item :: rest) =>
    '[' :: lineAt (level + 1) ++ written (level + 1) item ++ writtenItems (level + 1) rest ++
      lineAt level ++ [']']
  | .object [] => ['\x7b', '\x7d']
  | .object ((key, value) :: rest) =>
    '\x7b' :: lineAt (level + 1) ++ writtenText key ++ [':', ' '] ++ written (level + 1) value ++
      writtenFields (level + 1) rest ++ lineAt level ++ ['\x7d']

def writtenItems (level : Nat) : List Json → List Char
  | [] => []
  | item :: rest => ',' :: lineAt level ++ written level item ++ writtenItems level rest

def writtenFields (level : Nat) : List (String × Json) → List Char
  | [] => []
  | (key, value) :: rest =>
    ',' :: lineAt level ++ writtenText key ++ [':', ' '] ++ written level value ++
      writtenFields level rest

end

def print (value : Json) : String :=
  String.ofList (written 0 value)

end GuestCases.Json
