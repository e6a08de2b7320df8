import GuestCases.Json.Number

/-!
The tokens of a JSON text: brackets, colons, commas, texts, numbers and the three literal words.
Texts may escape any character; two escapes that are halves of one character stand together.
-/

namespace GuestCases.Json

inductive Token where
  | openArray
  | closeArray
  | openObject
  | closeObject
  | colon
  | comma
  | null
  | boolean (value : Bool)
  | number (value : Number)
  | text (value : String)
deriving DecidableEq, Repr

inductive Lexing where
  | between
  | number (read : List Char)
  | word (read : List Char)
  | text (read : List Char)
  | escape (read : List Char)
  /-- In an escape by number, after some of its four digits; `upper` is a first half. -/
  | code (read : List Char) (upper : Option Nat) (digits value : Nat)
  /-- After a first half, before the escape of the second. -/
  | lowerHalf (read : List Char) (upper : Nat)
  | lowerHalfEscape (read : List Char) (upper : Nat)
deriving DecidableEq, Repr

def wordToken? (read : List Char) : Option Token :=
  match String.ofList read.reverse with
  | "null" => some .null
  | "true" => some (.boolean true)
  | "false" => some (.boolean false)
  | _ => none

def numberToken? (read : List Char) : Option Token :=
  (Number.ofChars? read.reverse).map .number

def escaped? : Char → Option Char
  | '"' => some '"'
  | '\\' => some '\\'
  | '/' => some '/'
  | 'b' => some '\x08'
  | 'f' => some '\x0C'
  | 'n' => some '\n'
  | 'r' => some '\r'
  | 't' => some '\t'
  | _ => none

def isNumberChar (c : Char) : Bool :=
  isDigit c || c == '-' || c == '+' || c == '.' || c == 'e' || c == 'E'

def isWordLetter (c : Char) : Bool :=
  'a' ≤ c && c ≤ 'z'

def opening? (c : Char) : Option (List Token × Lexing) :=
  match c with
  | ' ' | '\t' | '\n' | '\r' => some ([], .between)
  | '[' => some ([.openArray], .between)
  | ']' => some ([.closeArray], .between)
  | '\x7b' => some ([.openObject], .between)
  | '\x7d' => some ([.closeObject], .between)
  | ':' => some ([.colon], .between)
  | ',' => some ([.comma], .between)
  | '"' => some ([], .text [])
  | c =>
    if isDigit c || c == '-' then some ([], .number [c])
    else if isWordLetter c then some ([], .word [c])
    else none

def finishCode (read : List Char) (upper : Option Nat) (value : Nat) : Option Lexing :=
  match upper with
  | some high =>
    if 0xDC00 ≤ value ∧ value ≤ 0xDFFF then
      some (.text (Char.ofNat (0x10000 + (high - 0xD800) * 0x400 + (value - 0xDC00)) :: read))
    else none
  | none =>
    if 0xDC00 ≤ value ∧ value ≤ 0xDFFF then none
    else if 0xD800 ≤ value ∧ value ≤ 0xDBFF then some (.lowerHalf read value)
    else some (.text (Char.ofNat value :: read))

def move : Lexing → Char → Option (List Token × Lexing)
  | .between, c => opening? c
  | .number read, c =>
    if isNumberChar c then some ([], .number (c :: read))
    else do
      let token ← numberToken? read
      let (tokens, next) ← opening? c
      some (token :: tokens, next)
  | .word read, c =>
    if isWordLetter c then some ([], .word (c :: read))
    else do
      let token ← wordToken? read
      let (tokens, next) ← opening? c
      some (token :: tokens, next)
  | .text read, c =>
    if c = '"' then some ([.text (String.ofList read.reverse)], .between)
    else if c = '\\' then some ([], .escape read)
    else if c.toNat < 0x20 then none
    else some ([], .text (c :: read))
  | .escape read, c =>
    if c = 'u' then some ([], .code read none 0 0)
    else (escaped? c).map fun shown => ([], .text (shown :: read))
  | .code read upper digits value, c => do
    let digit ← Numeral.digitIn? 16 c
    let value := value * 16 + digit
    if digits = 3 then (finishCode read upper value).map fun next => ([], next)
    else some ([], .code read upper (digits + 1) value)
  | .lowerHalf read upper, c => if c = '\\' then some ([], .lowerHalfEscape read upper) else none
  | .lowerHalfEscape read upper, c =>
    if c = 'u' then some ([], .code read (some upper) 0 0) else none

def finish : Lexing → Option (List Token)
  | .between => some []
  | .number read => (numberToken? read).map ([·])
  | .word read => (wordToken? read).map ([·])
  | _ => none

def tokens (lexing : Lexing) : List Char → Option (List Token)
  | [] => finish lexing
  | c :: rest => do
    let (found, next) ← move lexing c
    let others ← tokens next rest
    some (found ++ others)

end GuestCases.Json
