import GuestCases.Csv.Reader

/-!
Records of text. A byte order mark in front of the text belongs to no field. Bytes are read as
UTF-8 field by field, and the first field that is no text makes the whole text unreadable.
-/

namespace GuestCases.Text

/-- The bounds of the bytes that must follow a leading byte, or `none` for a byte that leads no
character. -/
def tailBounds (b : UInt8) : Option (List (UInt8 × UInt8)) :=
  if b ≤ 0x7F then some []
  else if b < 0xC2 then none
  else if b ≤ 0xDF then some [(0x80, 0xBF)]
  else if b = 0xE0 then some [(0xA0, 0xBF), (0x80, 0xBF)]
  else if b = 0xED then some [(0x80, 0x9F), (0x80, 0xBF)]
  else if b ≤ 0xEF then some [(0x80, 0xBF), (0x80, 0xBF)]
  else if b = 0xF0 then some [(0x90, 0xBF), (0x80, 0xBF), (0x80, 0xBF)]
  else if b ≤ 0xF3 then some [(0x80, 0xBF), (0x80, 0xBF), (0x80, 0xBF)]
  else if b = 0xF4 then some [(0x80, 0x8F), (0x80, 0xBF), (0x80, 0xBF)]
  else none

/-- Where the first ill-formed character begins. `start` is where the character being read
began, `next` the place of the next byte, and `owed` bounds the bytes it still needs. -/
def brokenFrom (start next : Nat) (owed : List (UInt8 × UInt8)) : List UInt8 → Option Nat
  | [] => if owed.isEmpty then none else some start
  | b :: rest =>
    match owed with
    | [] =>
      match tailBounds b with
      | none => some next
      | some bounds => brokenFrom next (next + 1) bounds rest
    | (low, high) :: owed =>
      if low ≤ b && b ≤ high then brokenFrom start (next + 1) owed rest else some start

def firstBroken (bytes : List UInt8) : Option Nat :=
  brokenFrom 0 0 [] bytes

def decodeUtf8 (bytes : ByteArray) : Except Nat String :=
  match String.fromUTF8? bytes with
  | some text => .ok text
  | none => .error ((firstBroken bytes.toList).getD 0)

end GuestCases.Text

namespace GuestCases.Csv

structure TextRecord where
  cells : List String
  line : Nat
deriving DecidableEq, Repr

/-- A field that is not well-formed UTF-8: its record's number and place, its own number in the
record, and the number of well-formed bytes it begins with. -/
structure BrokenField where
  record : Nat
  start : Position
  field : Nat
  wellFormed : Nat
deriving DecidableEq, Repr

def BrokenField.message (fault : BrokenField) : String :=
  s!"CSV parse error: record {fault.record} (line {fault.start.line}, field: {fault.field}, " ++
    s!"byte: {fault.start.offset}): invalid utf-8: invalid UTF-8 in field {fault.field} near " ++
    s!"byte index {fault.wellFormed}"

def dropMark : List Char → List Char
  | '\uFEFF' :: rest => rest
  | cs => cs

def dropMarkBytes : List UInt8 → List UInt8
  | 0xEF :: 0xBB :: 0xBF :: rest => rest
  | bytes => bytes

def readChars (cs : List Char) : List TextRecord :=
  let body := dropMark cs
  (records markOfChar (cs.length - body.length) body).map fun record =>
    ⟨record.fields.map String.ofList, record.start.line⟩

def decodeFields (number : Nat) (start : Position) (field : Nat) :
    List (List UInt8) → Except BrokenField (List String)
  | [] => .ok []
  | bytes :: rest =>
    match Text.decodeUtf8 ⟨bytes.toArray⟩ with
    | .error wellFormed => .error ⟨number, start, field, wellFormed⟩
    | .ok text => (decodeFields number start (field + 1) rest).map (text :: ·)

def decodeRecords (number : Nat) :
    List (Record UInt8) → Except BrokenField (List TextRecord)
  | [] => .ok []
  | record :: rest => do
    let cells ← decodeFields number record.start 0 record.fields
    let others ← decodeRecords (number + 1) rest
    pure (⟨cells, record.start.line⟩ :: others)

def readBytes (bytes : List UInt8) : Except BrokenField (List TextRecord) :=
  let body := dropMarkBytes bytes
  decodeRecords 0 (records markOfByte (bytes.length - body.length) body)

end GuestCases.Csv
