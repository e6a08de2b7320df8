/-!
Records of comma-separated values. Fields are separated by commas; a record ends at a carriage
return or a line feed, and empty lines are no records. A quote opens a quoted field only at the
field's very start. In a quoted field a quote is written twice; after the closing quote what
follows up to the next comma or line end belongs to the field as it stands. A quoted field that
is never closed runs to the end of the text.

The reader works on symbols of any type, as long as the four that have a meaning can be told
from the rest, so that it reads characters and bytes alike.
-/

namespace GuestCases.Csv

inductive Mark where
  | comma
  | quote
  | carriageReturn
  | lineFeed
  | plain
deriving DecidableEq, Repr

def markOfChar (c : Char) : Mark :=
  if c = ',' then .comma
  else if c = '"' then .quote
  else if c = '\r' then .carriageReturn
  else if c = '\n' then .lineFeed
  else .plain

def markOfByte (b : UInt8) : Mark :=
  if b = 0x2C then .comma
  else if b = 0x22 then .quote
  else if b = 0x0D then .carriageReturn
  else if b = 0x0A then .lineFeed
  else .plain

structure Position where
  line : Nat
  offset : Nat
deriving DecidableEq, Repr

def Position.step (position : Position) (mark : Mark) : Position :=
  ⟨if mark = .lineFeed then position.line + 1 else position.line, position.offset + 1⟩

structure Record (α : Type) where
  fields : List (List α)
  start : Position
deriving DecidableEq, Repr

inductive Stage where
  | between
  | fieldStart
  | unquoted
  | quoted
  | quoteSeen
deriving DecidableEq, Repr

inductive Action where
  | skip
  | keep (next : Stage)
  | drop (next : Stage)
  | endField
  | endRecord
deriving DecidableEq, Repr

/-- The reader's move on a symbol outside quotes, where a quote has no meaning. -/
def plainAction : Mark → Action
  | .comma => .endField
  | .carriageReturn | .lineFeed => .endRecord
  | .quote | .plain => .keep .unquoted

def action : Stage → Mark → Action
  | .between, .carriageReturn | .between, .lineFeed => .skip
  | .between, .quote | .fieldStart, .quote => .drop .quoted
  | .between, mark | .fieldStart, mark | .unquoted, mark => plainAction mark
  | .quoted, .quote => .drop .quoteSeen
  | .quoted, _ => .keep .quoted
  | .quoteSeen, .quote => .keep .quoted
  | .quoteSeen, mark => plainAction mark

variable {α : Type}

/-- The records of the symbols. `start` is where the search for the current record began and
`here` the place of the next symbol; `field` holds the current field and `fields` those before
it, last first. -/
def recordsFrom (mark : α → Mark) (stage : Stage) (start here : Position) (field : List α)
    (fields : List (List α)) : List α → List (Record α)
  | [] =>
    if stage = .between then [] else [⟨(field.reverse :: fields).reverse, start⟩]
  | s :: rest =>
    let next := here.step (mark s)
    match action stage (mark s) with
    | .skip => recordsFrom mark .between start next [] [] rest
    | .keep stage => recordsFrom mark stage start next (s :: field) fields rest
    | .drop stage => recordsFrom mark stage start next field fields rest
    | .endField => recordsFrom mark .fieldStart start next [] (field.reverse :: fields) rest
    | .endRecord =>
      ⟨(field.reverse :: fields).reverse, start⟩ ::
        recordsFrom mark .between next next [] [] rest

/-- The records of the symbols. The first `covered` symbols of the text are not among them, and
count for the places of all records but the first. -/
def records (mark : α → Mark) (covered : Nat) (symbols : List α) : List (Record α) :=
  recordsFrom mark .between ⟨1, 0⟩ ⟨1, covered⟩ [] [] symbols

end GuestCases.Csv
