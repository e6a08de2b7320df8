import GuestCases.Build
import GuestCases.Msr.Entry
import GuestCases.Sheet

/-!
MSR entries from the rows of a sheet. A row describes a run of registers by its first and last
index and how reads and writes of them are virtualized. It gives an entry for each direction
whose description has an outcome, and a skip for each other one.
-/

namespace GuestCases.Msr

structure Columns where
  read : List String
  write : List String
deriving DecidableEq, Repr

def nameColumn : String := "MSR Architectural Name"

def firstColumn : String := "First (H)"

def lastColumn : String := "Last (H)"

def sizeColumn : String := "Size (H)"

def reservedName : String := "Reserved"

/-- The first index in the row on registers that are not listed. -/
def defaultFirst : String := "Default"

structure Row where
  line : Nat
  name : Option String
  first : Option String
  last : Option String
  size : Option String
  read : Option String
  write : Option String
deriving DecidableEq, Repr

def Row.description (row : Row) : Direction → String
  | .read => row.read.getD ""
  | .write => row.write.getD ""

structure Bound where
  name : Nat
  first : Nat
  last : Nat
  size : Nat
  read : Nat
  write : Nat
deriving DecidableEq, Repr

def Columns.bind (columns : Columns) (sheet : Sheet) : Except SheetFault Bound := do
  let name ← sheet.column nameColumn
  let first ← sheet.column firstColumn
  let last ← sheet.column lastColumn
  let size ← sheet.column sizeColumn
  let read ← sheet.firstColumn columns.read
  let write ← sheet.firstColumn columns.write
  pure ⟨name, first, last, size, read, write⟩

def Bound.row (bound : Bound) (record : Csv.TextRecord) : Row where
  line := record.line
  name := record.cell? bound.name
  first := record.cell? bound.first
  last := record.cell? bound.last
  size := record.cell? bound.size
  read := record.cell? bound.read
  write := record.cell? bound.write

def rowsOf (columns : Columns) (sheet : Sheet) : Except SheetFault (List Row) :=
  (columns.bind sheet).map fun bound => sheet.rows.map bound.row

/-- Where rows are read: the file they come from, the version of their entries, and what their
descriptions are classified against. -/
structure Source where
  path : String
  version : String
  resolver : Resolver
deriving DecidableEq

def Row.special? (row : Row) : Option SkipReason :=
  if row.name = none ∧ row.first = none then some .blank
  else if row.name = some reservedName then some .reserved
  else if row.first = some defaultFirst then some .default
  else none

structure Geometry where
  first : String
  size : String
deriving DecidableEq, Repr

/-- The number of registers from first to last, if it fits a word, else the largest word. -/
def spanOf (first last : Nat) : Nat :=
  min (last - first + 1) Numeral.maxWord

/-- Reads the first index, the last and the size. An absent last index stands for the first, and
an absent size follows from the two. -/
def readGeometry (source : Source) (row : Row) : Except SheetFault Geometry := do
  let inColumn (column : String) : BadCell → SheetFault :=
    .invalidCell source.path row.line column
  let hex (column cell : String) : Except SheetFault Nat :=
    (Numeral.readHex cell).mapError fun fault => inColumn column (.numeral fault)
  let first ← hex firstColumn (row.first.getD "")
  let last ←
    match row.last with
    | some cell => hex lastColumn cell
    | none => pure first
  if last < first then throw (inColumn lastColumn (.belowFirst last first))
  let size ←
    match row.size with
    | some cell => hex sizeColumn cell
    | none => pure (spanOf first last)
  pure ⟨Numeral.hexText first, Numeral.hexText size⟩

/-- What is remarked when a direction has no outcome: nothing when its description is empty. -/
def remarks (source : Source) (row : Row) (direction : Direction) (why : Unresolved) :
    List (Event Entry) :=
  let remark (level : Level) : List (Event Entry) :=
    [.remark ⟨level, source.path, row.line, .dropping direction why⟩]
  match why with
  | .unknownHook _ _ => remark .warning
  | .unbalanced _ => remark .warning
  | .unrecognized _ => remark .info
  | .empty => []

def readDirection (source : Source) (row : Row) (geometry : Geometry) (direction : Direction) :
    List (Event Entry) :=
  match source.resolver.classify (row.description direction) with
  | .ok outcome =>
    [.entry
      { name := row.name.getD ""
        first := geometry.first
        size := geometry.size
        outcome := outcome
        direction := direction
        specVersion := source.version }]
  | .error why =>
    remarks source row direction why ++
      [.skip ⟨source.path, row.line, .unresolved direction why⟩]

def readRow (source : Source) (row : Row) : Except SheetFault (List (Event Entry)) :=
  match row.special? with
  | some reason => .ok [.skip ⟨source.path, row.line, reason⟩]
  | none =>
    (readGeometry source row).map fun geometry =>
      Direction.both.flatMap (readDirection source row geometry)

def readAll (source : Source) (rows : List Row) : Reading Entry :=
  readRows (fun (_ : Unit) row => (readRow source row).map fun events => ((), events)) () rows

def read (columns : Columns) (version : String) (resolver : Resolver) (sheet : Sheet) :
    Reading Entry :=
  match rowsOf columns sheet with
  | .error fault => ⟨[], some fault⟩
  | .ok rows => readAll ⟨sheet.path, SpecVersion.constant version, resolver⟩ rows

end GuestCases.Msr
