import GuestCases.Cpuid.Register
import GuestCases.Csv.Text
import GuestCases.Dictionary
import GuestCases.Files.Tree
import GuestCases.Numeral.Digits

/-!
Specification sheets. The records before the header are skipped; the header names the columns,
the first of several columns with one name counts, and every later record is a row with at most
as many cells as the header. A cell of a row is its trimmed text, absent when that is empty or
the row is too short. What can be wrong with a sheet is its file, its records, its header, or a
cell whose value is needed.
-/

namespace GuestCases

inductive BadCell where
  | numeral (fault : Numeral.CellFault)
  | register (fault : Cpuid.UnknownRegister)
  | aboveInt32
  | belowInt32
  | belowFirst (last first : Nat)
deriving DecidableEq, Repr

def BadCell.message : BadCell → String
  | .numeral fault => fault.message
  | .register fault => fault.message
  | .aboveInt32 => "number too large to fit in target type"
  | .belowInt32 => "number too small to fit in target type"
  | .belowFirst last first =>
    s!"{Numeral.hexText last} is below first MSR {Numeral.hexText first}"

inductive BadRecord where
  | broken (fault : Csv.BrokenField)
  | tooLong (expected found : Nat)
deriving DecidableEq, Repr

def BadRecord.message : BadRecord → String
  | .broken fault => fault.message
  | .tooLong expected found => s!"expected {expected} fields, saw {found}"

inductive SheetFault where
  | unreadable (path : String) (fault : Files.Fault)
  | malformed (path : String) (line : Nat) (fault : BadRecord)
  | missingHeader (path : String) (offset : Nat)
  | missingColumn (path : String) (candidates : List String)
  | invalidCell (path : String) (line : Nat) (column : String) (fault : BadCell)
deriving DecidableEq, Repr

def SheetFault.message : SheetFault → String
  | .unreadable path fault => s!"failed to read {path}: {fault.message}"
  | .malformed path line fault => s!"{path}:{line}: malformed table: {fault.message}"
  | .missingHeader path offset => s!"{path}: no header row after skipping {offset} rows"
  | .missingColumn path candidates =>
    let names := "' or '".intercalate candidates
    s!"{path}: missing column '{names}'"
  | .invalidCell path line column fault =>
    s!"{path}:{line}: column '{column}': {fault.message}"

structure Sheet where
  path : String
  columns : List String
  rows : List Csv.TextRecord
deriving DecidableEq, Repr

def Csv.TextRecord.cell? (row : Csv.TextRecord) (position : Nat) : Option String :=
  (row.cells[position]?.map Text.trim).filter (!·.isEmpty)

namespace Sheet

def ofRecords (path : String) (offset : Nat) (records : List Csv.TextRecord) :
    Except SheetFault Sheet :=
  match records.drop offset with
  | [] => .error (.missingHeader path offset)
  | header :: rows =>
    let width := header.cells.length
    match rows.find? fun row => width < row.cells.length with
    | some row => .error (.malformed path row.line (.tooLong width row.cells.length))
    | none => .ok ⟨path, header.cells.map Text.trim, rows⟩

/-- The sheet in a text. One byte order mark more is dropped than the records drop. -/
def ofText (path : String) (offset : Nat) (text : String) : Except SheetFault Sheet :=
  ofRecords path offset (Csv.readChars (Csv.dropMark text.toList))

def ofBytes (path : String) (offset : Nat) (bytes : ByteArray) : Except SheetFault Sheet :=
  match Csv.readBytes (Csv.dropMarkBytes bytes.toList) with
  | .error fault => .error (.malformed path fault.start.line (.broken fault))
  | .ok records => ofRecords path offset records

def read (files : Files.Tree) (path : String) (offset : Nat) : Except SheetFault Sheet :=
  match files.read path with
  | .error fault => .error (.unreadable path fault)
  | .ok bytes => ofBytes path offset bytes

def position? (sheet : Sheet) (name : String) : Option Nat :=
  sheet.columns.idxOf? name

def column (sheet : Sheet) (name : String) : Except SheetFault Nat :=
  match sheet.position? name with
  | some position => .ok position
  | none => .error (.missingColumn sheet.path [name])

def firstColumn (sheet : Sheet) (candidates : List String) : Except SheetFault Nat :=
  match candidates.findSome? sheet.position? with
  | some position => .ok position
  | none => .error (.missingColumn sheet.path candidates)

def nameAt (sheet : Sheet) (position : Nat) : String :=
  sheet.columns[position]?.getD ""

def index (sheet : Sheet) : List (String × Nat) :=
  let entries := sheet.columns.zipIdx
  (Dictionary.ofList entries.reverse).pairs

def namedCells (sheet : Sheet) (row : Csv.TextRecord) : List (String × String) :=
  sheet.index.filterMap fun (name, position) => (row.cell? position).map fun text => (name, text)

end Sheet

end GuestCases
