import GuestCases.Build
import GuestCases.Cpuid.Entry
import GuestCases.Sheet

/-!
CPUID entries from the rows of a sheet. A row without a register is a header: it may announce a
leaf group and always gives the caption of the next marker. A row with a register is a field of
the group announced last. Only fields whose virtualization type is `Fixed` have a value that the
guest can check, so only those become entries, one for each sub-leaf of the group.
-/

namespace GuestCases.Cpuid

structure Columns where
  fieldName : String
  virtType : List String
  virtDetail : List String
deriving DecidableEq, Repr

def registerColumn : String := "Reg."

def msbColumn : String := "MSB"

def lsbColumn : String := "LSB"

def sizeColumn : String := "Field Size"

def fixedType : String := "Fixed"

structure Row where
  line : Nat
  name : Option String
  register : Option String
  msb : Option String
  lsb : Option String
  size : Option String
  virtType : Option String
  virtDetail : Option String
deriving DecidableEq, Repr

structure Bound where
  name : Nat
  register : Nat
  msb : Nat
  lsb : Nat
  size : Nat
  virtType : Nat
  virtDetail : Nat
deriving DecidableEq, Repr

def Columns.bind (columns : Columns) (sheet : Sheet) : Except SheetFault Bound := do
  let name ← sheet.column columns.fieldName
  let register ← sheet.column registerColumn
  let msb ← sheet.column msbColumn
  let lsb ← sheet.column lsbColumn
  let size ← sheet.column sizeColumn
  let virtType ← sheet.firstColumn columns.virtType
  let virtDetail ← sheet.firstColumn columns.virtDetail
  pure ⟨name, register, msb, lsb, size, virtType, virtDetail⟩

def Bound.row (bound : Bound) (record : Csv.TextRecord) : Row where
  line := record.line
  name := record.cell? bound.name
  register := record.cell? bound.register
  msb := record.cell? bound.msb
  lsb := record.cell? bound.lsb
  size := record.cell? bound.size
  virtType := record.cell? bound.virtType
  virtDetail := record.cell? bound.virtDetail

def rowsOf (columns : Columns) (sheet : Sheet) : Except SheetFault (List Row) :=
  (columns.bind sheet).map fun bound => sheet.rows.map bound.row

/-- What earlier rows leave behind: the leaf group that fields belong to, and the caption of the
marker that the next entry puts before itself. -/
structure Context where
  group : Option LeafGroup
  caption : Option String
deriving DecidableEq, Repr

structure Source where
  path : String
  version : String
deriving DecidableEq, Repr

def Source.skip (source : Source) (row : Row) (reason : SkipReason) : Event Entry :=
  .skip ⟨source.path, row.line, reason⟩

def Source.warn (source : Source) (row : Row) (text : RemarkText) : Event Entry :=
  .remark ⟨.warning, source.path, row.line, text⟩

def readHeader (source : Source) (context : Context) (row : Row) : Context × List (Event Entry) :=
  match row.name with
  | none => (context, [source.skip row .blank])
  | some name =>
    match LeafGroup.ofName name with
    | .ok (some group) => (⟨some group, some name⟩, [])
    | .ok none => (⟨context.group, some name⟩, [])
    | .error fault =>
      (⟨none, some name⟩,
        [source.warn row (.malformedHeader name fault), source.skip row (.malformedLeaf fault)])

def readInt32 (cell : Option String) : Except BadCell Int :=
  match Numeral.readInteger (cell.getD "") with
  | .error fault => .error (.numeral fault)
  | .ok value =>
    if 0x80000000 ≤ value then .error .aboveInt32
    else if value < -0x80000000 then .error .belowInt32
    else .ok value

structure Geometry where
  register : Register
  msb : Int
  lsb : Int
  size : Int
deriving DecidableEq, Repr

def readGeometry (source : Source) (row : Row) (register : String) :
    Except SheetFault Geometry := do
  let inColumn (column : String) : BadCell → SheetFault :=
    .invalidCell source.path row.line column
  let register ←
    (Register.ofText register).mapError fun fault => inColumn registerColumn (.register fault)
  let msb ← (readInt32 row.msb).mapError (inColumn msbColumn)
  let lsb ← (readInt32 row.lsb).mapError (inColumn lsbColumn)
  let size ← (readInt32 row.size).mapError (inColumn sizeColumn)
  pure ⟨register, msb, lsb, size⟩

def fieldEntries (source : Source) (group : LeafGroup) (row : Row) (geometry : Geometry)
    (value : String) : List Entry :=
  group.subleaves.map fun subleaf =>
    { leaf := group.leaf
      subleaf := subleaf
      register := some geometry.register
      msb := geometry.msb
      lsb := geometry.lsb
      size := geometry.size
      fieldName := row.name.getD ""
      expectedValue := value
      specVersion := source.version }

def pendingMarker (source : Source) (group : LeafGroup) (caption : Option String) : List Entry :=
  caption.toList.map fun text =>
    Entry.marker group.leaf group.firstSubleaf text source.version

def readField (source : Source) (context : Context) (row : Row) (register : String) :
    Except SheetFault (Context × List (Event Entry)) :=
  let virtType := row.virtType.getD ""
  if virtType ≠ fixedType then .ok (context, [source.skip row (.notFixed virtType)])
  else
    match context.group with
    | none => .ok (context, [source.skip row .noLeaf])
    | some group => do
      let geometry ← readGeometry source row register
      match row.virtDetail with
      | none =>
        pure (context,
          [source.warn row (.valueMissing (row.name.getD "")), source.skip row .noExpectedValue])
      | some value =>
        let entries := pendingMarker source group context.caption ++
          fieldEntries source group row geometry value
        pure (⟨some group, none⟩, entries.map .entry)

def readRow (source : Source) (context : Context) (row : Row) :
    Except SheetFault (Context × List (Event Entry)) :=
  match row.register with
  | none => .ok (readHeader source context row)
  | some register => readField source context row register

def readAll (source : Source) (rows : List Row) : Reading Entry :=
  readRows (readRow source) ⟨none, none⟩ rows

def read (columns : Columns) (version : String) (sheet : Sheet) : Reading Entry :=
  match rowsOf columns sheet with
  | .error fault => ⟨[], some fault⟩
  | .ok rows => readAll ⟨sheet.path, SpecVersion.constant version⟩ rows

end GuestCases.Cpuid
