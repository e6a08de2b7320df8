import GuestCases.Settings.Shape

/-!
The settings of a run: one JSON object with a section for each kind of cases. A section lists its
specification sources in the order in which they are fused. A source that names no column cannot
be read, so it makes its section invalid. Paths in a section are seen from the directory of the
settings file.
-/

namespace GuestCases.Settings

structure CpuidSource where
  csvPath : String
  /-- The number of records before the header. -/
  bias : Nat
  fieldName : String
  virtType : List String
  virtDetail : List String
  version : String
deriving DecidableEq, Repr

structure CpuidSection where
  headerPath : String
  sources : List CpuidSource
deriving DecidableEq, Repr

structure MsrSource where
  csvPath : String
  /-- The number of records before the header. -/
  bias : Nat
  read : List String
  write : List String
  version : String
deriving DecidableEq, Repr

structure MsrSection where
  headerPath : String
  /-- The file with the hooks of conditions; without it there are none. -/
  conditionPath : Option String
  /-- The C header that declares the hooks. -/
  hookPath : String
  sources : List MsrSource
deriving DecidableEq, Repr

def defaultFieldName : String := "Field Name"

def defaultVersion : String := "1.0"

structure CpuidSourceFields where
  csvPath : Option String := none
  bias : Option Nat := none
  fieldName : Option String := none
  virtType : Option (List String) := none
  virtDetail : Option (List String) := none
  version : Option String := none

def cpuidSource : Shape CpuidSourceFields CpuidSource where
  name := "struct CpuidSource"
  fields := ["csv_path", "bias", "fname", "vtype", "vdetail", "version"]
  aliases := []
  empty := {}
  set name value fields :=
    match name with
    | "csv_path" => (Decoder.path value).map fun x => { fields with csvPath := some x }
    | "bias" => (Decoder.rowCount value).map fun x => { fields with bias := some x }
    | "fname" => (Decoder.text value).map fun x => { fields with fieldName := some x }
    | "vtype" => (Decoder.candidates value).map fun x => { fields with virtType := some x }
    | "vdetail" => (Decoder.candidates value).map fun x => { fields with virtDetail := some x }
    | "version" => (Decoder.numberOrText value).map fun x => { fields with version := some x }
    | _ => .ok fields
  finish absent fields := do
    let csvPath ← require absent 0 "csv_path" fields.csvPath
    let virtType ← require absent 3 "vtype" fields.virtType
    let virtDetail ← require absent 4 "vdetail" fields.virtDetail
    pure
      { csvPath := csvPath
        bias := fields.bias.getD 0
        fieldName := fields.fieldName.getD defaultFieldName
        virtType := virtType
        virtDetail := virtDetail
        version := fields.version.getD defaultVersion }

structure CpuidSectionFields where
  headerPath : Option String := none
  sources : Option (List CpuidSource) := none

def cpuidSection : Shape CpuidSectionFields CpuidSection where
  name := "struct CpuidConfig"
  fields := ["header_path", "sources"]
  aliases := []
  empty := {}
  set name value fields :=
    match name with
    | "header_path" => (Decoder.path value).map fun x => { fields with headerPath := some x }
    | "sources" =>
      (Decoder.list cpuidSource.decode value).map fun x => { fields with sources := some x }
    | _ => .ok fields
  finish absent fields := do
    let headerPath ← require absent 0 "header_path" fields.headerPath
    let sources ← require absent 1 "sources" fields.sources
    pure { headerPath := headerPath, sources := sources }

structure MsrSourceFields where
  csvPath : Option String := none
  bias : Option Nat := none
  read : Option (List String) := none
  write : Option (List String) := none
  version : Option String := none

/-- The name of the read column has a second spelling. -/
def msrSource : Shape MsrSourceFields MsrSource where
  name := "struct MsrSource"
  fields := ["csv_path", "bias", "rdname", "wrname", "version"]
  aliases := [("rdnmae", "rdname")]
  empty := {}
  set name value fields :=
    match name with
    | "csv_path" => (Decoder.path value).map fun x => { fields with csvPath := some x }
    | "bias" => (Decoder.rowCount value).map fun x => { fields with bias := some x }
    | "rdname" => (Decoder.candidates value).map fun x => { fields with read := some x }
    | "wrname" => (Decoder.candidates value).map fun x => { fields with write := some x }
    | "version" => (Decoder.numberOrText value).map fun x => { fields with version := some x }
    | _ => .ok fields
  finish absent fields := do
    let csvPath ← require absent 0 "csv_path" fields.csvPath
    let read ← require absent 2 "rdname" fields.read
    let write ← require absent 3 "wrname" fields.write
    pure
      { csvPath := csvPath
        bias := fields.bias.getD 0
        read := read
        write := write
        version := fields.version.getD defaultVersion }

structure MsrSectionFields where
  headerPath : Option String := none
  conditionPath : Option (Option String) := none
  hookPath : Option String := none
  sources : Option (List MsrSource) := none

def msrSection : Shape MsrSectionFields MsrSection where
  name := "struct MsrConfig"
  fields := ["header_path", "prepath", "precondition_header", "sources"]
  aliases := []
  empty := {}
  set name value fields :=
    match name with
    | "header_path" => (Decoder.path value).map fun x => { fields with headerPath := some x }
    | "prepath" =>
      (Decoder.optional Decoder.path value).map fun x => { fields with conditionPath := some x }
    | "precondition_header" =>
      (Decoder.path value).map fun x => { fields with hookPath := some x }
    | "sources" =>
      (Decoder.list msrSource.decode value).map fun x => { fields with sources := some x }
    | _ => .ok fields
  finish absent fields := do
    let headerPath ← require absent 0 "header_path" fields.headerPath
    let hookPath ← require absent 2 "precondition_header" fields.hookPath
    let sources ← require absent 3 "sources" fields.sources
    pure
      { headerPath := headerPath
        conditionPath := fields.conditionPath.getD none
        hookPath := hookPath
        sources := sources }

def namesColumn (candidates : List String) : Bool :=
  candidates.any fun name => !(Text.trim name).isEmpty

/-- The first list of candidates that names no column: the number of its source, and its key. -/
def unnamed? {α : Type} (lists : List (String × (α → List String))) (number : Nat) :
    List α → Option (Nat × String)
  | [] => none
  | source :: rest =>
    match lists.find? fun pair => !namesColumn (pair.2 source) with
    | some (key, _) => some (number, key)
    | none => unnamed? lists (number + 1) rest

def sourcesFault? {α : Type} (kind : Kind) (lists : List (String × (α → List String)))
    (sources : List α) : Option Fault :=
  if sources.isEmpty then some (.noSources kind)
  else (unnamed? lists 0 sources).map fun (number, key) =>
    .invalidSection kind (.namesNoColumn number key)

def CpuidSection.fault? (cpuid : CpuidSection) : Option Fault :=
  sourcesFault? .cpuid
    [("vtype", CpuidSource.virtType), ("vdetail", CpuidSource.virtDetail)] cpuid.sources

def MsrSection.fault? (msr : MsrSection) : Option Fault :=
  sourcesFault? .msr [("rdname", MsrSource.read), ("wrname", MsrSource.write)] msr.sources

end GuestCases.Settings

namespace GuestCases

structure Settings where
  path : String
  /-- The directory from which paths are seen. -/
  directory : String
  sections : List (String × Json)

namespace Settings

def ofText (path text : String) : Except Fault Settings :=
  match Json.objectOfText? text with
  | some sections => .ok ⟨path, (Files.directoryOf? path).getD "", sections⟩
  | none => .error (.notJson path)

def load (files : Files.Tree) (path : String) : Except Fault Settings :=
  match files.readText path with
  | .error fault => .error (.unreadable path fault)
  | .ok text => ofText path text

def kinds (settings : Settings) : List Kind :=
  Kind.all.filter fun kind => (settings.sections.lookup kind.key).isSome

def resolve (settings : Settings) (path : String) : String :=
  Files.join settings.directory path

def section? {α : Type} (settings : Settings) (kind : Kind) (decode : Decoder α) :
    Except Fault α :=
  match settings.sections.lookup kind.key with
  | none => .error (.missingSection kind)
  | some value => (decode value).mapError (.invalidSection kind)

def cpuid (settings : Settings) : Except Fault CpuidSection := do
  let cpuid ← settings.section? .cpuid cpuidSection.decode
  match cpuid.fault? with
  | some fault => .error fault
  | none =>
    .ok
      { headerPath := settings.resolve cpuid.headerPath
        sources := cpuid.sources.map fun source =>
          { source with csvPath := settings.resolve source.csvPath } }

def msr (settings : Settings) : Except Fault MsrSection := do
  let msr ← settings.section? .msr msrSection.decode
  match msr.fault? with
  | some fault => .error fault
  | none =>
    .ok
      { headerPath := settings.resolve msr.headerPath
        conditionPath := msr.conditionPath.map settings.resolve
        hookPath := settings.resolve msr.hookPath
        sources := msr.sources.map fun source =>
          { source with csvPath := settings.resolve source.csvPath } }

end Settings

end GuestCases
