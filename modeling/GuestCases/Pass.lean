import GuestCases.Fusion
import GuestCases.Build
import GuestCases.Cpuid.Rows
import GuestCases.Files.Tree
import GuestCases.Journal
import GuestCases.Json.Reader
import GuestCases.Msr.Description
import GuestCases.Msr.Rows
import GuestCases.Settings.Sections

/-!
Generation passes. A pass reads every source of one kind, assembles the entries and makes the
header: a guard and the lines of its body, each ended by a line feed, written to its path as one
whole file. Passes over MSRs also read the hooks that a header declares and the conditions they
stand for. Passes are independent: a run makes one after the other, writes the header of each that
succeeds, and leaves the files as they are when one fails.
-/

namespace GuestCases

def headerText (kind : Kind) (lines : List String) : String :=
  String.join ((s!"#define AUTOGEN_{kind.tag}" :: lines).map fun line => line ++ "\n")

structure WriteFault where
  path : String
  fault : Files.Fault
deriving DecidableEq, Repr

def WriteFault.message (fault : WriteFault) : String :=
  s!"failed to write {fault.path}: {fault.fault.message}"

def writeHeader (files : Files.Tree) (path : String) (kind : Kind) (lines : List String) :
    Attempt WriteFault Files.Tree :=
  match files.write path (headerText kind lines) with
  | .error fault => ⟨[], .error ⟨path, fault⟩⟩
  | .ok written => ⟨[⟨.info, s!"wrote {path} ({lines.length + 1} lines)"⟩], .ok written⟩

structure Header where
  kind : Kind
  path : String
  lines : List String
  /-- The number of entries, markers included. -/
  entries : Nat
  skipped : List Skip
deriving DecidableEq, Repr

namespace Header

def ofBuild {ε κ : Type} (family : Family ε κ) (path : String) (build : Build ε) : Header where
  kind := family.kind
  path := path
  lines := family.body build.entries
  entries := build.entries.length
  skipped := build.skipped

def text (header : Header) : String :=
  headerText header.kind header.lines

def write (files : Files.Tree) (header : Header) : Attempt WriteFault Files.Tree :=
  writeHeader files header.path header.kind header.lines

end Header

end GuestCases

namespace GuestCases.Msr

inductive ResourceFault where
  | unreadable (path : String) (fault : Files.Fault)
  | notConditions (path : String)
deriving DecidableEq, Repr

def ResourceFault.message : ResourceFault → String
  | .unreadable path fault => s!"failed to read {path}: {fault.message}"
  | .notConditions path => s!"invalid precondition map {path}: {Json.unreadable}"

def Hooks.load (files : Files.Tree) (path : String) : Except ResourceFault Hooks :=
  match files.readText path with
  | .ok source => .ok (.ofSource source)
  | .error fault => .error (.unreadable path fault)

/-- The hooks of conditions in a text. Every field names a hook, and of several fields with one
condition the last one counts. -/
def conditionsOfText (path text : String) : Except ResourceFault (Dictionary String) :=
  match Json.textFieldsOfText? text with
  | some pairs => .ok (.ofList pairs)
  | none => .error (.notConditions path)

def loadConditions (files : Files.Tree) (path : String) :
    Except ResourceFault (Dictionary String) :=
  match files.readText path with
  | .ok text => conditionsOfText path text
  | .error fault => .error (.unreadable path fault)

def Resolver.warnings (resolver : Resolver) : List LogLine :=
  resolver.dangling.map fun (condition, hook) =>
    ⟨.warning, s!"precondition '{condition}' maps to undeclared hook '{hook}'"⟩

def Resolver.load (files : Files.Tree) (hookPath : String) (conditionPath : Option String) :
    Attempt ResourceFault Resolver := do
  let hooks ← .ofExcept (Hooks.load files hookPath)
  let conditions ←
    match conditionPath with
    | some path => .ofExcept (loadConditions files path)
    | none => pure .empty
  Attempt.note .info s!"{hookPath}: {hooks.names.length} precondition hooks"
  let resolver : Resolver := ⟨conditions, hooks⟩
  ⟨resolver.warnings, .ok resolver⟩

end GuestCases.Msr

namespace GuestCases

inductive PassFault where
  | settings (fault : Settings.Fault)
  | sheet (fault : SheetFault)
  | resource (fault : Msr.ResourceFault)
  | write (fault : WriteFault)
deriving DecidableEq, Repr

def PassFault.message : PassFault → String
  | .settings fault => fault.message
  | .sheet fault => fault.message
  | .resource fault => fault.message
  | .write fault => fault.message

structure SheetSource (ε : Type) where
  path : String
  offset : Nat
  read : Sheet → Reading ε

section Collect

variable {ε κ : Type}

def readSource (family : Family ε κ) (files : Files.Tree) (source : SheetSource ε) :
    Attempt SheetFault (Build ε) := do
  let sheet ← .ofExcept (Sheet.read files source.path source.offset)
  let build ← (source.read sheet).attempt
  Attempt.note .info <|
    s!"{source.path}: {build.entries.length} {family.kind.key} entries, " ++
      s!"{build.skipped.length} rows skipped"
  pure build

def readSources (family : Family ε κ) (files : Files.Tree) :
    List (SheetSource ε) → Attempt SheetFault (List (Build ε))
  | [] => pure []
  | source :: rest => do
    let build ← readSource family files source
    let others ← readSources family files rest
    pure (build :: others)

def collect [DecidableEq κ] [Hashable κ] (family : Family ε κ) (files : Files.Tree)
    (sources : List (SheetSource ε)) : Attempt SheetFault (Build ε) := do
  let builds ← readSources family files sources
  let (log, entries) := family.assembleLogged (builds.map Build.entries)
  ⟨log, .ok ⟨entries, builds.flatMap Build.skipped⟩⟩

end Collect

namespace Cpuid

def sheetSource (source : Settings.CpuidSource) : SheetSource Entry where
  path := source.csvPath
  offset := source.bias
  read := read ⟨source.fieldName, source.virtType, source.virtDetail⟩ source.version

def collectSection (settings : Settings) (files : Files.Tree) :
    Attempt PassFault (Settings.CpuidSection × Build Entry) := do
  let cpuid ← (Attempt.ofExcept settings.cpuid).mapFault .settings
  let build ← (collect family files (cpuid.sources.map sheetSource)).mapFault .sheet
  pure (cpuid, build)

end Cpuid

namespace Msr

def sheetSource (resolver : Resolver) (source : Settings.MsrSource) : SheetSource Entry where
  path := source.csvPath
  offset := source.bias
  read := read ⟨source.read, source.write⟩ source.version resolver

def loadResolver (files : Files.Tree) (msr : Settings.MsrSection) :
    Attempt ResourceFault Resolver :=
  Resolver.load files msr.hookPath msr.conditionPath

def collectSection (settings : Settings) (files : Files.Tree) :
    Attempt PassFault (Settings.MsrSection × Build Entry) := do
  let msr ← (Attempt.ofExcept settings.msr).mapFault .settings
  let resolver ← (loadResolver files msr).mapFault .resource
  let build ← (collect family files (msr.sources.map (sheetSource resolver))).mapFault .sheet
  pure (msr, build)

end Msr

def collectCpuid (settings : Settings) (files : Files.Tree) :
    Attempt PassFault (Build Cpuid.Entry) := do
  let (_, build) ← Cpuid.collectSection settings files
  pure build

def collectMsr (settings : Settings) (files : Files.Tree) :
    Attempt PassFault (Build Msr.Entry) := do
  let (_, build) ← Msr.collectSection settings files
  pure build

/-- The header of a kind. No file changes. -/
def generate (kind : Kind) (settings : Settings) (files : Files.Tree) :
    Attempt PassFault Header :=
  match kind with
  | .cpuid => do
    let (cpuid, build) ← Cpuid.collectSection settings files
    pure (.ofBuild Cpuid.family cpuid.headerPath build)
  | .msr => do
    let (msr, build) ← Msr.collectSection settings files
    pure (.ofBuild Msr.family msr.headerPath build)

def pass (settings : Settings) (write : Bool) (files : Files.Tree) (kind : Kind) :
    Attempt PassFault (Header × Files.Tree) := do
  let header ← generate kind settings files
  if write then
    let written ← (header.write files).mapFault .write
    pure (header, written)
  else pure (header, files)

structure Run where
  results : List (Kind × Except PassFault Header)
  log : List LogLine
  files : Files.Tree

def run (settings : Settings) (write : Bool) (files : Files.Tree) : List Kind → Run
  | [] => ⟨[], [], files⟩
  | kind :: rest =>
    let made := pass settings write files kind
    match made.outcome with
    | .ok (header, written) =>
      let after := run settings write written rest
      ⟨(kind, .ok header) :: after.results, made.log ++ after.log, after.files⟩
    | .error fault =>
      let line : LogLine := ⟨.error, s!"{kind.key} generation failed: {fault.message}"⟩
      let after := run settings write files rest
      ⟨(kind, .error fault) :: after.results, made.log ++ line :: after.log, after.files⟩

end GuestCases
