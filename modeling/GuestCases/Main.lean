import GuestCases.Command.Arguments
import GuestCases.Command.Run
import GuestCases.Settings.Sections

/-!
The program: it looks up the files that the command line may touch, runs the command on them as a
value, writes the files that differ afterwards, and prints what the run prints. The paths that a
command may read or write follow from its arguments and, once the settings file is known, from the
sections in it.
-/

namespace GuestCases

def Settings.paths (settings : Settings) : List String :=
  let cpuid :=
    match settings.cpuid with
    | .ok cpuid => cpuid.headerPath :: cpuid.sources.map (·.csvPath)
    | .error _ => []
  let msr :=
    match settings.msr with
    | .ok msr =>
      msr.headerPath :: msr.hookPath :: msr.conditionPath.toList ++ msr.sources.map (·.csvPath)
    | .error _ => []
  cpuid ++ msr

def Command.settingsPaths (files : Files.Tree) (path : String) : List String :=
  match Settings.load files path with
  | .ok settings => path :: settings.paths
  | .error _ => [path]

/-- The paths that a command may read or write, as far as the files are known. -/
def Command.Invocation.paths (files : Files.Tree) : Command.Invocation → List String
  | .generate path _ _ => Command.settingsPaths files path
  | .dump path _ => Command.settingsPaths files path
  | .preconditions hooks conditions => hooks :: conditions.toList
  | .version => []

def Files.waypoints (way : String) (place : Files.Place) :
    List String → List (String × Files.Place)
  | [] => []
  | segment :: rest =>
    let next := Files.advance place segment
    let way := Files.join way segment
    (way, next) :: Files.waypoints way next rest

def Files.waypointsOf (path : String) : List (String × Files.Place) :=
  Files.waypoints (if Files.isAbsolute path then "/" else "") (Files.Tree.origin path)
    (Files.segments path)

end GuestCases

namespace GuestCases.Main

def usage : List String :=
  ["Generate TDX CPUID and MSR compliance cases from specification tables", "",
    "Usage: tdx-casegen generate [-c PATH] [--only KIND] [--dry-run]",
    "       tdx-casegen dump [-c PATH] --kind KIND",
    "       tdx-casegen preconditions --header PATH [--map PATH]",
    "       tdx-casegen --version"]

def directoryCode : UInt32 := 21

def probe (path : String) : IO (Option Files.Node) := do
  try
    return some (.file (← IO.FS.readBinFile path))
  catch
    | .inappropriateType _ code _ => return if code = directoryCode then some .directory else none
    | _ => return none

def survey (files : Files.Tree) (paths : List String) : IO Files.Tree := do
  let mut known := files
  for path in paths do
    if (Files.Tree.nameFault? path).isNone then
      for (way, place) in Files.waypointsOf path do
        known := known.set place (← probe way)
  return known

def writeChanges (before after : Files.Tree) (paths : List String) : IO Unit := do
  for path in paths do
    match before.read path, after.read path with
    | .ok old, .ok new => if old ≠ new then IO.FS.writeBinFile path new
    | .error _, .ok new => IO.FS.writeBinFile path new
    | _, .error _ => pure ()

end GuestCases.Main

open GuestCases GuestCases.Main in
def main (arguments : List String) : IO UInt32 := do
  match Command.Invocation.ofArguments? arguments with
  | none =>
    for line in usage do IO.eprintln line
    return Command.usageCode.toUInt32
  | some invocation =>
    let settings ← survey .empty (invocation.paths .empty)
    let paths := invocation.paths settings
    let files ← survey settings paths
    let effect := invocation.effect files
    writeChanges files effect.files paths
    IO.print effect.output
    for line in effect.errors do IO.eprintln line
    return effect.code.toUInt32
