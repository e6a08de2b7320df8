import GuestCases.Command.Arguments
import GuestCases.Cpuid.Entry
import GuestCases.Json.Value
import GuestCases.Msr.Entry
import GuestCases.Pass

/-!
Runs of the command line as values: the arguments and the files give an exit code, what is
printed, and the files afterwards. Entries are dumped as JSON, with their fields in declared
order.
-/

namespace GuestCases

def Msr.Trap.name : Msr.Trap → String
  | .gp => "Gp"
  | .ve => "Ve"

def Msr.Outcome.json : Msr.Outcome → Json
  | .native => .text "NoException"
  | .traps trap => .object [("FixedTrap", .text trap.name)]
  | .trapsIf trap hook => .object [("PreconditionTrap", .array [.text trap.name, .text hook])]

def Cpuid.Entry.json (entry : Cpuid.Entry) : Json :=
  .object
    [("leaf", .text entry.leaf),
      ("subleaf", .text entry.subleaf),
      ("register", (entry.register.map fun register => Json.text register.name).getD .null),
      ("msb", .ofInt entry.msb),
      ("lsb", .ofInt entry.lsb),
      ("size", .ofInt entry.size),
      ("field_name", .text entry.fieldName),
      ("expected_value", .text entry.expectedValue),
      ("spec_version", .text entry.specVersion)]

def Msr.Entry.json (entry : Msr.Entry) : Json :=
  .object
    [("field_name", .text entry.name),
      ("first_bit", .text entry.first),
      ("size", .text entry.size),
      ("outcome", entry.outcome.json),
      ("direction", .text entry.direction.text),
      ("spec_version", .text entry.specVersion)]

def dumpText (entries : List Json) : String :=
  (Json.array entries).print

end GuestCases

namespace GuestCases.Command

structure Effect where
  code : Nat
  output : String
  errors : List String
  files : Files.Tree

def usageCode : Nat := 2

def printed (lines : List String) : String :=
  String.join (lines.map fun line => line ++ "\n")

def failed (files : Files.Tree) (message : String) : Effect :=
  ⟨1, "", [s!"error: {message}"], files⟩

def summary (header : Header) : String :=
  s!"{header.kind.key}: {header.entries} entries, {header.skipped.length} rows skipped -> " ++
    header.path

/-- What is printed for one pass. A dry run prints the header itself and the summary as an
error line. -/
def resultText (dryRun : Bool) : Kind × Except PassFault Header → String
  | (_, .ok header) => if dryRun then header.text else printed [summary header]
  | (_, .error _) => ""

def resultErrors (dryRun : Bool) : Kind × Except PassFault Header → List String
  | (_, .ok header) => if dryRun then [summary header] else []
  | (kind, .error fault) => [s!"error: {kind.key}: {fault.message}"]

def hasFailed : Kind × Except PassFault Header → Bool
  | (_, .ok _) => false
  | (_, .error _) => true

def generate (files : Files.Tree) (path : String) (only : Option Kind) (dryRun : Bool) :
    Effect :=
  match Settings.load files path with
  | .error fault => failed files fault.message
  | .ok settings =>
    let kinds := (only.map ([·])).getD settings.kinds
    if kinds.isEmpty then failed files s!"{settings.path} has no `cpuid` or `msr` section"
    else
      let after := run settings (!dryRun) files kinds
      { code := if after.results.any hasFailed then 1 else 0
        output := String.join (after.results.map (resultText dryRun))
        errors := after.results.flatMap (resultErrors dryRun)
        files := after.files }

def entriesOf (files : Files.Tree) (settings : Settings) : Kind → Except PassFault (List Json)
  | .cpuid => (collectCpuid settings files).outcome.map (·.entries.map Cpuid.Entry.json)
  | .msr => (collectMsr settings files).outcome.map (·.entries.map Msr.Entry.json)

def dump (files : Files.Tree) (path : String) (kind : Kind) : Effect :=
  match Settings.load files path with
  | .error fault => failed files fault.message
  | .ok settings =>
    match entriesOf files settings kind with
    | .ok entries => ⟨0, printed [dumpText entries], [], files⟩
    | .error fault => failed files s!"{kind.key}: {fault.message}"

def danglingErrors (resolver : Msr.Resolver) : List String :=
  match resolver.dangling with
  | [] => []
  | pairs =>
    pairs.map (fun (condition, hook) => s!"dangling: '{condition}' -> {hook}") ++
      [s!"error: {pairs.length} map entries name undeclared hooks"]

def preconditions (files : Files.Tree) (hookPath : String) (conditionPath : Option String) :
    Effect :=
  match Msr.Hooks.load files hookPath with
  | .error fault => failed files fault.message
  | .ok hooks =>
    let names := printed hooks.names
    match conditionPath with
    | none => ⟨0, names, [], files⟩
    | some path =>
      match Msr.loadConditions files path with
      | .error fault => ⟨1, names, [s!"error: {fault.message}"], files⟩
      | .ok conditions =>
        let errors := danglingErrors ⟨conditions, hooks⟩
        ⟨if errors.isEmpty then 0 else 1, names, errors, files⟩

def versionLine : String := "tdx-casegen 0.1.0"

def Invocation.effect (files : Files.Tree) : Invocation → Effect
  | .generate path only dryRun => Command.generate files path only dryRun
  | .dump path kind => Command.dump files path kind
  | .preconditions hooks conditions => Command.preconditions files hooks conditions
  | .version => ⟨0, printed [versionLine], [], files⟩

end GuestCases.Command
