import GuestCases.Text.Characters

/-!
The two kinds of generated cases. Each kind has its own section in the settings and its own
header.
-/

namespace GuestCases

inductive Kind where
  | cpuid
  | msr
deriving DecidableEq, Repr

namespace Kind

def all : List Kind := [.cpuid, .msr]

def key : Kind → String
  | .cpuid => "cpuid"
  | .msr => "msr"

def tag : Kind → String
  | .cpuid => "CPUID"
  | .msr => "MSR"

end Kind

structure UnknownKind where
  text : String
deriving DecidableEq, Repr

def UnknownKind.message (fault : UnknownKind) : String :=
  s!"unknown case kind '{fault.text}' (expected 'cpuid' or 'msr')"

def Kind.ofText (text : String) : Except UnknownKind Kind :=
  let name := Text.lower (Text.trim text)
  match Kind.all.find? fun kind => kind.key == name with
  | some kind => .ok kind
  | none => .error ⟨text⟩

end GuestCases
