import GuestCases.Text.Characters

/-!
The four output registers of the CPUID instruction, in their order.
-/

namespace GuestCases.Cpuid

inductive Register where
  | eax
  | ebx
  | ecx
  | edx
deriving DecidableEq, Hashable, Repr

namespace Register

def all : List Register := [.eax, .ebx, .ecx, .edx]

def name : Register → String
  | .eax => "eax"
  | .ebx => "ebx"
  | .ecx => "ecx"
  | .edx => "edx"

/-- The place of an optional register in the order of cases; an absent one comes last. -/
def rank : Option Register → Nat
  | some .eax => 0
  | some .ebx => 1
  | some .ecx => 2
  | some .edx => 3
  | none => 4

end Register

structure UnknownRegister where
  text : String
deriving DecidableEq, Repr

def UnknownRegister.message (fault : UnknownRegister) : String :=
  s!"unknown CPUID register '{fault.text}'"

def Register.ofText (text : String) : Except UnknownRegister Register :=
  let name := Text.lower (Text.trim text)
  match Register.all.find? fun register => register.name == name with
  | some register => .ok register
  | none => .error ⟨text⟩

end GuestCases.Cpuid
