/-!
Accesses to model-specific registers: their directions, and what a guest observes when it makes
one. A precondition hook decides whether a contingent trap is taken.
-/

namespace GuestCases.Msr

inductive Trap where
  | gp
  | ve
deriving DecidableEq, Hashable, Repr

def Trap.token : Trap → String
  | .gp => "X86_TRAP_GP"
  | .ve => "X86_TRAP_VE"

inductive Outcome where
  | native
  | traps (trap : Trap)
  | trapsIf (trap : Trap) (hook : String)
deriving DecidableEq, Repr

namespace Outcome

def trap? : Outcome → Option Trap
  | .native => none
  | .traps trap => some trap
  | .trapsIf trap _ => some trap

def hook? : Outcome → Option String
  | .trapsIf _ hook => some hook
  | _ => none

def trapToken (outcome : Outcome) : String :=
  (outcome.trap?.map Trap.token).getD "NO_EXCP"

def hookToken (outcome : Outcome) : String :=
  outcome.hook?.getD "NO_PRE_COND"

def text : Outcome → String
  | .native => "native"
  | .traps trap => trap.token
  | .trapsIf trap hook => s!"{trap.token} if {hook}"

end Outcome

inductive Direction where
  | read
  | write
deriving DecidableEq, Hashable, Repr

namespace Direction

def both : List Direction := [.read, .write]

def text : Direction → String
  | .read => "read"
  | .write => "write"

def declarator : Direction → String
  | .read => "DEF_READ_MSR"
  | .write => "DEF_WRITE_MSR"

def rank : Direction → Nat
  | .read => 0
  | .write => 1

end Direction

end GuestCases.Msr
