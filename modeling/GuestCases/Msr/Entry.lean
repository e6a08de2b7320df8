import GuestCases.Fusion
import GuestCases.Msr.Access
import GuestCases.Numeral.Digits

/-!
MSR entries. An entry is the expectation on one direction of access to a run of registers. Its
name is written between quotes, with quotes and backslashes in it escaped.
-/

namespace GuestCases.Msr

structure Entry where
  name : String
  first : String
  size : String
  outcome : Outcome
  direction : Direction
  specVersion : String
deriving DecidableEq, Repr

namespace Entry

def firstValue? (entry : Entry) : Option Nat :=
  (Numeral.readHex entry.first).toOption

def sizeValue? (entry : Entry) : Option Nat :=
  (Numeral.readHex entry.size).toOption

def isSingle (entry : Entry) : Bool :=
  entry.sizeValue? == some 1

structure FuseKey where
  first : String
  size : String
  trap : Option Trap
  hook : Option String
  direction : Direction
deriving DecidableEq, Hashable, Repr

def fuseKey (entry : Entry) : FuseKey where
  first := entry.first
  size := entry.size
  trap := entry.outcome.trap?
  hook := entry.outcome.hook?
  direction := entry.direction

/-- First register, number of registers, reads before writes. -/
def sortKey (entry : Entry) : List Int :=
  [entry.firstValue?.getD Numeral.maxWord, entry.sizeValue?.getD Numeral.maxWord,
    entry.direction.rank]

def merge (entry other : Entry) : Entry :=
  { entry with specVersion := Alternatives.merge entry.specVersion other.specVersion }

def escape (cs : List Char) : List Char :=
  cs.flatMap fun c => if c = '"' ∨ c = '\\' then ['\\', c] else [c]

/-- A single register and a run of registers are declared in different ways. -/
def line (entry : Entry) : String :=
  let name := String.ofList (escape entry.name.toList)
  let expected := s!"{entry.first}, {entry.outcome.trapToken}, {entry.outcome.hookToken}"
  if entry.isSingle then
    s!"\t{entry.direction.declarator}(\"{name}\", {expected}, {entry.specVersion}),"
  else
    s!"\t{entry.direction.declarator}_SIZE(\"{name}\", {expected}, {entry.size}, " ++
      s!"{entry.specVersion}),"

end Entry

def family : Family Entry Entry.FuseKey where
  kind := .msr
  fuseKey := Entry.fuseKey
  sortKey := Entry.sortKey
  merge := Entry.merge
  fuseKey_merge _ _ := rfl
  line := Entry.line
  opening := "struct test_msr msr_cases[] = \x7b"
  closing := "\x7d;"

end GuestCases.Msr
