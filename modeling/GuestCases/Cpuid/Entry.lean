import GuestCases.Fusion
import GuestCases.Cpuid.Register
import GuestCases.Numeral.Digits

/-!
CPUID entries. An entry is the expectation on one field of an output register; a marker, which
has no register and the size -1, announces a leaf group. Leaf and sub-leaf tokens are read as
hexadecimal, so that spellings of one number are one case.
-/

namespace GuestCases.Cpuid

structure Entry where
  leaf : String
  subleaf : String
  register : Option Register
  msb : Int
  lsb : Int
  size : Int
  fieldName : String
  expectedValue : String
  specVersion : String
deriving DecidableEq, Repr

def markerSize : Int := -1

namespace Entry

def marker (leaf subleaf caption version : String) : Entry where
  leaf := leaf
  subleaf := subleaf
  register := none
  msb := markerSize
  lsb := markerSize
  size := markerSize
  fieldName := caption
  expectedValue := ""
  specVersion := version

def isMarker (entry : Entry) : Bool :=
  entry.size == markerSize

def leafValue? (entry : Entry) : Option Nat :=
  (Numeral.readHex entry.leaf).toOption

def subleafValue? (entry : Entry) : Option Nat :=
  (Numeral.readHex entry.subleaf).toOption

structure FuseKey where
  leaf : String
  subleaf : String
  register : Option Register
  msb : Int
  lsb : Int
  size : Int
  caption : Option String
deriving DecidableEq, Hashable, Repr

def canonicalToken (token : String) (value : Option Nat) : String :=
  (value.map Numeral.hexText).getD token

/-- Markers are told apart by their captions as well. -/
def fuseKey (entry : Entry) : FuseKey where
  leaf := canonicalToken entry.leaf entry.leafValue?
  subleaf := canonicalToken entry.subleaf entry.subleafValue?
  register := entry.register
  msb := entry.msb
  lsb := entry.lsb
  size := entry.size
  caption := if entry.isMarker then some entry.fieldName else none

/-- Leaf, sub-leaf, register, and the bits of the field. Tokens that are no numbers come last. -/
def sortKey (entry : Entry) : List Int :=
  [entry.leafValue?.getD Numeral.maxWord, entry.subleafValue?.getD Numeral.maxWord,
    Register.rank entry.register, entry.msb, entry.lsb]

def merge (entry other : Entry) : Entry :=
  { entry with
    expectedValue := Alternatives.merge entry.expectedValue other.expectedValue
    specVersion := Alternatives.merge entry.specVersion other.specVersion }

def registerName (entry : Entry) : String :=
  (entry.register.map Register.name).getD "none"

/-- A marker is a comment after an empty line. A field that fills its register is compared
whole, a field of one bit by that bit, and any other by its bounds. -/
def line (entry : Entry) : String :=
  let place := s!"{entry.leaf}, {entry.subleaf}, {entry.registerName}"
  if entry.isMarker then s!"\n\t// {entry.fieldName}"
  else if entry.size = 32 then
    s!"\tEXP_CPUID_BYTE({place}, {entry.expectedValue}, {entry.specVersion});" ++
      s!"\t//{entry.fieldName}"
  else if entry.size = 1 then
    s!"\tEXP_CPUID_BIT({place}, {entry.msb}, {entry.expectedValue}, {entry.specVersion});" ++
      s!"\t//{entry.fieldName}"
  else
    s!"\tEXP_CPUID_RES_BITS({place}, {entry.lsb}, {entry.msb}, {entry.specVersion});" ++
      s!"\t//{entry.fieldName}"

end Entry

def family : Family Entry Entry.FuseKey where
  kind := .cpuid
  fuseKey := Entry.fuseKey
  sortKey := Entry.sortKey
  merge := Entry.merge
  fuseKey_merge _ _ := rfl
  line := Entry.line
  opening := "void initial_cpuid(void) \x7b"
  closing := "\x7d"

end GuestCases.Cpuid
