import GuestCases.Text.Characters

/-!
Digit strings in a base up to sixteen, and the numbers in cells. `natural?` reads a non-empty run
of digits of either case, with any number of leading zeros, and nothing else; `signed?` reads one
optional sign before it.
-/

namespace GuestCases.Numeral

def digit? (c : Char) : Option Nat :=
  if '0' ≤ c ∧ c ≤ '9' then some (c.toNat - '0'.toNat)
  else if 'a' ≤ c ∧ c ≤ 'f' then some (c.toNat - 'a'.toNat + 10)
  else if 'A' ≤ c ∧ c ≤ 'F' then some (c.toNat - 'A'.toNat + 10)
  else none

def digitIn? (base : Nat) (c : Char) : Option Nat :=
  (digit? c).filter (· < base)

def valueFrom (base high : Nat) : List Char → Option Nat
  | [] => some high
  | c :: rest => (digitIn? base c).bind fun d => valueFrom base (high * base + d) rest

def natural? (base : Nat) (cs : List Char) : Option Nat :=
  if cs.isEmpty then none else valueFrom base 0 cs

def unsigned? (base : Nat) : List Char → Option Nat
  | '+' :: rest => natural? base rest
  | cs => natural? base cs

def signed? (base : Nat) : List Char → Option Int
  | '-' :: rest => (natural? base rest).map fun n => -(n : Int)
  | cs => (unsigned? base cs).map Int.ofNat

def wordBound : Nat := 0x10000000000000000

def maxWord : Nat := wordBound - 1

def word? (base : Nat) (cs : List Char) : Option Nat :=
  (unsigned? base cs).filter (· < wordBound)

def signedWord? (base : Nat) (cs : List Char) : Option Int :=
  (signed? base cs).filter fun n => decide (-0x8000000000000000 ≤ n ∧ n < 0x8000000000000000)

inductive CellFault where
  | empty
  | notHexadecimal (cell : String)
  | notInteger (cell : String)
deriving DecidableEq, Repr

def CellFault.message : CellFault → String
  | .empty => "empty numeric cell"
  | .notHexadecimal cell => s!"'{cell}' is not a hexadecimal value"
  | .notInteger cell => s!"'{cell}' is not an integer"

def afterHexMark? : List Char → Option (List Char)
  | '0' :: 'x' :: rest => some rest
  | '0' :: 'X' :: rest => some rest
  | _ => none

def hexValue? (cs : List Char) : Option Nat :=
  word? 16 ((afterHexMark? cs).getD cs)

def readHex (cell : String) : Except CellFault Nat :=
  let cs := Text.trimChars cell.toList
  if cs.isEmpty then .error .empty
  else
    match hexValue? cs with
    | some value => .ok value
    | none => .error (.notHexadecimal cell)

def hexText (value : Nat) : String :=
  String.ofList ('0' :: 'x' :: Nat.toDigits 16 value)

def normalHex (cell : String) : Except CellFault String :=
  (readHex cell).map hexText

/-- The characters before a point and a fraction of at least one zero; all of them when there is
no point. -/
def wholePart? (cs : List Char) : Option (List Char) :=
  match cs.dropWhile (· ≠ '.') with
  | [] => some cs
  | _ :: fraction =>
    if !fraction.isEmpty && fraction.all (· == '0') then some (cs.takeWhile (· ≠ '.')) else none

def integerValue? (cs : List Char) : Option Int :=
  match afterHexMark? cs with
  | some digits => signedWord? 16 digits
  | none => (wholePart? cs).bind (signedWord? 10)

def readInteger (cell : String) : Except CellFault Int :=
  let cs := Text.trimChars cell.toList
  if cs.isEmpty then .error .empty
  else
    match integerValue? cs with
    | some value => .ok value
    | none => .error (.notInteger cell)

end GuestCases.Numeral
