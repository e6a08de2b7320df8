import GuestCases.Numeral.Digits
import GuestCases.Numeral.Binary64

/-!
Numbers in JSON. A whole number without fraction and exponent stays exact while it fits a 64-bit
word; every other number is a binary floating-point number. Digits beyond the largest word do not
count for its value. A number too large for a finite magnitude is refused.
-/

namespace GuestCases.Json

open GuestCases.Numeral

/-- A number; `negative` holds the distance of a negative whole number from zero. -/
inductive Number where
  | natural (value : Nat)
  | negative (distance : Nat)
  | real (isNegative : Bool) (magnitude : Binary64)
deriving DecidableEq, Repr

/-- Numbers in JSON are positional from the fifth place after the point to the sixteenth before
it. -/
def style : DecimalStyle := ⟨-5, 16⟩

def Number.text : Number → String
  | .natural value => toString value
  | .negative distance => s!"-{distance}"
  | .real isNegative magnitude =>
    String.ofList ((if isNegative then ['-'] else []) ++ magnitude.shortest.text style)

/-- Appends digits to a significand while it fits a word; counts the digits left over. -/
def gather (significand : Nat) : List Char → Nat × Nat
  | [] => (significand, 0)
  | c :: rest =>
    let next := significand * 10 + (c.toNat - '0'.toNat)
    if wordBound ≤ next then (significand, (c :: rest).length) else gather next rest

/-- The magnitude `significand * 10 ^ exponent`, rounded after every multiplication or division
by a power of ten. Powers stop at `10 ^ 308`, so a small exponent takes two divisions. -/
def magnitude? (significand : Nat) (exponent : Int) : Option Binary64 := do
  let start ← Binary64.ofRatio? significand 1
  if start.mantissa = 0 then some start
  else if 308 < exponent then none
  else if 0 ≤ exponent then start.mul? (← Binary64.powerOfTen? exponent.toNat)
  else if -308 ≤ exponent then start.div? (← Binary64.powerOfTen? (-exponent).toNat)
  else if -616 ≤ exponent then do
    let scaled ← start.div? (← Binary64.powerOfTen? 308)
    scaled.div? (← Binary64.powerOfTen? (-exponent - 308).toNat)
  else some .zero

structure Parts where
  isNegative : Bool
  whole : List Char
  fraction : Option (List Char)
  /-- Whether the exponent is negative, and its digits. -/
  exponent : Option (Bool × List Char)
deriving DecidableEq, Repr

def isDigit (c : Char) : Bool :=
  '0' ≤ c && c ≤ '9'

def exponentOf? : List Char → Option (Option (Bool × List Char))
  | [] => some none
  | e :: rest =>
    if e = 'e' ∨ e = 'E' then
      let (isNegative, digits) :=
        match rest with
        | '+' :: digits => (false, digits)
        | '-' :: digits => (true, digits)
        | digits => (false, digits)
      if digits.isEmpty || !digits.all isDigit then none else some (some (isNegative, digits))
    else none

def partsAfterSign? (isNegative : Bool) (cs : List Char) : Option Parts :=
  let whole := cs.takeWhile isDigit
  if whole.isEmpty || (whole.head? == some '0' && whole.length != 1) then none
  else
    match cs.dropWhile isDigit with
    | '.' :: rest =>
      let fraction := rest.takeWhile isDigit
      if fraction.isEmpty then none
      else (exponentOf? (rest.dropWhile isDigit)).map fun exponent =>
        ⟨isNegative, whole, some fraction, exponent⟩
    | rest => (exponentOf? rest).map fun exponent => ⟨isNegative, whole, none, exponent⟩

def partsOf? : List Char → Option Parts
  | '-' :: rest => partsAfterSign? true rest
  | cs => partsAfterSign? false cs

def maxExponent : Nat := 0x7FFFFFFF

def wholeNumber (isNegative : Bool) (value : Nat) : Option Number :=
  if !isNegative then some (.natural value)
  else if 0 < value ∧ value ≤ 0x8000000000000000 then some (.negative value)
  else (magnitude? value 0).map (.real true)

def Parts.number? (parts : Parts) : Option Number :=
  let (significand, beyond) := gather 0 parts.whole
  match parts.fraction, parts.exponent with
  | none, none =>
    if beyond = 0 then wholeNumber parts.isNegative significand
    else (magnitude? significand beyond).map (.real parts.isNegative)
  | fraction, exponent =>
    let digits := fraction.getD []
    let (significand, unread) := gather significand digits
    let start : Int := beyond - (digits.length - unread : Nat)
    let magnitude :=
      match exponent with
      | none => magnitude? significand start
      | some (isNegative, digits) =>
        let value := (valueFrom 10 0 digits).getD 0
        if maxExponent < value then
          if significand ≠ 0 ∧ !isNegative then none else some .zero
        else magnitude? significand (if isNegative then start - value else start + value)
    magnitude.map (.real parts.isNegative)

def Number.ofChars? (cs : List Char) : Option Number :=
  (partsOf? cs).bind Parts.number?

end GuestCases.Json
