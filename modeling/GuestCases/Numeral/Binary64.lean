/-!
Binary floating-point numbers of 64 bits, as exact values. A finite magnitude is a mantissa
below 2^53 times a power of two not below 2^-1074. `ofRatio?` rounds a ratio to the nearest
magnitude, a tie to the even mantissa, and is absent beyond the largest one. Products and
quotients are exact ratios that are rounded once.

The shortest decimal of a magnitude has the fewest digits that read back as the number, and of
those the nearest to it. On the grid of decimals with a given number of digits only the number's
two neighbours can be nearest, so the first grid on which one of them reads back gives the digits.
-/

namespace GuestCases.Numeral

/-- The finite magnitude `mantissa * 2 ^ exponent`. -/
structure Binary64 where
  mantissa : Nat
  exponent : Int
deriving DecidableEq, Repr

namespace Binary64

def zero : Binary64 := ⟨0, -1074⟩

def fullMantissa : Nat := 0x10000000000000

/-- `numerator / denominator` as a whole number, a half going to the even neighbour. -/
def roundDiv (numerator denominator : Nat) : Nat :=
  let quotient := numerator / denominator
  let twice := 2 * (numerator % denominator)
  if twice < denominator then quotient
  else if denominator < twice then quotient + 1
  else quotient + quotient % 2

def scale (numerator denominator : Nat) (shift : Int) : Nat × Nat :=
  (numerator * Nat.pow 2 shift.toNat, denominator * Nat.pow 2 (-shift).toNat)

/-- The exponent at which a positive ratio has a mantissa of 53 bits, but not below the least
one. -/
def exponentFor (numerator denominator : Nat) : Int :=
  let guess : Int := (numerator.log2 : Int) - denominator.log2 - 52
  let (n, d) := scale numerator denominator (-guess)
  max (-1074) (if n < fullMantissa * d then guess - 1 else guess)

def ofRatio? (numerator denominator : Nat) : Option Binary64 :=
  if numerator = 0 then some zero
  else
    let exponent := exponentFor numerator denominator
    let (n, d) := scale numerator denominator (-exponent)
    let mantissa := roundDiv n d
    let rounded : Binary64 :=
      if mantissa = 2 * fullMantissa then ⟨fullMantissa, exponent + 1⟩ else ⟨mantissa, exponent⟩
    if 971 < rounded.exponent then none else some rounded

def ratio (x : Binary64) : Nat × Nat :=
  scale x.mantissa 1 x.exponent

def mul? (x y : Binary64) : Option Binary64 :=
  ofRatio? (x.ratio.1 * y.ratio.1) (x.ratio.2 * y.ratio.2)

def div? (x y : Binary64) : Option Binary64 :=
  ofRatio? (x.ratio.1 * y.ratio.2) (x.ratio.2 * y.ratio.1)

def powerOfTen? (exponent : Nat) : Option Binary64 :=
  ofRatio? (Nat.pow 10 exponent) 1

end Binary64

/-- The decimal `0.d₁d₂… * 10 ^ point`. The digits begin and end with no zero, zero apart. -/
structure Decimal where
  digits : List Char
  point : Int
deriving DecidableEq, Repr

namespace Binary64

/-- The ends of the interval of reals that round to the number, in units of a quarter of its
last bit: below a power of two the next number is half as far away. -/
def bounds (x : Binary64) : Nat × Nat :=
  let below := if x.mantissa = fullMantissa ∧ -1074 < x.exponent then 1 else 2
  (4 * x.mantissa - below, 4 * x.mantissa + 2)

def readsBack (x : Binary64) (count : Nat) (power : Int) : Bool :=
  let (unit, parts) := scale 1 4 x.exponent
  let value := count * Nat.pow 10 power.toNat * parts
  let grid := Nat.pow 10 (-power).toNat * unit
  let (low, high) := x.bounds
  if x.mantissa % 2 = 0 then low * grid ≤ value && value ≤ high * grid
  else low * grid < value && value < high * grid

/-- The place of the point in front of which the first digit of a positive ratio stands: the
least `p` with the ratio below `10 ^ p`, found by steps from an estimate that is not above. -/
def pointFrom (fuel : Nat) (numerator denominator : Nat) (estimate : Int) : Int :=
  match fuel with
  | 0 => estimate
  | fuel + 1 =>
    if numerator * Nat.pow 10 (-estimate).toNat < denominator * Nat.pow 10 estimate.toNat then
      estimate
    else pointFrom fuel numerator denominator (estimate + 1)

def point (x : Binary64) : Int :=
  let (n, d) := x.ratio
  pointFrom 800 n d (((n.log2 : Int) - d.log2 - 1) * 30103 / 100000 - 1)

/-- The better neighbour of the number among the decimals whose last digit counts
`10 ^ power`, when one reads back. Of two the nearer is better, of equally near ones the even. -/
def neighbour? (x : Binary64) (power : Int) : Option Nat :=
  let (n, d) := x.ratio
  let numerator := n * Nat.pow 10 (-power).toNat
  let denominator := d * Nat.pow 10 power.toNat
  let low := numerator / denominator
  let best := roundDiv numerator denominator
  let other := if best = low then low + 1 else low
  if x.readsBack best power then some best
  else if x.readsBack other power then some other
  else none

def dropZeros (digits : List Char) : List Char :=
  (digits.reverse.dropWhile (· == '0')).reverse

/-- The first of the grids, given by their numbers of digits, that holds a decimal which reads
back. -/
def firstGrid? (x : Binary64) : List Nat → Option Decimal
  | [] => none
  | count :: rest =>
    let power := x.point - count
    match x.neighbour? power with
    | some found =>
      let digits := Nat.toDigits 10 found
      some ⟨dropZeros digits, power + digits.length⟩
    | none => x.firstGrid? rest

def shortest (x : Binary64) : Decimal :=
  if x.mantissa = 0 then ⟨['0'], 1⟩
  else (x.firstGrid? (List.range' 1 17)).getD ⟨['0'], 1⟩

end Binary64

/-- How decimals are written: positionally when the point is at most `most` and above `least`,
with an exponent otherwise. -/
structure DecimalStyle where
  least : Int
  most : Int
deriving DecidableEq, Repr

def Decimal.positional (x : Decimal) : List Char :=
  let count : Int := x.digits.length
  if count ≤ x.point then
    x.digits ++ List.replicate (x.point - count).toNat '0' ++ ['.', '0']
  else if 0 < x.point then
    x.digits.take x.point.toNat ++ '.' :: x.digits.drop x.point.toNat
  else
    '0' :: '.' :: List.replicate (-x.point).toNat '0' ++ x.digits

def Decimal.scientific (x : Decimal) : List Char :=
  let exponent := x.point - 1
  let sign := if exponent < 0 then '-' else '+'
  let digits :=
    match x.digits with
    | [] => []
    | [d] => [d]
    | d :: rest => d :: '.' :: rest
  digits ++ 'e' :: sign :: Nat.toDigits 10 exponent.natAbs

def Decimal.text (style : DecimalStyle) (x : Decimal) : List Char :=
  if style.least < x.point ∧ x.point ≤ style.most then x.positional else x.scientific

end GuestCases.Numeral
