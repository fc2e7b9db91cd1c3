import StackSynth.Decimal.Basic

namespace StackSynth.Decimal

/-- A written number: `± significand · 10 ^ exponent`. -/
structure Numeral where
  negative : Bool
  significand : Nat
  exponent : Int
deriving DecidableEq, Repr

def isDigit (c : Char) : Bool :=
  '0' ≤ c && c ≤ '9'

/-- The number that a list of digits continues. -/
def ofDigits (start : Nat) (digits : List Char) : Nat :=
  digits.foldl (fun n c => n * 10 + (c.toNat - 48)) start

def splitSign : List Char → Bool × List Char
  | '-' :: rest => (true, rest)
  | '+' :: rest => (false, rest)
  | cs => (false, cs)

/-- The exponent that a text ends in: nothing, or `e` and a signed number. -/
def readExponent? : List Char → Option Int
  | [] => some 0
  | c :: rest =>
    if c = 'e' ∨ c = 'E' then
      let (negative, digits) := splitSign rest
      if digits.isEmpty ∨ ¬ digits.all isDigit then none
      else
        let n : Int := ofDigits 0 digits
        some (if negative then -n else n)
    else none

/-- Reads a number with an optional sign, fraction and exponent. At least one digit stands before
or behind the point. -/
def Numeral.parse? (cs : List Char) : Option Numeral :=
  let (negative, unsigned) := splitSign cs
  let whole := unsigned.takeWhile isDigit
  let (fraction, rest) :=
    match unsigned.dropWhile isDigit with
    | '.' :: rest => (rest.takeWhile isDigit, rest.dropWhile isDigit)
    | rest => ([], rest)
  if whole.isEmpty ∧ fraction.isEmpty then none
  else (readExponent? rest).map fun exponent =>
    ⟨negative, ofDigits (ofDigits 0 whole) fraction, exponent - fraction.length⟩

/-- `numerator / denominator` rounded to a whole number, a half to the even neighbour. -/
def roundQuotient (numerator denominator : Nat) : Nat :=
  let floor := numerator / denominator
  let twiceRest := 2 * (numerator % denominator)
  if denominator < twiceRest ∨ (twiceRest = denominator ∧ floor % 2 = 1) then floor + 1 else floor

/-- The number nearest to `± numerator / denominator`. The mantissa gets 53 bits, or as many as
the smallest exponent leaves; a mantissa rounded up to 54 bits moves into the exponent bits. -/
def ofQuotient (negative : Bool) (numerator denominator : Nat) : Decimal :=
  if numerator = 0 then ofParts negative 0
  else
    let scale (q : Int) : Nat × Nat :=
      (numerator * Nat.pow 2 (-q).toNat, denominator * Nat.pow 2 q.toNat)
    -- scaled by the guess, the quotient lies from `2 ^ 52` up to `2 ^ 54`
    let guess : Int := numerator.log2 - denominator.log2 - 53
    let exact : Int :=
      let (n, d) := scale guess
      if n / d < Nat.pow 2 53 then guess else guess + 1
    let exponent := max exact (-1074)
    let (n, d) := scale exponent
    let mantissa := roundQuotient n d
    let magnitude :=
      if mantissa < Nat.pow 2 52 then mantissa
      else (exponent + 1075).toNat * Nat.pow 2 52 + (mantissa - Nat.pow 2 52)
    if 2047 * Nat.pow 2 52 ≤ magnitude then infinity negative else ofParts negative magnitude

/-- The number nearest to a numeral. Numerals whose leading digit lies beyond `10 ^ 310` or below
`10 ^ -330` are infinite or zero, whatever their digits. -/
def ofNumeral (x : Numeral) : Decimal :=
  let leading : Int := x.exponent + (Nat.toDigits 10 x.significand).length
  if x.significand = 0 ∨ leading < -330 then ofParts x.negative 0
  else if 311 < leading then infinity x.negative
  else
    ofQuotient x.negative (x.significand * Nat.pow 10 x.exponent.toNat)
      (Nat.pow 10 (-x.exponent).toNat)

def parse? (s : String) : Option Decimal :=
  (Numeral.parse? s.toList).map ofNumeral

end StackSynth.Decimal
