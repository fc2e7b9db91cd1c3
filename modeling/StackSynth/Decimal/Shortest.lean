import StackSynth.Decimal.Basic
/-!
The fewest digits that read back: of all decimal numbers that round to a floating point number, one
with the fewest digits, and of those the nearest, a tie going to the even digit.
-/
namespace StackSynth.Decimal

/-- A positive decimal number `significand · 10 ^ exponent`. -/
structure Digits where
  significand : Nat
  exponent : Int
deriving DecidableEq, Repr

/-- The numbers that round to `mantissa · 2 ^ exponent`, and the number itself, all in quarters of
the last bit. -/
structure Interval where
  low : Nat
  value : Nat
  high : Nat
  /-- Whether the ends belong to the interval. -/
  closed : Bool
  /-- The exponent of a quarter. -/
  exponent : Int

/-- The interval of a mantissa and exponent. Below a power of two the neighbours lie twice as
dense. -/
def Interval.of (mantissa : Nat) (exponent : Int) : Interval where
  low := if mantissa = Nat.pow 2 52 ∧ -1074 < exponent then 4 * mantissa - 1 else 4 * mantissa - 2
  value := 4 * mantissa
  high := 4 * mantissa + 2
  closed := mantissa % 2 = 0
  exponent := exponent - 2

/-- Factors `(a, b)` that make `n · 10 ^ p` and a number of quarters `m` comparable: as `n · a` and
`m · b`. -/
def Interval.factors (i : Interval) (p : Int) : Nat × Nat :=
  (Nat.pow 10 p.toNat * Nat.pow 2 (-i.exponent).toNat,
    Nat.pow 10 (-p).toNat * Nat.pow 2 i.exponent.toNat)

/-- The multiple of `10 ^ p` nearest to the value that lies in the interval, if one does. -/
def Interval.onGrid? (i : Interval) (p : Int) : Option Nat :=
  let (a, b) := i.factors p
  let inside (n : Nat) : Bool :=
    if i.closed then i.low * b ≤ n * a && n * a ≤ i.high * b
    else i.low * b < n * a && n * a < i.high * b
  -- if any multiple lies in the interval, one of the two around the value does
  let below := i.value * b / a
  let above := below + 1
  match inside below, inside above with
  | true, true =>
    let gap := i.value * b - below * a
    let gapAbove := above * a - i.value * b
    some (if gap < gapAbove ∨ (gap = gapAbove ∧ below % 2 = 0) then below else above)
  | true, false => some below
  | false, true => some above
  | false, false => none

/-- The exponent of the leading digit of the value. -/
def Interval.leading (i : Interval) : Int :=
  let (a, b) := i.factors (-400)
  (Nat.toDigits 10 (i.value * b / a)).length - 401

/-- A number without the zeros at its end, which go into the exponent. -/
def Digits.normalize : (fuel : Nat) → Digits → Digits
  | 0, d => d
  | fuel + 1, d =>
    if d.significand % 10 = 0 ∧ d.significand ≠ 0 then
      normalize fuel ⟨d.significand / 10, d.exponent + 1⟩
    else d

/-- The first hit of grids with one digit more each time, at most `count` of them. -/
def Interval.search (i : Interval) : (count : Nat) → (p : Int) → Digits
  | 0, p => ⟨(i.onGrid? p).getD 0, p⟩
  | count + 1, p =>
    match i.onGrid? p with
    | some n => ⟨n, p⟩
    | none => search i count (p - 1)

/-- The fewest digits of a positive number. Seventeen always suffice. -/
def shortest (mantissa : Nat) (exponent : Int) : Digits :=
  let i := Interval.of mantissa exponent
  (i.search 16 i.leading).normalize 400

end StackSynth.Decimal
