import StackSynth.Decimal.Shortest

namespace StackSynth.Decimal

structure Layout where
  /-- Exponents of the leading digit that are written positionally. -/
  least : Int
  greatest : Int
  plus : Bool
  infinity : String
  nan : String

/-- The digits of a number and the exponent of the first one. -/
def Digits.text (d : Digits) : List Char × Int :=
  let digits := Nat.toDigits 10 d.significand
  (digits, d.exponent + digits.length - 1)

/-- Digits with a point in their right place, and a digit on both sides of it. -/
def positional (digits : List Char) (leading : Int) : List Char :=
  if leading < 0 then ['0', '.'] ++ List.replicate (-leading - 1).toNat '0' ++ digits
  else
    let whole := leading.toNat + 1
    if digits.length ≤ whole then
      digits ++ List.replicate (whole - digits.length) '0' ++ ['.', '0']
    else digits.take whole ++ '.' :: digits.drop whole

/-- Digits with a point behind the first one, and an exponent. -/
def scientific (plus : Bool) (digits : List Char) (leading : Int) : List Char :=
  let sign := if leading < 0 then ['-'] else if plus then ['+'] else []
  (match digits with
    | [] => []
    | [digit] => [digit]
    | digit :: rest => digit :: '.' :: rest)
    ++ 'e' :: sign ++ Nat.toDigits 10 leading.natAbs

def render (layout : Layout) (d : Decimal) : String :=
  let signed (negative : Bool) (cs : List Char) : String :=
    String.ofList (if negative then '-' :: cs else cs)
  match d.meaning with
  | .nan => layout.nan
  | .infinite negative => signed negative layout.infinity.toList
  | .finite negative mantissa exponent =>
    if mantissa = 0 then signed negative ['0', '.', '0']
    else
      let (digits, leading) := (shortest mantissa exponent).text
      signed negative <|
        if layout.least ≤ leading ∧ leading ≤ layout.greatest then positional digits leading
        else scientific layout.plus digits leading

/-- Numbers in yaml: positional from `10 ^ -5` to below `10 ^ 16`. -/
def yamlLayout : Layout := ⟨-5, 15, false, ".inf", ".nan"⟩

/-- Numbers in json, where a positive exponent has a sign. -/
def jsonLayout : Layout := ⟨-5, 15, true, "null", "null"⟩

/-- Numbers in listings: positional from `10 ^ -4` to below `10 ^ 16`. -/
def listingLayout : Layout := ⟨-4, 15, false, "inf", "NaN"⟩

/-- Numbers in messages: always positional. -/
def messageLayout : Layout := ⟨-324, 308, false, "inf", "NaN"⟩

end StackSynth.Decimal
