import StackSynth.Decimal.Reading
import StackSynth.Document.Basic
import StackSynth.Text.Hex

namespace StackSynth.Yaml

def nullWords : List String := ["~", "null", "Null", "NULL"]

def boolean? (s : String) : Option Bool :=
  if ["true", "True", "TRUE"].contains s then some true
  else if ["false", "False", "FALSE"].contains s then some false
  else none

/-- Whether a number is written with zeros in front of it, which makes it a string. -/
def isZeroPadded (cs : List Char) : Bool :=
  match (Decimal.splitSign cs).2 with
  | '0' :: rest => !rest.isEmpty && rest.all Decimal.isDigit
  | _ => false

def naturalOf? (radix : Nat) (cs : List Char) : Option Nat :=
  if cs.isEmpty then none
  else cs.foldl (fun value c => do
    let n ← value
    let digit ← Text.hexValue? c
    if digit < radix then some (n * radix + digit) else none) (some 0)

/-- The value of a whole number in one of the radices with a mark in front. -/
def marked? (cs : List Char) : Option Nat :=
  match cs with
  | '0' :: 'x' :: rest => naturalOf? 16 rest
  | '0' :: 'o' :: rest => naturalOf? 8 rest
  | '0' :: 'b' :: rest => naturalOf? 2 rest
  | _ => none

def wholeNumber? (cs : List Char) : Option Int :=
  let (negative, magnitude) := Decimal.splitSign cs
  let n : Option Nat := (marked? magnitude).or
    (if isZeroPadded cs then none else naturalOf? 10 magnitude)
  n.map fun n => if negative then -(n : Int) else n

/-- A reading of a scalar that wants a whole number. -/
inductive IntegerReading where
  | integer (n : Int)
  /-- A whole number of more than 64 but at most 128 bits. -/
  | tooLarge
  | other
deriving DecidableEq, Repr

/-- Reads a whole number. One of more than 128 bits does not count as such. -/
def readInteger (cs : List Char) : IntegerReading :=
  match wholeNumber? cs with
  | none => .other
  | some n =>
    if -(Nat.pow 2 63 : Int) ≤ n ∧ n < Nat.pow 2 64 then .integer n
    else if -(Nat.pow 2 127 : Int) ≤ n ∧ n < Nat.pow 2 128 then .tooLarge
    else .other

/-- The decimal that characters denote. Finite ones only have a finite value. -/
def decimal? (s : String) : Option Decimal :=
  let unsigned := match s.toList with
    | '+' :: rest => rest
    | cs => cs
  let doublySigned := match s.toList with
    | '+' :: '+' :: _ => true
    | '+' :: '-' :: _ => true
    | _ => false
  if doublySigned then none
  else if [".inf", ".Inf", ".INF"].contains (String.ofList unsigned) then
    some (.infinity false)
  else if ["-.inf", "-.Inf", "-.INF"].contains s then some (.infinity true)
  else if [".nan", ".NaN", ".NAN"].contains s then some .nan
  else (Decimal.Numeral.parse? unsigned).bind fun numeral =>
    let d := Decimal.ofNumeral numeral
    if d.isFinite then some d else none

/-- The document of a scalar without quotes, or nothing if it is a number too large. -/
def plainDocument? (s : String) : Option Document :=
  if s = "" ∨ nullWords.contains s then some .null
  else match boolean? s with
    | some b => some (.boolean b)
    | none =>
      match readInteger s.toList with
      | .integer n => some (.integer n)
      | .tooLarge => none
      | .other =>
        if isZeroPadded s.toList then some (.string s)
        else match decimal? s with
          | some d => some (.decimal d)
          | none => some (.string s)

/-- Whether a string may be written without quotes, as far as its reading is concerned. -/
def readsAsString (s : String) : Bool :=
  !isZeroPadded s.toList && match plainDocument? s with
    | some (.string _) => true
    | _ => false

/-- The document of a scalar with one of the tags that name a type, or nothing if the characters do
not denote that type. Other tags leave the characters alone. -/
def typedDocument? (tag s : String) : Option Document :=
  match tag with
  | "tag:yaml.org,2002:bool" => (boolean? s).map .boolean
  | "tag:yaml.org,2002:int" =>
    match readInteger s.toList with
    | .integer n => some (.integer n)
    | _ => none
  | "tag:yaml.org,2002:float" => (decimal? s).map .decimal
  | "tag:yaml.org,2002:null" => if nullWords.contains s then some .null else none
  | _ => some (.string s)

end StackSynth.Yaml
