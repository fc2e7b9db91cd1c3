import StackSynth.Decimal.Layout
import StackSynth.Text.Hex
import StackSynth.Value.Basic

namespace StackSynth.Json

def escapeChar (c : Char) : List Char :=
  match c with
  | '"' => ['\\', '"']
  | '\\' => ['\\', '\\']
  | '\u0008' => ['\\', 'b']
  | '\u000c' => ['\\', 'f']
  | '\n' => ['\\', 'n']
  | '\r' => ['\\', 'r']
  | '\t' => ['\\', 't']
  | c => if c.toNat < 32 then '\\' :: 'u' :: Text.hexDigits 4 c.toNat else [c]

def escape (cs : List Char) : List Char :=
  cs.flatMap escapeChar

def quote (s : String) : List Char :=
  '"' :: escape s.toList ++ ['"']

def integer (n : Int) : List Char :=
  (if n < 0 then ['-'] else []) ++ Nat.toDigits 10 n.natAbs

def decimal (d : Decimal) : List Char :=
  if d.isFinite then (d.render Decimal.jsonLayout).toList else "null".toList

mutual

/-- A value on one line, without spaces. -/
def compact : Value → List Char
  | .null => "null".toList
  | .boolean b => (if b then "true" else "false").toList
  | .integer n => integer n
  | .decimal d => decimal d
  | .string s => quote s
  | .array items => '[' :: compactItems true items ++ [']']
  | .object entries => '\x7b' :: compactEntries true entries ++ ['\x7d']
termination_by structural value => value

/-- Items with commas before all but the first. -/
def compactItems (first : Bool) : List Value → List Char
  | [] => []
  | item :: rest => (if first then [] else [',']) ++ compact item ++ compactItems false rest
termination_by structural items => items

def compactEntries (first : Bool) : List (String × Value) → List Char
  | [] => []
  | (key, value) :: rest =>
    (if first then [] else [',']) ++ quote key ++ ':' :: compact value
      ++ compactEntries false rest
termination_by structural entries => entries

end

def newLine (level : Nat) : List Char :=
  '\n' :: List.replicate (2 * level) ' '

mutual

/-- A value whose items and entries stand on lines of their own. -/
def pretty (level : Nat) : Value → List Char
  | .null => "null".toList
  | .boolean b => (if b then "true" else "false").toList
  | .integer n => integer n
  | .decimal d => decimal d
  | .string s => quote s
  | .array [] => ['[', ']']
  | .array (item :: rest) =>
    '[' :: newLine (level + 1) ++ pretty (level + 1) item ++ prettyItems (level + 1) rest
      ++ newLine level ++ [']']
  | .object [] => ['\x7b', '\x7d']
  | .object ((key, value) :: rest) =>
    '\x7b' :: newLine (level + 1) ++ quote key ++ ':' :: ' ' :: pretty (level + 1) value
      ++ prettyEntries (level + 1) rest ++ newLine level ++ ['\x7d']
termination_by structural value => value

def prettyItems (level : Nat) : List Value → List Char
  | [] => []
  | item :: rest => ',' :: newLine level ++ pretty level item ++ prettyItems level rest
termination_by structural items => items

def prettyEntries (level : Nat) : List (String × Value) → List Char
  | [] => []
  | (key, value) :: rest =>
    ',' :: newLine level ++ quote key ++ ':' :: ' ' :: pretty level value
      ++ prettyEntries level rest
termination_by structural entries => entries

end

def render (value : Value) : String :=
  String.ofList (compact value)

def renderPretty (value : Value) : String :=
  String.ofList (pretty 0 value)

end StackSynth.Json
