import StackSynth.Hcl.Template
import StackSynth.Json
import StackSynth.Text.Identifier

namespace StackSynth.Hcl

inductive ObjectKey where
  | identifier (name : String)
  | quoted (text : String)
deriving DecidableEq, Repr

inductive Expression where
  | null
  | boolean (b : Bool)
  | integer (n : Int)
  | decimal (d : Decimal)
  | string (s : String)
  /-- A quoted template, given by what stands between its quotes. -/
  | template (source : String)
  | array (items : List Expression)
  | object (entries : List (ObjectKey × Expression))
deriving Repr, Inhabited

/-- The key that a text becomes: an identifier stands bare. -/
def ObjectKey.ofString (s : String) : ObjectKey :=
  if Text.isIdentifier s then identifier s else quoted s

/-- The number that a decimal becomes: an integer if it is whole and fits into 64 bits, signed or
not, and nothing if it is not finite. -/
def Expression.ofDecimal (d : Decimal) : Expression :=
  match d.toInt? with
  | some n =>
    if -(Nat.pow 2 63 : Int) ≤ n ∧ n ≤ Nat.pow 2 64 then integer (min n (Nat.pow 2 64 - 1))
    else decimal d
  | none => if d.isFinite then decimal d else null

/-- The expression of a string: a template if the string has references. -/
def Expression.ofString (s : String) : Expression :=
  match quotedTemplate? s with
  | some source => template source
  | none => string s

mutual

def Expression.ofValue : Value → Expression
  | .null => .null
  | .boolean b => .boolean b
  | .integer n => .integer n
  | .decimal d => .ofDecimal d
  | .string s => .ofString s
  | .array items => .array (itemExpressions items)
  | .object entries => .object (entryExpressions entries)
termination_by structural value => value

def itemExpressions : List Value → List Expression
  | [] => []
  | item :: rest => .ofValue item :: itemExpressions rest
termination_by structural items => items

def entryExpressions : List (String × Value) → List (ObjectKey × Expression)
  | [] => []
  | (key, value) :: rest => (.ofString key, .ofValue value) :: entryExpressions rest
termination_by structural entries => entries

end

/-- A text from its first opening mark on: it is read in steps of one character, or of two at a `$`
or `%`, and a mark met at the start of a step is doubled. -/
def doubleMarks : List Char → List Char
  | [] => []
  | [c] => [c]
  | c :: d :: rest =>
    if c = '$' ∨ c = '%' then
      if d = '\x7b' then c :: c :: d :: doubleMarks rest else c :: d :: doubleMarks rest
    else c :: doubleMarks (d :: rest)

/-- A text whose opening marks `${` and `%{` open nothing. What stands before the first one is
kept. -/
def escapeMarks : List Char → List Char
  | [] => []
  | c :: rest =>
    if (c = '$' ∨ c = '%') ∧ rest.head? = some '\x7b' then doubleMarks (c :: rest)
    else c :: escapeMarks rest

def quote (s : String) : List Char :=
  '"' :: escapeMarks (Json.escape s.toList) ++ ['"']

def decimalText (d : Decimal) : List Char :=
  (d.render Decimal.yamlLayout).toList

def ObjectKey.text : ObjectKey → List Char
  | identifier name => name.toList
  | quoted s => quote s

mutual

def Expression.text (level : Nat) : Expression → List Char
  | .null => "null".toList
  | .boolean b => (if b then "true" else "false").toList
  | .integer n => Json.integer n
  | .decimal d => decimalText d
  | .string s => quote s
  | .template source => '"' :: source.toList ++ ['"']
  | .array [] => ['[', ']']
  | .array (item :: rest) =>
    '[' :: Json.newLine (level + 1) ++ item.text (level + 1) ++ itemTexts (level + 1) rest
      ++ Json.newLine level ++ [']']
  | .object [] => ['\x7b', '\x7d']
  | .object ((key, value) :: rest) =>
    '\x7b' :: Json.newLine (level + 1) ++ key.text ++ " = ".toList ++ value.text (level + 1)
      ++ entryTexts (level + 1) rest ++ Json.newLine level ++ ['\x7d']
termination_by structural expression => expression

/-- The items behind the first one, with commas before them. -/
def itemTexts (level : Nat) : List Expression → List Char
  | [] => []
  | item :: rest => ',' :: Json.newLine level ++ item.text level ++ itemTexts level rest
termination_by structural items => items

/-- The entries behind the first one, each on its line. -/
def entryTexts (level : Nat) : List (ObjectKey × Expression) → List Char
  | [] => []
  | (key, value) :: rest =>
    Json.newLine level ++ key.text ++ " = ".toList ++ value.text level ++ entryTexts level rest
termination_by structural entries => entries

end

def Expression.render (expression : Expression) : String :=
  String.ofList (expression.text 0)

end StackSynth.Hcl
