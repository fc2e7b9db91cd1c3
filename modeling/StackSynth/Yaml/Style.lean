import StackSynth.Yaml.Scalar

namespace StackSynth.Yaml

inductive Style where
  | plain
  | singleQuoted
  | doubleQuoted
  | literal
deriving DecidableEq, Repr

def isBreak (c : Char) : Bool :=
  c = '\n' || c = '\r' || c = '\u0085' || c = '\u2028' || c = '\u2029'

def isBlank (c : Char) : Bool :=
  c = ' ' || c = '\t'

/-- Whether a text ends here, or goes on with a blank or a new line. -/
def startsBlank : List Char → Bool
  | [] => true
  | c :: _ => isBlank c || isBreak c || c = '\u0000'

def isPrintable (c : Char) : Bool :=
  let n := c.toNat
  n = 0x0A || (0x20 ≤ n && n ≤ 0x7E) || (0xA0 ≤ n && n ≤ 0xD7FF)
    || (0xE000 ≤ n && n ≤ 0xFFFD && n ≠ 0xFEFF)

/-- Characters that mean something at the start of a scalar. -/
def startIndicators : List Char :=
  ['#', ',', '[', ']', '\x7b', '\x7d', '&', '*', '!', '|', '>', '\x27', '"', '%', '@', '\x60']

/-- Whether the first characters of a text would be read as something else than a scalar. -/
def opensOther (cs : List Char) : Bool :=
  match cs with
  | '-' :: '-' :: '-' :: _ => true
  | '.' :: '.' :: '.' :: _ => true
  | [] => false
  | c :: rest =>
    startIndicators.contains c || ((c = '?' || c = ':' || c = '-') && startsBlank rest)

/-- Whether a `:` or `#` behind the first character would end a scalar: a `:` in front of a blank,
or a `#` behind one. -/
def endsInside (previous : Char) : List Char → Bool
  | [] => false
  | c :: rest =>
    (c = ':' && startsBlank rest) || (c = '#' && startsBlank [previous]) || endsInside c rest

/-- Whether a character with the first property is directly followed by one with the second. -/
def hasPair (first second : Char → Bool) : List Char → Bool
  | c :: d :: rest => (first c && second d) || hasPair first second (d :: rest)
  | _ => false

structure Allowance where
  multiline : Bool
  plain : Bool
  singleQuoted : Bool
  literal : Bool
deriving DecidableEq, Repr

def Allowance.of (cs : List Char) : Allowance :=
  match cs with
  | [] => ⟨false, true, true, false⟩
  | first :: rest =>
    let last := cs.getLast?.getD first
    let isSpace (c : Char) : Bool := c = ' '
    let special := cs.any (fun c => !isPrintable c) || hasPair isSpace isBreak cs
    let atEnds := isSpace first || isBreak first || isSpace last || isBreak last
    let multiline := cs.any isBreak
    let spaceAfterBreak := hasPair isBreak isSpace cs
    let indicators := opensOther cs || endsInside first rest
    { multiline
      plain := !(special || atEnds || multiline || indicators)
      singleQuoted := !(special || spaceAfterBreak)
      literal := !(special || isSpace last) }

/-- The style of a string, as a simple key or elsewhere. Strings of several lines are literal if
they can be; strings that would read as something else are quoted. -/
def Style.of (s : String) (isSimpleKey : Bool) : Style :=
  let cs := s.toList
  let allowance := Allowance.of cs
  let single := if allowance.singleQuoted then singleQuoted else doubleQuoted
  if isSimpleKey ∧ allowance.multiline then doubleQuoted
  else if cs.contains '\n' then
    if allowance.literal ∧ ¬ isSimpleKey then literal else doubleQuoted
  else if readsAsString s ∧ allowance.plain ∧ s ≠ "" then plain
  else single

end StackSynth.Yaml
