import StackSynth.Decimal.Layout
import StackSynth.Value.Basic
import StackSynth.Yaml.Style

namespace StackSynth.Yaml

structure Page where
  text : String := ""
  /-- How many characters stand on the current line. -/
  column : Nat := 0
  /-- Whether a blank or a new line comes last. -/
  spaced : Bool := true
  /-- Whether the line holds nothing but indentation and indicators of items. -/
  fresh : Bool := true

namespace Page

def put (page : Page) (cs : List Char) : Page :=
  { page with text := page.text ++ String.ofList cs, column := page.column + cs.length }

def putBreak (page : Page) : Page :=
  { page with text := page.text.push '\n', column := 0 }

/-- Writes an indicator, with a space in front of it where one is needed. -/
def indicator (page : Page) (cs : List Char) (needsSpace spaced fresh : Bool) : Page :=
  let page := if needsSpace && !page.spaced then page.put [' '] else page
  { page.put cs with spaced := spaced, fresh := page.fresh && fresh }

/-- Goes to an indentation, on a new line unless this one still allows it. -/
def indent (page : Page) (width : Nat) : Page :=
  let page :=
    if !page.fresh || width < page.column || (page.column = width && !page.spaced) then
      page.putBreak
    else page
  { page.put (List.replicate (width - page.column) ' ') with spaced := true, fresh := true }

def closeScalar (page : Page) : Page :=
  { page with spaced := false, fresh := false }

def plain (page : Page) (cs : List Char) : Page :=
  let page := if page.spaced then page else page.put [' ']
  (page.put cs).closeScalar

/-- Writes a character of a scalar which may be the end of a line. -/
def putAny (page : Page) (c : Char) : Page :=
  if c = '\n' then page.putBreak
  else if isBreak c then { page with text := page.text.push c, column := 0 }
  else page.put [c]

def singleQuotedFrom (width : Nat) (afterBreak : Bool) : List Char → Page → Page
  | [], page => if afterBreak then page.indent width else page
  | c :: rest, page =>
    if isBreak c then
      let page := if !afterBreak && c = '\n' then page.putBreak else page
      singleQuotedFrom width true rest { page.putAny c with fresh := true }
    else
      let page := if afterBreak then page.indent width else page
      let page := if c = '\x27' then page.put [c, c] else page.put [c]
      singleQuotedFrom width false rest { page with fresh := false }

def singleQuoted (page : Page) (width : Nat) (cs : List Char) : Page :=
  let page := page.indicator ['\x27'] true false false
  ((singleQuotedFrom width false cs page).indicator ['\x27'] false false false).closeScalar

def capital (c : Char) : Char :=
  if c.isLower then Char.ofNat (c.toNat - 32) else c

def escaped (c : Char) : List Char :=
  match c with
  | '\u0000' => ['\\', '0']
  | '\u0007' => ['\\', 'a']
  | '\u0008' => ['\\', 'b']
  | '\t' => ['\\', 't']
  | '\n' => ['\\', 'n']
  | '\u000b' => ['\\', 'v']
  | '\u000c' => ['\\', 'f']
  | '\r' => ['\\', 'r']
  | '\u001b' => ['\\', 'e']
  | '"' => ['\\', '"']
  | '\\' => ['\\', '\\']
  | '\u0085' => ['\\', 'N']
  | '\u2028' => ['\\', 'L']
  | '\u2029' => ['\\', 'P']
  | c =>
    if isPrintable c then [c]
    else
      let (mark, width) :=
        if c.toNat ≤ 0xFF then ('x', 2) else if c.toNat ≤ 0xFFFF then ('u', 4) else ('U', 8)
      '\\' :: mark :: (Text.hexDigits width c.toNat).map capital

def doubleQuoted (page : Page) (cs : List Char) : Page :=
  let page := page.indicator ['"'] true false false
  ((page.put (cs.flatMap escaped)).indicator ['"'] false false false).closeScalar

/-- The marks of a literal scalar: the indentation if it starts with a space or a new line, and what
becomes of the lines at its end. -/
def literalMarks (cs : List Char) : List Char :=
  let indentation := match cs with
    | c :: _ => if c = ' ' ∨ isBreak c then ['2'] else []
    | [] => []
  let ending := match cs.reverse with
    | [] => ['-']
    | last :: rest =>
      if !isBreak last then ['-']
      else match rest with
        | [] => ['+']
        | c :: _ => if isBreak c then ['+'] else []
  indentation ++ ending

def literalFrom (width : Nat) (afterBreak : Bool) : List Char → Page → Page
  | [], page => page
  | c :: rest, page =>
    if isBreak c then literalFrom width true rest { page.putAny c with fresh := true }
    else
      let page := if afterBreak then page.indent width else page
      literalFrom width false rest { page.put [c] with fresh := false }

def literal (page : Page) (width : Nat) (cs : List Char) : Page :=
  let page := (page.indicator ['|'] true false false).indicator (literalMarks cs) false false false
  literalFrom width true cs { page.putBreak with spaced := true, fresh := true }

def string (page : Page) (width : Nat) (isSimpleKey : Bool) (s : String) : Page :=
  let cs := s.toList
  match Style.of s isSimpleKey with
  | .plain => page.plain cs
  | .singleQuoted => page.singleQuoted width cs
  | .doubleQuoted => page.doubleQuoted cs
  | .literal => page.literal width cs

end Page

def isSimpleKey (key : String) : Bool :=
  key.utf8ByteSize ≤ 128 && !key.toList.any isBreak

/-- The width of what is inside a collection: two more than that of the collection, and none at the
root. -/
def deeper : Option Nat → Nat
  | none => 0
  | some width => width + 2

def scalarWidth : Option Nat → Nat
  | none => 2
  | some width => width + 2

def Page.key (page : Page) (width : Nat) (key : String) : Page :=
  let page := page.indent width
  if isSimpleKey key then
    (page.string (width + 2) true key).indicator [':'] false false false
  else
    let page := (page.indicator ['?'] true false true).string (width + 2) false key
    (page.indent width).indicator [':'] true false true

mutual

/-- Writes a value. `width` is the indentation of the collection it stands in, `inMapping` tells
whether that is a mapping. -/
def writeValue (width : Option Nat) (inMapping : Bool) : Value → Page → Page
  | .null, page => page.plain "null".toList
  | .boolean b, page => page.plain (if b then "true" else "false").toList
  | .integer n, page => page.plain (toString n).toList
  | .decimal d, page => page.plain (d.render Decimal.yamlLayout).toList
  | .string s, page => page.string (scalarWidth width) false s
  | .array [], page => (page.indicator ['['] true true false).indicator [']'] false false false
  | .array (item :: rest), page =>
    -- behind a key the items stand at the column of that key
    let inner := if inMapping && !page.fresh then width.getD 0 else deeper width
    let page := (page.indent inner).indicator ['-'] true false true
    writeItems inner rest (writeValue (some inner) false item page)
  | .object [], page =>
    (page.indicator ['\x7b'] true true false).indicator ['\x7d'] false false false
  | .object ((key, value) :: rest), page =>
    let inner := deeper width
    writeEntries inner rest (writeValue (some inner) true value (page.key inner key))
termination_by structural value => value

def writeItems (width : Nat) : List Value → Page → Page
  | [], page => page
  | item :: rest, page =>
    let page := (page.indent width).indicator ['-'] true false true
    writeItems width rest (writeValue (some width) false item page)
termination_by structural items => items

def writeEntries (width : Nat) : List (String × Value) → Page → Page
  | [], page => page
  | (key, value) :: rest, page =>
    writeEntries width rest (writeValue (some width) true value (page.key width key))
termination_by structural entries => entries

end

def render (value : Value) : String :=
  ((writeValue none false value {}).indent 0).text

end StackSynth.Yaml
