import StackSynth.Yaml.Style

namespace StackSynth.Yaml

/-- Whether a character may stand in a yaml text at all. -/
def isAllowed (c : Char) : Bool :=
  let n := c.toNat
  n = 0x9 || n = 0xA || n = 0xD || (0x20 ≤ n && n ≤ 0x7E) || n = 0x85
    || (0xA0 ≤ n && n ≤ 0xD7FF) || (0xE000 ≤ n && n ≤ 0xFFFD) || 0x10000 ≤ n

/-- A text in which all ends of lines but the line and paragraph separators are line feeds. -/
def unifyBreaks : List Char → List Char
  | [] => []
  | '\r' :: '\n' :: rest => '\n' :: unifyBreaks rest
  | c :: rest => (if c = '\r' ∨ c = '\u0085' then '\n' else c) :: unifyBreaks rest

structure Position where
  index : Nat := 0
  line : Nat := 0
  /-- How many characters stand before it on its line. -/
  column : Nat := 0
deriving DecidableEq, Repr, Inhabited

def Position.next (position : Position) (c : Char) : Position :=
  if isBreak c then ⟨position.index + 1, position.line + 1, 0⟩
  else ⟨position.index + 1, position.line, position.column + 1⟩

def Position.advance (position : Position) (count : Nat) : Position :=
  ⟨position.index + count, position.line, position.column + count⟩

/-- The rest of a text and its place. -/
structure Cursor where
  position : Position
  rest : List Char
deriving Repr, Inhabited

namespace Cursor

def peek? (cursor : Cursor) : Option Char :=
  cursor.rest.head?

def drop (cursor : Cursor) (count : Nat) : Cursor :=
  ⟨cursor.position.advance count, cursor.rest.drop count⟩

def takeWhile (cursor : Cursor) (p : Char → Bool) : List Char × Cursor :=
  let taken := cursor.rest.takeWhile p
  (taken, cursor.drop taken.length)

def skipWhile (cursor : Cursor) (p : Char → Bool) : Cursor :=
  (cursor.takeWhile p).2

def skipLine (cursor : Cursor) : Cursor :=
  cursor.skipWhile fun c => !isBreak c

def skipComment (cursor : Cursor) : Cursor :=
  if cursor.peek? = some '#' then cursor.skipLine else cursor

/-- The end of the line at this place, if there is one. -/
def takeBreak (cursor : Cursor) : List Char × Cursor :=
  match cursor.rest with
  | c :: rest => if isBreak c then ([c], ⟨cursor.position.next c, rest⟩) else ([], cursor)
  | [] => ([], cursor)

/-- Whether the text ends here, or goes on with a blank or a new line. -/
def atBlank (cursor : Cursor) : Bool :=
  startsBlank cursor.rest

def atLineEnd (cursor : Cursor) : Bool :=
  match cursor.rest with
  | [] => true
  | c :: _ => isBreak c

end Cursor

/-- Whether a line starts with a mark between documents. -/
def startsDocument (position : Position) (cs : List Char) : Bool :=
  position.column = 0 && match cs with
    | '-' :: '-' :: '-' :: rest => startsBlank rest
    | '.' :: '.' :: '.' :: rest => startsBlank rest
    | _ => false

end StackSynth.Yaml
