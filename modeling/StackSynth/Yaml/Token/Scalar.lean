import StackSynth.Yaml.Cursor

namespace StackSynth.Yaml

/-- Blanks and new lines between two characters of a scalar. -/
structure Gap where
  /-- The blanks before the first new line. -/
  blanks : List Char := []
  firstBreak : List Char := []
  breaks : List Char := []
  broken : Bool := false

namespace Gap

/-- A gap with a further blank or new line. Blanks at the start of a line do not count. -/
def add (gap : Gap) (c : Char) : Gap :=
  if isBreak c then
    if gap.broken then { gap with breaks := gap.breaks ++ [c] }
    else { gap with blanks := [], firstBreak := [c], broken := true }
  else if gap.broken then gap
  else { gap with blanks := gap.blanks ++ [c] }

def chars (gap : Gap) : List Char :=
  if gap.broken then
    if gap.firstBreak.head? = some '\n' then
      if gap.breaks.isEmpty then [' '] else gap.breaks
    else gap.firstBreak ++ gap.breaks
  else gap.blanks

def appendTo (gap : Gap) (text : String) : String :=
  text ++ String.ofList gap.chars

end Gap

/-- A scalar that was read, and the place behind it. -/
structure ScalarReading where
  text : String
  /-- Whether blanks up to a later line were passed over behind it. -/
  brokenAfter : Bool := false
  cursor : Cursor

def isFlowIndicator (c : Char) : Bool :=
  c = ',' || c = '[' || c = ']' || c = '\x7b' || c = '\x7d'

/-- Reads a scalar without quotes whose characters so far are `text` and whose further lines are
indented by at least `least`. `gap` is what was read since the last character, if anything. -/
def scanPlain (inFlow : Bool) (least : Nat) (text : String) (gap : Option Gap)
    (position : Position) : List Char → Option ScalarReading
  | [] => some ⟨text, gap.any (·.broken), position, []⟩
  | c :: rest =>
    if isBlank c || isBreak c then
      if c = '\t' && gap.any (·.broken) && position.column < least then none
      else scanPlain inFlow least text ((gap.getD {}).add c) (position.next c) rest
    else
      let stop : Option ScalarReading :=
        some ⟨text, gap.any (·.broken), position, c :: rest⟩
      -- behind a gap, a lesser indentation, a mark between documents or a comment ends the scalar
      if gap.isSome && ((!inFlow && position.column < least)
          || startsDocument position (c :: rest) || c = '#') then stop
      else if inFlow && c = ':' && rest.head?.any (fun d => isFlowIndicator d || d = '?') then none
      else if (c = ':' && startsBlank rest) || (inFlow && isFlowIndicator c) then stop
      else
        let text := ((gap.getD {}).appendTo text).push c
        scanPlain inFlow least text none (position.next c) rest

/-- Reads a scalar in single quotes behind its first quote. A quote inside is written twice. -/
def scanSingleQuoted (text : String) (gap : Gap) (position : Position) :
    List Char → Option ScalarReading
  | [] => none
  | '\x27' :: '\x27' :: rest =>
    scanSingleQuoted ((gap.appendTo text).push '\x27') {} (position.advance 2) rest
  | c :: rest =>
    if startsDocument position (c :: rest) then none
    else if c = '\x27' then some ⟨gap.appendTo text, false, position.advance 1, rest⟩
    else if isBlank c || isBreak c then
      scanSingleQuoted text (gap.add c) (position.next c) rest
    else scanSingleQuoted ((gap.appendTo text).push c) {} (position.next c) rest

def unescape? : Char → Option Char
  | '0' => some '\u0000'
  | 'a' => some '\u0007'
  | 'b' => some '\u0008'
  | 't' => some '\t'
  | '\t' => some '\t'
  | 'n' => some '\n'
  | 'v' => some '\u000b'
  | 'f' => some '\u000c'
  | 'r' => some '\r'
  | 'e' => some '\u001b'
  | ' ' => some ' '
  | '"' => some '"'
  | '/' => some '/'
  | '\\' => some '\\'
  | 'N' => some '\u0085'
  | '_' => some '\u00a0'
  | 'L' => some '\u2028'
  | 'P' => some '\u2029'
  | _ => none

/-- How many hexadecimal digits follow a letter behind a backslash. -/
def escapeWidth? : Char → Option Nat
  | 'x' => some 2
  | 'u' => some 4
  | 'U' => some 8
  | _ => none

def charOf? (n : Nat) : Option Char :=
  if h : n.isValidChar then some (Char.ofNatAux n h) else none

/-- A code point that is being read: how many digits are missing, and the value of those read. -/
structure PendingEscape where
  missing : Nat
  value : Nat

def scanDoubleQuoted (text : String) (gap : Gap) (escape : Option PendingEscape)
    (position : Position) : List Char → Option ScalarReading
  | [] => none
  | c :: rest =>
    match escape with
    | some ⟨missing, value⟩ =>
      match Text.hexValue? c with
      | none => none
      | some digit =>
        let value := value * 16 + digit
        if missing ≤ 1 then
          match charOf? value with
          | none => none
          | some d => scanDoubleQuoted (text.push d) {} none (position.advance 1) rest
        else scanDoubleQuoted text {} (some ⟨missing - 1, value⟩) (position.advance 1) rest
    | none =>
      if startsDocument position (c :: rest) then none
      else if c = '"' then some ⟨gap.appendTo text, false, position.advance 1, rest⟩
      else if isBlank c || isBreak c then
        scanDoubleQuoted text (gap.add c) none (position.next c) rest
      else
        let text := gap.appendTo text
        if c ≠ '\\' then scanDoubleQuoted (text.push c) {} none (position.next c) rest
        else
          match rest with
          | [] => none
          | d :: rest =>
            let behind := (position.advance 1).next d
            if isBreak d then scanDoubleQuoted text { broken := true } none behind rest
            else match escapeWidth? d with
              | some width => scanDoubleQuoted text {} (some ⟨width, 0⟩) behind rest
              | none =>
                match unescape? d with
                | some e => scanDoubleQuoted (text.push e) {} none behind rest
                | none => none

/-- What becomes of the new lines at the end of a block of lines. -/
inductive Chomping where
  /-- The last line keeps its end, empty lines are dropped. -/
  | clip
  | strip
  | keep
deriving DecidableEq, Repr

structure BlockHeader where
  chomping : Chomping
  /-- The indentation of the lines against that of the collection around, if it is given. -/
  increment : Option Nat

def chomping? : Option Char → Option Chomping
  | some '+' => some .keep
  | some '-' => some .strip
  | _ => none

/-- The increment that a digit asks for. Zero is none that a block can have. -/
def increment? (c : Option Char) : Option Nat :=
  match c with
  | some c => if Decimal.isDigit c then some (c.toNat - 48) else none
  | none => none

/-- Reads the marks of a block, in either order. -/
def scanBlockHeader (cursor : Cursor) : Option (BlockHeader × Cursor) :=
  let skipMark {α : Type} (mark : Option α) (cursor : Cursor) : Cursor :=
    if mark.isSome then cursor.drop 1 else cursor
  let before := chomping? cursor.peek?
  let cursor := skipMark before cursor
  let increment := increment? cursor.peek?
  let cursor := skipMark increment cursor
  let after := if before.isNone && increment.isSome then chomping? cursor.peek? else none
  let cursor := skipMark after cursor
  if increment = some 0 then none
  else
    let cursor := (cursor.skipWhile isBlank).skipComment
    if cursor.atLineEnd then
      some (⟨(before.or after).getD .clip, increment⟩, cursor.takeBreak.2)
    else none

/-- Passes over spaces up to an indentation, or over all of them. -/
def skipIndentation (indentation : Option Nat) (cursor : Cursor) : Cursor :=
  let spaces := (cursor.rest.takeWhile (· = ' ')).length
  match indentation with
  | none => cursor.drop spaces
  | some width => cursor.drop (min spaces (width - cursor.position.column))

/-- Passes over empty lines. Gives their ends, the greatest column reached, and the place where the
next line begins. Tabs are no indentation. -/
def scanEmptyLines (indentation : Option Nat) :
    (fuel : Nat) → List Char → Nat → Cursor → Option (List Char × Nat × Cursor)
  | 0, breaks, greatest, cursor => some (breaks, greatest, cursor)
  | fuel + 1, breaks, greatest, cursor =>
    let cursor := skipIndentation indentation cursor
    let column := cursor.position.column
    let greatest := max greatest column
    let inIndentation := match indentation with
      | none => true
      | some width => column < width
    if inIndentation && cursor.peek? = some '\t' then none
    else if cursor.peek?.any isBreak then
      let (ending, cursor) := cursor.takeBreak
      scanEmptyLines indentation fuel (breaks ++ ending) greatest cursor
    else some (breaks, greatest, cursor)

/-- The text of a block so far, and the ends of lines that are not part of it yet. -/
structure BlockText where
  text : String := ""
  lineEnd : List Char := []
  /-- The ends of the empty lines behind it. -/
  emptyEnds : List Char := []
  blankStart : Bool := false

/-- Adds a line. In a folded block, the end of a line between two that do not start with a blank
becomes a space, or nothing in front of empty lines. -/
def BlockText.addLine (block : BlockText) (folded : Bool) (line : List Char) : BlockText :=
  let blankStart := line.head?.any isBlank
  let joint :=
    if folded && block.lineEnd.head? = some '\n' && !block.blankStart && !blankStart then
      if block.emptyEnds.isEmpty then [' '] else []
    else block.lineEnd
  ⟨block.text ++ String.ofList (joint ++ block.emptyEnds ++ line), [], [], blankStart⟩

def BlockText.finish (block : BlockText) : Chomping → String
  | .clip => block.text ++ String.ofList block.lineEnd
  | .strip => block.text
  | .keep => block.text ++ String.ofList (block.lineEnd ++ block.emptyEnds)

def scanBlockLines (folded : Bool) (indentation : Nat) :
    (fuel : Nat) → BlockText → Cursor → Option (BlockText × Cursor)
  | 0, block, cursor => some (block, cursor)
  | fuel + 1, block, cursor =>
    if cursor.position.column = indentation && !cursor.rest.isEmpty then do
      let (line, cursor) := cursor.takeWhile fun c => !isBreak c
      let (lineEnd, cursor) := cursor.takeBreak
      let (emptyEnds, _, cursor) ← scanEmptyLines (some indentation) fuel [] 0 cursor
      scanBlockLines folded indentation fuel
        { block.addLine folded line with lineEnd, emptyEnds } cursor
    else some (block, cursor)

/-- Reads a block behind its first mark. `parent` is the indentation of the collection around, -1 if
there is none. -/
def scanBlock (folded : Bool) (parent : Int) (cursor : Cursor) : Option ScalarReading := do
  let (header, cursor) ← scanBlockHeader cursor
  let fuel := cursor.rest.length + 1
  let given := header.increment.map fun n => parent.toNat + n
  let (emptyEnds, greatest, cursor) ← scanEmptyLines given fuel [] 0 cursor
  let indentation := given.getD (max (max greatest (parent + 1).toNat) 1)
  let (block, cursor) ← scanBlockLines folded indentation fuel { emptyEnds } cursor
  return ⟨block.finish header.chomping, true, cursor⟩

end StackSynth.Yaml
