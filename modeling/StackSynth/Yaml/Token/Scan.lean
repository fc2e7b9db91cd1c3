import StackSynth.Yaml.Token.Property
import StackSynth.Yaml.Token.Scalar
/-!
Cutting a yaml text into tokens. What starts a line may turn out to be a key only when a `:` comes
behind it; the place of such a candidate is kept, and the tokens that make it a key are put in front
of it afterwards.
-/
namespace StackSynth.Yaml

/-- What may turn out to be a key. -/
structure KeyCandidate where
  /-- Whether the text is wrong if it does not. -/
  required : Bool
  tokens : Nat
  position : Position
deriving Repr

structure Scanner where
  cursor : Cursor
  tokens : Array Token := #[]
  /-- The column of the block collection around, -1 outside of all. -/
  indent : Int := -1
  outer : List Int := []
  keyAllowed : Bool := true
  blockKey : Option KeyCandidate := none
  /-- The candidates in the flow collections that are open, the innermost first. -/
  flowKeys : List (Option KeyCandidate) := []

namespace Scanner

def inFlow (s : Scanner) : Bool :=
  !s.flowKeys.isEmpty

def column (s : Scanner) : Nat :=
  s.cursor.position.column

def push (s : Scanner) (token : Token) : Scanner :=
  { s with tokens := s.tokens.push token }

def drop (s : Scanner) (count : Nat) : Scanner :=
  { s with cursor := s.cursor.drop count }

def key? (s : Scanner) : Option KeyCandidate :=
  match s.flowKeys with
  | [] => s.blockKey
  | key :: _ => key

def setKey (s : Scanner) (key : Option KeyCandidate) : Scanner :=
  match s.flowKeys with
  | [] => { s with blockKey := key }
  | _ :: rest => { s with flowKeys := key :: rest }

def dropKey (s : Scanner) : Option Scanner :=
  if s.key?.any (·.required) then none else some (s.setKey none)

/-- Makes what starts here a candidate, where a key may start. -/
def saveKey (s : Scanner) : Option Scanner :=
  if s.keyAllowed then do
    let s ← s.dropKey
    return s.setKey (some ⟨!s.inFlow && s.indent = s.column, s.tokens.size, s.cursor.position⟩)
  else some s

/-- Whether a candidate is too far back: on another line, or more than 1024 characters away. -/
def isStale (here : Position) (key : KeyCandidate) : Bool :=
  key.position.line < here.line || key.position.index + 1024 < here.index

def dropStaleKeys (s : Scanner) : Option Scanner :=
  let here := s.cursor.position
  let stale (key : Option KeyCandidate) : Bool := key.any (isStale here)
  let keep (key : Option KeyCandidate) : Option KeyCandidate := if stale key then none else key
  if (s.blockKey :: s.flowKeys).any fun key => stale key && key.any (·.required) then none
  else some { s with blockKey := keep s.blockKey, flowKeys := s.flowKeys.map keep }

/-- Opens a block collection at a column that lies deeper than the one around. Its token comes after
`place` tokens. -/
def rollIndent (s : Scanner) (column : Nat) (place : Nat) (token : Token) : Scanner :=
  if !s.inFlow && s.indent < column then
    { s with
      indent := column
      outer := s.indent :: s.outer
      tokens := s.tokens.insertIdxIfInBounds place token }
  else s

/-- Closes the block collections that lie deeper than a column. -/
def unrollIndent (s : Scanner) (column : Int) : Scanner :=
  if s.inFlow then s else go s.outer s
where
  go : List Int → Scanner → Scanner
    | [], s => s
    | next :: rest, s =>
      if column < s.indent then go rest { s.push .blockEnd with indent := next, outer := rest }
      else s

/-- Passes over blanks, comments and new lines. Tabs only count as blanks where no key may start. -/
def skipGap : (fuel : Nat) → Scanner → Scanner
  | 0, s => s
  | fuel + 1, s =>
    let cursor := s.cursor.skipWhile fun c =>
      c = ' ' || (c = '\t' && (s.inFlow || !s.keyAllowed))
    let cursor := cursor.skipComment
    if cursor.peek?.any isBreak then
      skipGap fuel { s with
        cursor := cursor.takeBreak.2
        keyAllowed := s.keyAllowed || !s.inFlow }
    else { s with cursor }

/-- Leaves all block collections, for a directive or a mark between documents. -/
def leaveBlocks (s : Scanner) : Option Scanner := do
  let s ← (s.unrollIndent (-1)).dropKey
  return { s with keyAllowed := false }

def openFlow (s : Scanner) (token : Token) : Option Scanner := do
  let s ← s.saveKey
  return { (s.push token).drop 1 with flowKeys := none :: s.flowKeys, keyAllowed := true }

def closeFlow (s : Scanner) (token : Token) : Option Scanner := do
  let s ← s.dropKey
  return { (s.push token).drop 1 with flowKeys := s.flowKeys.tail, keyAllowed := false }

def flowEntry (s : Scanner) : Option Scanner := do
  let s ← s.dropKey
  return { (s.push .flowEntry).drop 1 with keyAllowed := true }

/-- Opens the block collection that a sign at this place needs. -/
def openBlock (s : Scanner) (token : Token) : Option Scanner :=
  if s.inFlow then some s
  else if s.keyAllowed then some (s.rollIndent s.column s.tokens.size token)
  else none

def blockEntry (s : Scanner) : Option Scanner := do
  let s ← (← s.openBlock .blockSequenceStart).dropKey
  return { (s.push .blockEntry).drop 1 with keyAllowed := true }

def explicitKey (s : Scanner) : Option Scanner := do
  let s ← (← s.openBlock .blockMappingStart).dropKey
  return { (s.push .key).drop 1 with keyAllowed := !s.inFlow }

/-- Takes in the `:` of a value, which makes the candidate a key. -/
def value (s : Scanner) : Option Scanner := do
  let s ← match s.key? with
    | some key =>
      -- what was read since the candidate is a key, and a new mapping may begin with it
      let s := { s with tokens := s.tokens.insertIdxIfInBounds key.tokens .key }
      let s := s.rollIndent key.position.column key.tokens .blockMappingStart
      pure { s.setKey none with keyAllowed := false }
    | none =>
      -- the key was explicit, or is empty
      let s ← s.openBlock .blockMappingStart
      pure { s with keyAllowed := !s.inFlow }
  return (s.push .value).drop 1

/-- Takes in a token that may be a key or stand in front of one. -/
def atom (s : Scanner) (scan : Cursor → Option (Token × Cursor)) : Option Scanner := do
  let s ← s.saveKey
  let (token, cursor) ← scan s.cursor
  return { s.push token with cursor, keyAllowed := false }

def asToken (isPlain : Bool) (reading : Option ScalarReading) : Option (Token × Cursor) :=
  reading.map fun r => (.scalar isPlain r.text, r.cursor)

def plainScalar (s : Scanner) : Option Scanner := do
  let s ← s.saveKey
  let reading ← scanPlain s.inFlow (s.indent + 1).toNat "" none s.cursor.position s.cursor.rest
  let s := s.push (.scalar true reading.text)
  return { s with cursor := reading.cursor, keyAllowed := reading.brokenAfter }

def blockScalar (s : Scanner) (folded : Bool) : Option Scanner := do
  let s ← s.dropKey
  let reading ← scanBlock folded s.indent (s.cursor.drop 1)
  return { s.push (.scalar false reading.text) with cursor := reading.cursor, keyAllowed := true }

def startsPlain (inFlow : Bool) (cs : List Char) : Bool :=
  match cs with
  | [] => false
  | c :: rest =>
    if c = '-' then !startsBlank rest
    else if c = '?' || c = ':' then !inFlow && !startsBlank rest
    else !startsBlank cs && !startIndicators.contains c

/-- Takes in the next token. The first character is `c`. -/
def next (s : Scanner) (c : Char) (rest : List Char) : Option Scanner :=
  let inFlow := s.inFlow
  let isSeparate := startsBlank rest
  if s.column = 0 && c = '%' then do
    let s ← s.leaveBlocks
    let (token, cursor) ← scanDirective (s.cursor.drop 1)
    return { s.push token with cursor }
  else if startsDocument s.cursor.position (c :: rest) then do
    let s ← s.leaveBlocks
    return (s.push (if c = '-' then .documentStart else .documentEnd)).drop 3
  else if c = '[' then s.openFlow .flowSequenceStart
  else if c = '\x7b' then s.openFlow .flowMappingStart
  else if c = ']' then s.closeFlow .flowSequenceEnd
  else if c = '\x7d' then s.closeFlow .flowMappingEnd
  else if c = ',' then s.flowEntry
  else if c = '-' && isSeparate then s.blockEntry
  else if c = '?' && (inFlow || isSeparate) then s.explicitKey
  else if c = ':' && (inFlow || isSeparate) then s.value
  else if c = '*' then s.atom fun cursor => do
    let (name, cursor) ← scanAnchorName (cursor.drop 1)
    return (.aliasOf name, cursor)
  else if c = '&' then s.atom fun cursor => do
    let (name, cursor) ← scanAnchorName (cursor.drop 1)
    return (.anchor name, cursor)
  else if c = '!' then s.atom (scanTag inFlow)
  else if (c = '|' || c = '>') && !inFlow then s.blockScalar (c = '>')
  else if c = '\x27' then s.atom fun cursor =>
    asToken false (scanSingleQuoted "" {} (cursor.position.advance 1) rest)
  else if c = '"' then s.atom fun cursor =>
    asToken false (scanDoubleQuoted "" {} none (cursor.position.advance 1) rest)
  else if startsPlain inFlow (c :: rest) then s.plainScalar
  else none

def run : (fuel : Nat) → Scanner → Option (Array Token)
  | 0, _ => none
  | fuel + 1, s => do
    let s ← (s.skipGap (s.cursor.rest.length + 1)).dropStaleKeys
    let s := s.unrollIndent s.column
    match s.cursor.rest with
    | [] => do
      let s ← (s.unrollIndent (-1)).dropKey
      return s.tokens
    | c :: rest => run fuel (← s.next c rest)

end Scanner

/-- The start of a text, behind a mark of the byte order. The mark is a character of the first line,
so what follows it on that line does not start the line. -/
def Cursor.ofText (cs : List Char) : Cursor :=
  match cs with
  | '\uFEFF' :: rest => ⟨Position.next {} '\uFEFF', rest⟩
  | cs => ⟨{}, cs⟩

def tokenize? (s : String) : Option (List Token) :=
  let cs := unifyBreaks s.toList
  if s.toList.all isAllowed then
    (Scanner.run (cs.length + 2) { cursor := .ofText cs }).map Array.toList
  else none

end StackSynth.Yaml
