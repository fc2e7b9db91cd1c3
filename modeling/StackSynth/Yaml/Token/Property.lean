import StackSynth.Text.Hex
import StackSynth.Yaml.Cursor
import StackSynth.Yaml.Token.Basic

namespace StackSynth.Yaml

def isWordChar (c : Char) : Bool :=
  c.isAlphanum || c = '_' || c = '-'

/-- The characters that may follow an anchor or alias directly. -/
def endsAnchor (cs : List Char) : Bool :=
  startsBlank cs || cs.head?.any
    fun c => ['?', ':', ',', ']', '\x7d', '%', '@', '\x60'].contains c

def scanAnchorName (cursor : Cursor) : Option (String × Cursor) :=
  let (name, cursor) := cursor.takeWhile isWordChar
  if name.isEmpty || !endsAnchor cursor.rest then none
  else some (String.ofList name, cursor)

/-- The characters of tags. Commas and brackets only count where they cannot end a flow
collection. -/
def isTagChar (wide : Bool) (c : Char) : Bool :=
  isWordChar c || [';', '/', '?', ':', '@', '&', '=', '+', '$', '.', '%', '!', '~', '*', '\x27',
    '(', ')'].contains c || (wide && [',', '[', ']'].contains c)

/-- The byte that a `%` and two hexadecimal digits stand for. -/
def escapedByte? : List Char → Option (UInt8 × List Char)
  | '%' :: a :: b :: rest => do
    let high ← Text.hexValue? a
    let low ← Text.hexValue? b
    return (UInt8.ofNat (high * 16 + low), rest)
  | _ => none

/-- How many bytes a character of UTF-8 has that starts with a byte. -/
def byteCount? (first : UInt8) : Option Nat :=
  if first &&& 0x80 = 0 then some 1
  else if first &&& 0xE0 = 0xC0 then some 2
  else if first &&& 0xF0 = 0xE0 then some 3
  else if first &&& 0xF8 = 0xF0 then some 4
  else none

def moreBytes? : (count : Nat) → List Char → Option (List UInt8 × List Char)
  | 0, cs => some ([], cs)
  | count + 1, cs => do
    let (byte, rest) ← escapedByte? cs
    if byte &&& 0xC0 = 0x80 then
      let (bytes, rest) ← moreBytes? count rest
      return (byte :: bytes, rest)
    else none

def escapedChar? (cs : List Char) : Option (List Char × List Char) := do
  let (first, rest) ← escapedByte? cs
  let count ← byteCount? first
  let (more, rest) ← moreBytes? (count - 1) rest
  let text ← String.fromUTF8? ⟨(first :: more).toArray⟩
  return (text.toList, rest)

def unescapeTag : (fuel : Nat) → List Char → Option (List Char)
  | 0, _ => some []
  | _ + 1, [] => some []
  | fuel + 1, c :: rest =>
    if c = '%' then do
      let (decoded, rest) ← escapedChar? (c :: rest)
      return decoded ++ (← unescapeTag fuel rest)
    else (unescapeTag fuel rest).map (c :: ·)

def scanTagChars (wide : Bool) (cursor : Cursor) : Option (List Char × Cursor) :=
  let (cs, cursor) := cursor.takeWhile (isTagChar wide)
  (unescapeTag cs.length cs).map fun decoded => (decoded, cursor)

/-- Reads a handle: a `!`, and if letters follow, all up to a second one. -/
def scanHandle (cursor : Cursor) : Option (List Char × Cursor) :=
  if cursor.peek? ≠ some '!' then none
  else
    let (name, cursor) := (cursor.drop 1).takeWhile isWordChar
    if cursor.peek? = some '!' then some ('!' :: name ++ ['!'], cursor.drop 1)
    else some ('!' :: name, cursor)

/-- Reads a tag: a whole one between `<` and `>`, or a handle and what follows it. -/
def scanTag (inFlow : Bool) (cursor : Cursor) : Option (Token × Cursor) := do
  let (token, cursor) ←
    if cursor.rest.tail.head? = some '<' then do
      let (suffix, cursor) ← scanTagChars true (cursor.drop 2)
      if suffix.isEmpty || cursor.peek? ≠ some '>' then none
      else pure (Token.tag "" (String.ofList suffix), cursor.drop 1)
    else do
      let (handle, cursor) ← scanHandle cursor
      let (suffix, cursor) ← scanTagChars false cursor
      if 1 < handle.length && handle.getLast? = some '!' then
        if suffix.isEmpty then none
        else pure (Token.tag (String.ofList handle) (String.ofList suffix), cursor)
      else
        let suffix := handle.tail ++ suffix
        if suffix.isEmpty then pure (Token.tag "" "!", cursor)
        else pure (Token.tag "!" (String.ofList suffix), cursor)
  if cursor.atBlank || (inFlow && cursor.peek? = some ',') then return (token, cursor) else none

/-- Reads a number of at most nine digits. -/
def scanVersionNumber (cursor : Cursor) : Option (Nat × Cursor) :=
  let (digits, cursor) := cursor.takeWhile Decimal.isDigit
  if digits.isEmpty || 9 < digits.length then none
  else some (Decimal.ofDigits 0 digits, cursor)

/-- Reads the version of a directive. There are two of them, 1.1 and 1.2. -/
def scanVersion (cursor : Cursor) : Option (Token × Cursor) := do
  let (major, cursor) ← scanVersionNumber (cursor.skipWhile isBlank)
  if cursor.peek? ≠ some '.' then none
  else
    let (minor, cursor) ← scanVersionNumber (cursor.drop 1)
    if major = 1 && (minor = 1 || minor = 2) then return (.version, cursor) else none

def scanTagHandle (cursor : Cursor) : Option (Token × Cursor) := do
  let (handle, cursor) ← scanHandle (cursor.skipWhile isBlank)
  if (1 < handle.length && handle.getLast? ≠ some '!') || !cursor.peek?.any isBlank then none
  else
    let (start, cursor) ← scanTagChars true (cursor.skipWhile isBlank)
    if start.isEmpty || !cursor.atBlank then none
    else return (.tagHandle (String.ofList handle) (String.ofList start), cursor)

def scanDirective (cursor : Cursor) : Option (Token × Cursor) := do
  let (name, cursor) := cursor.takeWhile isWordChar
  if name.isEmpty || !cursor.atBlank then none
  else
    let (token, cursor) ←
      if name = "YAML".toList then scanVersion cursor
      else if name = "TAG".toList then scanTagHandle cursor
      else none
    let cursor := (cursor.skipWhile isBlank).skipComment
    if cursor.atLineEnd then return (token, cursor.takeBreak.2) else none

end StackSynth.Yaml
