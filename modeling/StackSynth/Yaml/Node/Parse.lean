import StackSynth.Yaml.Node.Basic
import StackSynth.Yaml.Token.Basic
/-!
Tokens as nodes. Of any four calls in a row, one takes a token away, so four times as much fuel as
there are tokens suffices.
-/
namespace StackSynth.Yaml

/-- Tokens that are left, and the names met so far. -/
structure Remaining where
  tokens : List Token
  /-- What the handles of tags stand for. -/
  handles : List (String × String) := [("!", "!"), ("!!", "tag:yaml.org,2002:")]
  anchors : List (String × Nat) := []

namespace Remaining

def peek? (r : Remaining) : Option Token :=
  r.tokens.head?

def drop (r : Remaining) : Remaining :=
  { r with tokens := r.tokens.tail }

def startsWith (r : Remaining) (tokens : List Token) : Bool :=
  r.peek?.any tokens.contains

/-- Gives an anchor its number, which counts the names before it. A name that is used again gets a
new number and still counts once. -/
def nameAnchor (r : Remaining) (name : String) : Nat × Remaining :=
  let id := r.anchors.length
  let anchors :=
    if (r.anchors.lookup name).isSome then
      r.anchors.map fun anchor => if anchor.1 = name then (name, id) else anchor
    else r.anchors ++ [(name, id)]
  (id, { r with anchors })

/-- The whole tag of a handle and what follows it. -/
def wholeTag? (r : Remaining) (handle suffix : String) : Option String :=
  if handle = "" then some suffix else (r.handles.lookup handle).map (· ++ suffix)

end Remaining

/-- What stands in front of a node. -/
structure Properties where
  anchor : Option String := none
  tag : Option String := none

/-- Reads an anchor and a tag, in either order. -/
def parseProperties (r : Remaining) : Option (Properties × Remaining) :=
  match r.tokens with
  | .anchor name :: .tag handle suffix :: rest => do
    let tag ← r.wholeTag? handle suffix
    return (⟨some name, some tag⟩, { r with tokens := rest })
  | .tag handle suffix :: .anchor name :: rest => do
    let tag ← r.wholeTag? handle suffix
    return (⟨some name, some tag⟩, { r with tokens := rest })
  | .anchor name :: rest => some (⟨some name, none⟩, { r with tokens := rest })
  | .tag handle suffix :: rest => do
    let tag ← r.wholeTag? handle suffix
    return (⟨none, some tag⟩, { r with tokens := rest })
  | _ => some ({}, r)

def withAnchor (id : Option Nat) (node : Node) : Node :=
  match id with
  | some id => .anchored id node
  | none => node

/-- The tag of a scalar: a lone `!` is none. -/
def scalarTag (tag : Option String) : Option String :=
  if tag = some "!" then none else tag

mutual

/-- Reads a node. Block collections are told from flow collections by `inBlock`; `indentless` allows
items of a sequence at the column of the mapping around. -/
def parseNode (inBlock indentless : Bool) : (fuel : Nat) → Remaining → Option (Node × Remaining)
  | 0, _ => none
  | fuel + 1, r =>
    match r.tokens with
    | .aliasOf name :: _ => (r.anchors.lookup name).map fun id => (.aliasOf id, r.drop)
    | _ => do
      let (properties, r) ← parseProperties r
      let (id, r) := match properties.anchor with
        | some name =>
          let (id, r) := r.nameAnchor name
          (some id, r)
        | none => (none, r)
      let tag := properties.tag
      let finish (result : Node × Remaining) : Node × Remaining :=
        (withAnchor id result.1, result.2)
      let emptyNode : Option (Node × Remaining) :=
        if id.isSome || tag.isSome then some (finish (.scalar tag true "", r)) else none
      match r.peek? with
      | some .blockEntry =>
        if indentless then
          return finish (← (parseIndentless fuel r).map fun (items, r) => (.sequence tag items, r))
        else emptyNode
      | some (.scalar isPlain text) =>
        return finish (.scalar (scalarTag tag) isPlain text, r.drop)
      | some .flowSequenceStart =>
        return finish (← (parseFlowSequence true fuel r.drop).map
          fun (items, r) => (.sequence tag items, r))
      | some .flowMappingStart =>
        return finish (← (parseFlowMapping true fuel r.drop).map
          fun (entries, r) => (.mapping tag entries, r))
      | some .blockSequenceStart =>
        if inBlock then
          return finish (← (parseBlockSequence fuel r.drop).map
            fun (items, r) => (.sequence tag items, r))
        else emptyNode
      | some .blockMappingStart =>
        if inBlock then
          return finish (← (parseBlockMapping fuel r.drop).map
            fun (entries, r) => (.mapping tag entries, r))
        else emptyNode
      | _ => emptyNode

/-- Reads a node unless the next token shows that there is none. -/
def parseUnless (ends : List Token) (inBlock indentless : Bool) :
    (fuel : Nat) → Remaining → Option (Node × Remaining)
  | 0, _ => none
  | fuel + 1, r =>
    if r.startsWith ends then some (.empty, r) else parseNode inBlock indentless fuel r

def parseBlockSequence : (fuel : Nat) → Remaining → Option (List Node × Remaining)
  | 0, _ => none
  | fuel + 1, r =>
    match r.peek? with
    | some .blockEnd => some ([], r.drop)
    | some .blockEntry => do
      let (item, r) ← parseUnless [.blockEntry, .blockEnd] true false fuel r.drop
      let (rest, r) ← parseBlockSequence fuel r
      return (item :: rest, r)
    | _ => none

/-- Reads the items of a sequence at the column of the mapping around. -/
def parseIndentless : (fuel : Nat) → Remaining → Option (List Node × Remaining)
  | 0, _ => none
  | fuel + 1, r =>
    match r.peek? with
    | some .blockEntry => do
      let (item, r) ← parseUnless [.blockEntry, .key, .value, .blockEnd] true false fuel r.drop
      let (rest, r) ← parseIndentless fuel r
      return (item :: rest, r)
    | _ => some ([], r)

def parseBlockMapping : (fuel : Nat) → Remaining → Option (List (Node × Node) × Remaining)
  | 0, _ => none
  | fuel + 1, r =>
    match r.peek? with
    | some .blockEnd => some ([], r.drop)
    | some .key => do
      let (key, r) ← parseUnless [.key, .value, .blockEnd] true true fuel r.drop
      let (value, r) ←
        if r.peek? = some .value then
          parseUnless [.key, .value, .blockEnd] true true fuel r.drop
        else some (.empty, r)
      let (rest, r) ← parseBlockMapping fuel r
      return ((key, value) :: rest, r)
    | _ => none

/-- Reads the items of a flow sequence, behind its first ones if `isFirst` does not hold. -/
def parseFlowSequence (isFirst : Bool) :
    (fuel : Nat) → Remaining → Option (List Node × Remaining)
  | 0, _ => none
  | fuel + 1, r =>
    if r.peek? = some .flowSequenceEnd then some ([], r.drop)
    else do
      let r ← if isFirst then some r
        else if r.peek? = some .flowEntry then some r.drop
        else none
      if r.peek? = some .flowSequenceEnd then some ([], r.drop)
      else
        let (item, r) ←
          if r.peek? = some .key then parsePair fuel r.drop else parseNode false false fuel r
        let (rest, r) ← parseFlowSequence false fuel r
        return (item :: rest, r)

/-- Reads a mapping of one entry that is an item of a flow sequence. Where its key is empty, the
token in place of the key is passed over. -/
def parsePair : (fuel : Nat) → Remaining → Option (Node × Remaining)
  | 0, _ => none
  | fuel + 1, r => do
    let (key, r) ←
      if r.startsWith [.value, .flowEntry, .flowSequenceEnd] then some (.empty, r.drop)
      else parseNode false false fuel r
    let (value, r) ←
      if r.peek? = some .value then
        parseUnless [.flowEntry, .flowSequenceEnd] false false fuel r.drop
      else some (.empty, r)
    return (.mapping none [(key, value)], r)

def parseFlowMapping (isFirst : Bool) :
    (fuel : Nat) → Remaining → Option (List (Node × Node) × Remaining)
  | 0, _ => none
  | fuel + 1, r =>
    if r.peek? = some .flowMappingEnd then some ([], r.drop)
    else do
      let r ← if isFirst then some r
        else if r.peek? = some .flowEntry then some r.drop
        else none
      if r.peek? = some .flowMappingEnd then some ([], r.drop)
      else
        let (entry, r) ←
          if r.peek? = some .key then do
            let (key, r) ←
              parseUnless [.value, .flowEntry, .flowMappingEnd] false false fuel r.drop
            let (value, r) ←
              if r.peek? = some .value then
                parseUnless [.flowEntry, .flowMappingEnd] false false fuel r.drop
              else some (.empty, r)
            pure ((key, value), r)
          else do
            let (key, r) ← parseNode false false fuel r
            pure ((key, .empty), r)
        let (rest, r) ← parseFlowMapping false fuel r
        return (entry :: rest, r)

end

/-- Reads the directives in front of a document: at most one version, and each handle once. -/
def parseDirectives (hasVersion : Bool) (handles : List (String × String)) :
    List Token → Option (List (String × String) × List Token)
  | .version :: rest => if hasVersion then none else parseDirectives true handles rest
  | .tagHandle handle start :: rest =>
    if (handles.lookup handle).isSome then none
    else parseDirectives hasVersion (handles ++ [(handle, start)]) rest
  | tokens => some (handles, tokens)

def isBetweenDocuments : Token → Bool
  | .version | .tagHandle .. | .documentStart | .documentEnd => true
  | _ => false

/-- The node of the only document of a list of tokens. There is none if there are no tokens. -/
def parseDocument? (tokens : List Token) : Option (Option Node) := do
  let (handles, rest) ← parseDirectives false [] tokens
  let isExplicit := rest.head? = some .documentStart
  if rest.isEmpty && tokens.isEmpty then return none
  -- directives need a mark of the document behind them
  else if !isExplicit && rest.length < tokens.length then none
  else
    let content := if isExplicit then rest.tail else rest
    let start : Remaining := { tokens := content }
    let start := { start with handles := handles ++ start.handles }
    let (node, r) ←
      if isExplicit && content.head?.all isBetweenDocuments then some (Node.empty, start)
      else parseNode true false (4 * tokens.length + 4) start
    if r.tokens.all (· = .documentEnd) then return some node else none

end StackSynth.Yaml
