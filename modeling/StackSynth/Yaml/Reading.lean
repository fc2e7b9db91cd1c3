import StackSynth.Yaml.Node.Parse
import StackSynth.Yaml.Token.Scan
/-!
Yaml texts as documents: aliases are replaced by what they point to, scalars get their types, and a
mapping must not have a key twice.
-/
namespace StackSynth.Yaml

/-- How deep collections may lie in each other. -/
def depthLimit : Nat := 128

/-- How many aliases may be followed for each part of a document. -/
def aliasLimit : Nat := 100

/-- What following aliases needs: their targets, and how many may be followed. -/
structure Anchors where
  targets : List (Nat × Node)
  limit : Nat

def Anchors.target? (anchors : Anchors) (id : Nat) : Option Node :=
  (anchors.targets.reverse.find? (·.1 = id)).map (·.2)

def Node.unanchored : Node → Node
  | anchored _ content => unanchored content
  | node => node

/-- A document with its tag, if the tag is one of the application's own. -/
def withTag (tag : Option String) (document : Document) : Document :=
  match tag with
  | some tag => if tag.startsWith "!" then .tagged tag document else document
  | none => document

def scalarDocument? (tag : Option String) (isPlain : Bool) (text : String) : Option Document :=
  let untyped := if isPlain then plainDocument? text else some (.string text)
  match tag with
  | none => untyped
  | some tag => if tag.startsWith "!" then untyped.map (.tagged tag) else typedDocument? tag text

def addEntry? (entries : List (Document × Document)) (key value : Document) :
    Option (List (Document × Document)) :=
  if entries.any fun entry => entry.1.same key then none else some (entries ++ [(key, value)])

/-- Building with a count of the aliases that were followed. -/
abbrev Following := StateT Nat Option

def buildEntries (build : Node → Following Document) (entries : List (Document × Document)) :
    List (Node × Node) → Following (List (Document × Document))
  | [] => pure entries
  | (key, value) :: rest => do
    let key ← build key
    let value ← build value
    buildEntries build (← addEntry? entries key value) rest

/-- What a node stands for: the target of an alias, and other nodes themselves. -/
def follow (anchors : Anchors) (node : Node) : Following Node :=
  match node.unanchored with
  | .aliasOf id => do
    let followed ← get
    if anchors.limit ≤ followed then failure
    else
      set (followed + 1)
      return (← anchors.target? id).unanchored
  | node => pure node

/-- Builds the document of a node with at most `depth` collections in each other. -/
def buildDocument (anchors : Anchors) : (depth : Nat) → Node → Following Document
  | depth, node => do
    let node ← follow anchors node
    match node, depth with
    | .scalar tag isPlain text, _ => scalarDocument? tag isPlain text
    | .sequence tag items, depth + 1 =>
      return withTag tag (.sequence (← items.mapM (buildDocument anchors depth)))
    | .mapping tag entries, depth + 1 =>
      return withTag tag (.mapping (← buildEntries (buildDocument anchors depth) [] entries))
    | _, _ => failure

/-- The document of a text, or nothing if the text is not one yaml document. A text without any
content is `null`. -/
def parse? (s : String) : Option Document := do
  let tokens ← tokenize? s
  match ← parseDocument? tokens with
  | none => return .null
  | some node =>
    let anchors : Anchors := ⟨node.targets, aliasLimit * node.size⟩
    ((buildDocument anchors depthLimit node).run 0).map Prod.fst

end StackSynth.Yaml
