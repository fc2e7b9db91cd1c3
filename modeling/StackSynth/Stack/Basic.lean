import StackSynth.Backend
import StackSynth.Text.Blank
import StackSynth.Text.Path
/-!
Stacks: a backend that builds nothing and records everything, as a terraform configuration. Its
handles answer with references such as `${aws_vpc.main.id}`.
-/
namespace StackSynth

/-- The bodies of constructs, by terraform type and by label. -/
abbrev Blocks := Entries (Entries Object)

def Blocks.body? (blocks : Blocks) (terraformType name : String) : Option Object :=
  (Entries.find? blocks terraformType).bind (Entries.find? · name)

def Blocks.add (blocks : Blocks) (terraformType name : String) (body : Object) : Blocks :=
  Entries.insert blocks terraformType
    (Entries.insert ((Entries.find? blocks terraformType).getD []) name body)

/-- What was recorded for a region. -/
structure Stack where
  region : String
  data : Blocks := []
  resources : Blocks := []
  outputs : Entries Value := []
  /-- The names of all constructs. Resources and data sources share them. -/
  names : List String := []
deriving Repr, Inhabited

/-- A recorded construct as its handle knows it. -/
structure Construct where
  /-- Such as `aws_vpc.main` or `data.aws_vpc.main`. -/
  address : String
  entry : CatalogEntry
deriving DecidableEq, Repr

namespace Construct

def addressOf (kind : BlockKind) (terraformType name : String) : String :=
  let start := match kind with
    | .resource => ""
    | .dataSource => "data."
  start ++ terraformType ++ "." ++ name

def token (construct : Construct) (path : String) : Value :=
  .string ("$\x7b" ++ construct.address ++ "." ++ path ++ "\x7d")

/-- The attributes that its type has. -/
def direct? (construct : Construct) (name : String) : Option Value :=
  if construct.entry.attributes.contains name then some (construct.token name) else none

/-- Attributes by any well formed path. -/
def byName (construct : Construct) (path : String) : Except AttributeError Value :=
  if Text.isAttributePath path.toList then .ok (construct.token path)
  else .error (.invalidName path)

def handle (construct : Construct) : Handle where
  direct? := construct.direct?
  byName := construct.byName

end Construct

namespace Stack

/-- An empty stack. The region must not be blank. -/
def new (region : String) : Except BackendError Stack :=
  let region := Text.trim region
  if region = "" then .error (.initialization "region must not be empty")
  else .ok { region }

def blocks (stack : Stack) : BlockKind → Blocks
  | .resource => stack.resources
  | .dataSource => stack.data

def body? (stack : Stack) (kind : BlockKind) (terraformType name : String) : Option Object :=
  (stack.blocks kind).body? terraformType name

/-- The key under which a body keeps what terraform ignores. -/
def commentKey : String := "//"

/-- What a body remembers of the request it was made for. -/
def metadata (request : Request) : Value :=
  .object [("metadata", .object [
    ("identifier", .string request.identifier),
    ("type", .string request.type.display)])]

def bodyOf (request : Request) : Object :=
  Entries.insertAll [(commentKey, metadata request)] request.args

def record (stack : Stack) (kind : BlockKind) (terraformType : String) (request : Request) :
    Stack :=
  let added := (stack.blocks kind).add terraformType request.name (bodyOf request)
  match kind with
  | .resource => { stack with resources := added, names := stack.names ++ [request.name] }
  | .dataSource => { stack with data := added, names := stack.names ++ [request.name] }

/-- Records a construct of a known type under a new name. A refused request changes nothing. -/
def insert (kind : BlockKind) (request : Request) (stack : Stack) :
    Except BackendError Handle × Stack :=
  match Catalog.builtin.resolve kind request.type with
  | .error unknown => (.error (.unknownType unknown), stack)
  | .ok entry =>
    if stack.names.contains request.name then (.error (.duplicateConstruct request.name), stack)
    else
      let address := Construct.addressOf kind entry.terraformType request.name
      (.ok (Construct.mk address entry).handle, stack.record kind entry.terraformType request)

def publish (name : String) (value : Value) (stack : Stack) : Except BackendError Unit × Stack :=
  if Entries.has stack.outputs name then (.error (.duplicateOutput name), stack)
  else (.ok (), { stack with outputs := stack.outputs ++ [(name, value)] })

def backend : Backend Stack where
  create := insert .resource
  lookup := insert .dataSource
  publish := publish

end Stack

end StackSynth
