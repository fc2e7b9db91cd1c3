import StackSynth.Hcl.Body
import StackSynth.Stack.Basic
import StackSynth.Yaml.Writer

namespace StackSynth

def providerName : String := "aws"

def providerSource : String := "hashicorp/aws"

def requiredProviders : Object :=
  [(providerName, .object [("source", .string providerSource)])]

def Blocks.toObject (blocks : Blocks) : Object :=
  blocks.map fun (terraformType, constructs) =>
    (terraformType, .object (constructs.map fun (name, body) => (name, .object body)))

namespace Stack

/-- A section of the configuration, left out if it has no entries. -/
def sectionOf (name : String) (content : Object) : Object :=
  if content.isEmpty then [] else [(name, .object content)]

def outputBody (value : Value) : Object :=
  [("value", value)]

def toValue (stack : Stack) : Value :=
  .object <|
    [("terraform", .object [("required_providers", .object requiredProviders)]),
      ("provider", .object [(providerName, .array [.object [("region", .string stack.region)]])])]
    ++ sectionOf "data" stack.data.toObject
    ++ sectionOf "resource" stack.resources.toObject
    ++ sectionOf "output"
        (stack.outputs.map fun (name, value) => (name, .object (outputBody value)))

/-- The arguments of a body in order, without its comment. -/
def arguments (body : Object) : Except Hcl.Error (List Hcl.Structure) :=
  (body.filter (·.1 ≠ commentKey)).mapM fun (name, value) =>
    Hcl.Structure.argument? name (.ofValue value)

def blockOf (kind : String) (labels : List String) (body : Object) :
    Except Hcl.Error Hcl.Structure :=
  (arguments body).map (.block kind labels ·)

def constructBlocks (kind : String) (blocks : Blocks) : Except Hcl.Error (List Hcl.Structure) :=
  (blocks.flatMap fun (terraformType, constructs) =>
    constructs.map fun (name, body) => ([terraformType, name], body)).mapM
    fun (labels, body) => blockOf kind labels body

/-- The configuration as a document of hcl. It fails if the name of an argument is no identifier. -/
def toHcl (stack : Stack) : Except Hcl.Error (List Hcl.Structure) := do
  let settings ← blockOf "required_providers" [] requiredProviders
  let provider ← blockOf "provider" [providerName] [("region", .string stack.region)]
  let data ← constructBlocks "data" stack.data
  let resources ← constructBlocks "resource" stack.resources
  let outputs ← stack.outputs.mapM fun (name, value) =>
    blockOf "output" [name] (outputBody value)
  return .block "terraform" [] [settings] :: provider :: data ++ resources ++ outputs

end Stack

inductive Format where
  | json
  | yaml
  | hcl
deriving DecidableEq, Repr

def Stack.render (stack : Stack) : Format → Except Hcl.Error String
  | .json => .ok (Json.renderPretty stack.toValue)
  | .yaml => .ok (Yaml.render stack.toValue)
  | .hcl => stack.toHcl.map Hcl.render

end StackSynth
