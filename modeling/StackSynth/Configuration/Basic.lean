import StackSynth.Value.Basic

namespace StackSynth

/-- What all declarations of a build share. -/
structure Context where
  team : String
  service : String
  environment : String
  region : String
  tags : Object
deriving Repr, Inhabited

/-- The tags for resources without tags of their own, unless there are none. -/
def Context.defaultTags? (context : Context) : Option Value :=
  if context.tags.isEmpty then none else some (.object context.tags)

/-- A resource to create or to look up. -/
structure Declaration where
  name : String
  /-- The tag of its type, such as `s3.Bucket`. -/
  type : String
  args : Object
  customName : Option String
  existing : Bool
deriving Repr, Inhabited

/-- Whether the resource exists already, by the declaration or by its argument `existing`. -/
def Declaration.isExisting (declaration : Declaration) : Bool :=
  declaration.existing
    || ((Entries.find? declaration.args "existing").map Value.isTruthy).getD false

def Declaration.plainArgs (declaration : Declaration) : Object :=
  Entries.erase declaration.args "existing"

structure Configuration where
  context : Context
  declarations : List Declaration
deriving Repr, Inhabited

end StackSynth
