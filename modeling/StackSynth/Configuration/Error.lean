import StackSynth.Document.ToValue
import StackSynth.Text.Quoted

namespace StackSynth

/-- What stands where something else is expected. -/
inductive Found where
  | unit
  | boolean (b : Bool)
  | integer (n : Int)
  | decimal (d : Decimal)
  | string (s : String)
  | sequence
  | mapping
deriving DecidableEq, Repr

namespace Found

/-- What a document is, whatever its tags. -/
def of : Document → Found
  | .null => unit
  | .boolean b => boolean b
  | .integer n => integer n
  | .decimal d => decimal d
  | .string s => string s
  | .sequence _ => sequence
  | .mapping _ => mapping
  | .tagged _ content => of content

def words : Found → String
  | unit => "unit value"
  | boolean b => s!"boolean `{b}`"
  | integer n => s!"integer `{n}`"
  | decimal d =>
    let text := d.render Decimal.messageLayout
    s!"floating point `{text}`"
  | string s =>
    let text := Text.quoted s
    s!"string {text}"
  | sequence => "sequence"
  | mapping => "map"

end Found

inductive Expected where
  | string
  | boolean
  | mapping
  | sequence
  | declaration
  | fieldName
deriving DecidableEq, Repr

def Expected.words : Expected → String
  | string => "a string"
  | boolean => "a boolean"
  | mapping => "a map"
  | sequence => "a sequence"
  | declaration => "struct ResourceDeclaration"
  | fieldName => "field identifier"

inductive ShapeError where
  | wrongType (found : Found) (expected : Expected)
  | missingField (name : String)
  | duplicateField (name : String)
  /-- A tag in a field of the root other than the list of declarations. -/
  | taggedField
  | value (cause : ValueError)
deriving DecidableEq, Repr

def ShapeError.message : ShapeError → String
  | wrongType found expected => s!"invalid type: {found.words}, expected {expected.words}"
  | missingField name => s!"missing field `{name}`"
  | duplicateField name => s!"duplicate field `{name}`"
  | taggedField => "untagged and internally tagged enums do not support enum input"
  | value cause => cause.message

inductive ConfigurationError where
  /-- The text cannot be opened. -/
  | unreadable (reason : String)
  /-- The text can be opened, but its content cannot be had. -/
  | withoutContent (reason : String)
  /-- The text is not one yaml document. -/
  | invalidYaml
  | notAMapping
  | missingKey (key : String)
  | malformed (cause : ShapeError)
  | duplicateDeclaration (name : String)
deriving DecidableEq, Repr

namespace ConfigurationError

def message : ConfigurationError → String
  | unreadable _ => "IO error"
  | withoutContent _ => "Unable to parse configuration"
  | invalidYaml => "Unable to parse configuration"
  | notAMapping => "Configuration document must be a mapping"
  | missingKey key => s!"Missing required configuration key: {key}"
  | malformed _ => "Unable to parse configuration"
  | duplicateDeclaration name => s!"Resource name '{name}' is declared more than once"

def causes : ConfigurationError → List String
  | unreadable reason => [reason]
  | withoutContent reason => [reason]
  | malformed cause => [cause.message]
  | _ => []

end ConfigurationError

end StackSynth
