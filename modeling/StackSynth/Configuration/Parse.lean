import StackSynth.Configuration.Load
import StackSynth.Yaml.Reading

namespace StackSynth

def Configuration.parse (text : String) : Except ConfigurationError Configuration :=
  match Yaml.parse? text with
  | none => .error .invalidYaml
  | some document => Configuration.ofDocument document

end StackSynth
