import StackSynth.CommandLine.Run

namespace StackSynth.CommandLine

def Flag.letter : Flag → Char
  | directory => 'C'
  | file => 'f'
  | format => 'F'

def Flag.word : Flag → String
  | directory => "directory"
  | file => "input-file"
  | format => "output-format"

/-- The arguments that give an option its value: the value stands in the next argument or, behind an
equals sign, in the same one. -/
inductive Spelled (flag : Flag) (value : String) : List String → Prop where
  | short : mayBeValue value = true →
      Spelled flag value [String.ofList ['-', flag.letter], value]
  | long : mayBeValue value = true → Spelled flag value ["--" ++ flag.word, value]
  | shortJoined : Spelled flag value [String.ofList ['-', flag.letter, '='] ++ value]
  | longJoined : Spelled flag value ["--" ++ flag.word ++ "=" ++ value]

inductive Source where
  /-- The file that is read when none is named. -/
  | default
  | file (name : String) (nonempty : name ≠ "") (notInput : name ≠ "-")
  | input

namespace Source

def name? : Source → Option String
  | default => none
  | file name _ _ => some name
  | input => some "-"

def read {m : Type → Type} [Monad m] (surroundings : Surroundings m) :
    Source → m (Except ConfigurationError String)
  | default => surroundings.readFile "config.yaml"
  | file name _ _ => surroundings.readFile name
  | input => .ok <$> surroundings.readInput

inductive Named : Source → List String → Prop where
  | default : Named default []
  | given {source : Source} {name : String} {args : List String} : source.name? = some name →
      Spelled .file name args → Named source args

end Source

section Levels

variable {level : Level} {flag : Flag} {value : String}

end Levels

section Lines

variable {format : Format} {source : Source}

end Lines

end StackSynth.CommandLine
