import StackSynth.Stack.Render

namespace StackSynth.CommandLine

inductive Task where
  | synth (format : Format)
  | name (base : String)
  | declarations
  | references
deriving DecidableEq, Repr

inductive Command where
  | types
  | read (file : String) (task : Task)
deriving DecidableEq, Repr

/-- A command and the directories to change to before it. -/
structure Invocation where
  directories : List String
  command : Command
deriving DecidableEq, Repr

inductive Refusal where
  | version
  | usage
deriving DecidableEq, Repr

/-- Options with a value. That for a file to write to, `-o` or `--output-file`, is left out: it goes
by the same name as the one for the file to read, which keeps it from working. Arguments with it are
refused here. -/
inductive Flag where
  | directory
  | file
  | format
deriving DecidableEq, Repr

def Flag.ofLetter? : Char → Option Flag
  | 'C' => some directory
  | 'f' => some file
  | 'F' => some format
  | _ => none

def Flag.ofWord? (word : String) : Option Flag :=
  match word with
  | "directory" => some directory
  | "input-file" => some file
  | "output-format" => some format
  | _ => none

def formatOf? (word : String) : Option Format :=
  match word with
  | "json" => some .json
  | "yaml" => some .yaml
  | "hcl" => some .hcl
  | _ => none

structure Level where
  flags : List Flag
  /-- How many arguments without a name it takes. -/
  positionals : Nat := 0
  hasSubcommands : Bool := false
  hasVersion : Bool := false

structure Given where
  directories : List String := []
  file : Option String := none
  format : Option Format := none
  positionals : List String := []
  /-- A subcommand and the arguments behind it. -/
  subcommand : Option (String × List String) := none

namespace Given

/-- Takes in an option. Only directories may be given again, and no file has an empty name. -/
def set (given : Given) (flag : Flag) (value : String) : Except Refusal Given :=
  match flag with
  | .directory =>
    if value = "" then .error .usage
    else .ok { given with directories := given.directories ++ [value] }
  | .file =>
    if value = "" ∨ given.file.isSome then .error .usage
    else .ok { given with file := some value }
  | .format =>
    match formatOf? value, given.format with
    | some format, none => .ok { given with format := some format }
    | _, _ => .error .usage

def fileName (given : Given) : String :=
  given.file.getD "config.yaml"

end Given

inductive Argument where
  /-- `--`, behind which there are no options. -/
  | separator
  /-- An option with the value that is part of it. -/
  | option (flag : Flag) (value : Option String)
  | version
  | positional (text : String)
  | unknown

def Argument.of (s : String) : Argument :=
  match s.toList with
  | ['-', '-'] => separator
  | '-' :: '-' :: rest =>
    let word := String.ofList (rest.takeWhile (· ≠ '='))
    let value := match rest.dropWhile (· ≠ '=') with
      | [] => none
      | _ :: value => some (String.ofList value)
    match Flag.ofWord? word with
    | some flag => option flag value
    | none => if word = "version" ∧ value = none then version else unknown
  | '-' :: letter :: rest =>
    match Flag.ofLetter? letter with
    | some flag =>
      let value := match rest with
        | [] => none
        | '=' :: value => some (String.ofList value)
        | value => some (String.ofList value)
      option flag value
    | none => if letter = 'V' then version else unknown
  | _ => positional s

/-- Whether an argument may be the value of the option in front of it. -/
def mayBeValue (s : String) : Bool :=
  match s.toList with
  | '-' :: _ :: _ => false
  | _ => true

def Given.addPositional (given : Given) (level : Level) (s : String) : Except Refusal Given :=
  if given.positionals.length < level.positionals then
    .ok { given with positionals := given.positionals ++ [s] }
  else .error .usage

/-- Reads the arguments of a level. `separated` holds behind `--`. -/
def readLevel (level : Level) (separated : Bool) (given : Given) :
    List String → Except Refusal Given
  | [] => .ok given
  | arg :: rest =>
    if separated then do readLevel level true (← given.addPositional level arg) rest
    else match Argument.of arg with
      | .separator => readLevel level true given rest
      | .version => .error (if level.hasVersion then .version else .usage)
      | .unknown => .error .usage
      | .positional s =>
        if level.hasSubcommands then .ok { given with subcommand := some (s, rest) }
        else do readLevel level false (← given.addPositional level s) rest
      | .option flag value =>
        if !level.flags.contains flag then .error .usage
        else match value with
          | some value => do readLevel level false (← given.set flag value) rest
          | none =>
            -- the value is the next argument, unless that looks like an option
            match rest with
            | [] => .error .usage
            | value :: rest =>
              if mayBeValue value then do readLevel level false (← given.set flag value) rest
              else .error .usage

/-- The directories of the innermost level that has any. -/
def innermost (outer inner : List String) : List String :=
  if inner.isEmpty then outer else inner

def readDev (directories : List String) (args : List String) : Except Refusal Invocation := do
  let dev ← readLevel { flags := [.directory, .file], hasSubcommands := true } false {} args
  let directories := innermost directories dev.directories
  match dev.subcommand with
  | none => .error .usage
  | some (word, args) =>
    let leaf ← readLevel { flags := [.directory] } false {} args
    let directories := innermost directories leaf.directories
    match word with
    | "declarations" => return ⟨directories, .read dev.fileName .declarations⟩
    | "types" => return ⟨directories, .types⟩
    | "references" => return ⟨directories, .read dev.fileName .references⟩
    | _ => .error .usage

def readArguments (args : List String) : Except Refusal Invocation := do
  let root ← readLevel
    { flags := [.directory], hasSubcommands := true, hasVersion := true } false {} args
  match root.subcommand with
  | none => .error .usage
  | some (word, args) =>
    match word with
    | "synth" | "build" =>
      let synth ← readLevel { flags := [.directory, .file, .format] } false {} args
      return ⟨innermost root.directories synth.directories,
        .read synth.fileName (.synth (synth.format.getD .json))⟩
    | "name" =>
      let name ← readLevel { flags := [.directory, .file], positionals := 1 } false {} args
      match name.positionals with
      | [base] =>
        return ⟨innermost root.directories name.directories, .read name.fileName (.name base)⟩
      | _ => .error .usage
    | "dev" => readDev root.directories args
    | _ => .error .usage

end StackSynth.CommandLine
