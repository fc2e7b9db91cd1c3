import StackSynth.Build
import StackSynth.CommandLine.Arguments
import StackSynth.Configuration.Outline
import StackSynth.Configuration.Parse
/-!
Running a command line. All that depends on the world around is asked of the surroundings: changing
the directory, and reading files and the standard input.
-/
namespace StackSynth.CommandLine

inductive DirectoryError where
  | unresolved (path reason : String)
  /-- The path leads to something that is no directory. -/
  | refused (absolutePath reason : String)
deriving DecidableEq, Repr

def DirectoryError.message : DirectoryError → String
  | unresolved path reason => s!"Failed to resolve path for -C/--directory {path}\n{reason}"
  | refused absolutePath reason => s!"Failed to set work directory to {absolutePath}\n{reason}"

/-- How the messages of a build are logged: which severities are shown, and the line of a message
that comes at a place, as lines also carry the time. What else a run logs, which is never an error,
is left out. -/
structure Log where
  shows : Severity → Bool
  line : Nat → Diagnostic → String

namespace Log

def off : Log where
  shows _ := false
  line _ _ := ""

/-- Messages are shown from a severity on. -/
def upwards (severity : Severity) (line : Nat → Diagnostic → String) : Log where
  shows other := severity.rank ≤ other.rank
  line

/-- The lines that are shown of messages. -/
def text (log : Log) (entries : List Diagnostic) : String :=
  String.join ((entries.filter (log.shows ·.severity)).mapIdx log.line)

end Log

structure Surroundings (m : Type → Type) where
  log : Log
  enter : String → m (Except DirectoryError Unit)
  readFile : String → m (Except ConfigurationError String)
  readInput : m String

structure Reply where
  code : Nat
  output : String
  messages : String
deriving DecidableEq, Repr

namespace Reply

def ok (output : String) (messages : String) : Reply :=
  ⟨0, output, messages⟩

/-- The reply of a run that failed, with lines for the error and what led to it. -/
def failure (messages : String) (lines : List String) : Reply :=
  ⟨1, "", messages ++ String.join (lines.map (· ++ "\n"))⟩

end Reply

def versionText : String := "stackgen 0.1.0\n"

def Refusal.reply : Refusal → Reply
  | version => .ok versionText ""
  | usage => ⟨2, "", "Usage: stackgen [OPTIONS] <COMMAND>\n"⟩

/-- Lines about the declarations and outputs that failed. -/
def failureLines (report : BuildReport) : List String :=
  report.outcomes.filterMap (fun outcome => match outcome.result with
    | .ok _ => none
    | .error e => some s!"skipped '{outcome.name}': {e.message} (at {e.stage.word})\n")
  ++ report.exports.filterMap (fun entry => match entry.result with
    | .ok _ => none
    | .error e => some s!"no output for '{entry.name}': {e.message}\n")

/-- Builds a configuration and renders the stack. What the build logs comes before all else. -/
def synth (log : Log) (configuration : Configuration) (format : Format) : Reply :=
  match Stack.new configuration.context.region with
  | .error e => .failure "" [e.message]
  | .ok stack =>
    let (report, stack, diagnostics) :=
      build Stack.backend configuration.context configuration.declarations stack {}
    let messages := log.text diagnostics.entries ++ String.join (failureLines report)
    match stack.render format with
    | .error e => .failure messages [e.message]
    | .ok text => .ok (text ++ "\n") messages

def typeLine (type : ResourceType) (entry : CatalogEntry) : String :=
  let data := if entry.hasDataSource then " (data)" else ""
  s!"{type.display} -> {entry.terraformType}{data}\n"

def referencesLine (declaration : Declaration) : String :=
  let names := ", ".intercalate declaration.references
  s!"{declaration.name} -> [{names}]\n"

def typesText : String :=
  String.join (Catalog.builtin.map fun (type, entry) => typeLine type entry)

def Task.reply (log : Log) (configuration : Configuration) : Task → Reply
  | synth format => CommandLine.synth log configuration format
  | name base => .ok (configuration.context.generateName base ++ "\n") ""
  | declarations => .ok (configuration.listing ++ "\n") ""
  | references => .ok (String.join (configuration.declarations.map referencesLine)) ""

/-- The reply of a task to a text, if there is one. -/
def Task.replyTo (task : Task) (log : Log) (text : Except ConfigurationError String) : Reply :=
  match text.bind Configuration.parse with
  | .error e => .failure "" (e.message :: e.causes)
  | .ok configuration => task.reply log configuration

section

variable {m : Type → Type} [Monad m]

/-- Changes the directory along paths, and stops at the first that fails. -/
def enterAll (surroundings : Surroundings m) : List String → m (Except DirectoryError Unit)
  | [] => pure (.ok ())
  | path :: rest => do
    match ← surroundings.enter path with
    | .error e => pure (.error e)
    | .ok () => enterAll surroundings rest

/-- Reads the text of a file, or the standard input for `-`. -/
def readText (surroundings : Surroundings m) (file : String) :
    m (Except ConfigurationError String) :=
  if file = "-" then .ok <$> surroundings.readInput else surroundings.readFile file

def run (surroundings : Surroundings m) (args : List String) : m Reply :=
  match readArguments args with
  | .error refusal => pure refusal.reply
  | .ok ⟨directories, command⟩ => do
    match ← enterAll surroundings directories with
    | .error e => pure (.failure "" [e.message])
    | .ok () =>
      match command with
      | .types => pure (.ok typesText "")
      | .read file task => task.replyTo surroundings.log <$> readText surroundings file

end

end StackSynth.CommandLine
