import StackSynth.CommandLine.Run

namespace StackSynth

def systemReason : IO.Error → String
  | .noFileOrDirectory .. => "No such file or directory (os error 2)"
  | e => toString e

def pathFrom (directory path : String) : String :=
  if path.startsWith "/" then path else directory ++ "/" ++ path

/-- The log at a level, which is that of errors if none is given. Filters by module and the times of
lines are left out. -/
def logAt : Option String → CommandLine.Log
  | some "off" => .off
  | some "warn" => .upwards .warning line
  | some "info" | some "debug" | some "trace" => .upwards .info line
  | _ => .upwards .error line
where
  line (_ : Nat) (entry : Diagnostic) : String := entry.line ++ "\n"

/-- The files of the machine. The state is the directory that paths are seen from. -/
def machine (log : CommandLine.Log) : CommandLine.Surroundings (StateT String IO) where
  log
  enter path := do
    let target := pathFrom (← get) path
    match ← (IO.FS.realPath target).toBaseIO with
    | .error e => return .error (.unresolved path (systemReason e))
    | .ok absolute =>
      let absolute := toString absolute
      match ← (IO.FS.Handle.mk (absolute ++ "/.") .read).toBaseIO with
      | .error e => return .error (.refused absolute (systemReason e))
      | .ok _ =>
        set absolute
        return .ok ()
  readFile path := do
    let target := pathFrom (← get) path
    match ← (IO.FS.Handle.mk target .read).toBaseIO with
    | .error e => return .error (.unreadable (systemReason e))
    | .ok handle =>
      match ← handle.readToEnd.toBaseIO with
      | .error e => return .error (.withoutContent (systemReason e))
      | .ok text => return .ok text
  readInput := do (← IO.getStdin).readToEnd

end StackSynth

def main (args : List String) : IO UInt32 := do
  let log := StackSynth.logAt (← IO.getEnv "STACKGEN_LOG")
  let (reply, _) ← (StackSynth.CommandLine.run (StackSynth.machine log) args).run "."
  (← IO.getStdout).putStr reply.output
  (← IO.getStderr).putStr reply.messages
  return UInt32.ofNat reply.code
