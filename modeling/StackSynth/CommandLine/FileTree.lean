import StackSynth.CommandLine.Run
import StackSynth.Text.Split

namespace StackSynth.CommandLine

/-- Files below a root, by their segments, and the standard input. -/
structure FileTree where
  /-- What the absolute path of the root is shown as. -/
  root : String
  files : List (List String × String)
  input : String
  log : Log := .off

/-- A place in the tree, or one above its root. -/
abbrev Place := Option (List String)

namespace FileTree

def ofPaths (root input : String) (files : List (String × String)) : FileTree where
  root
  files := files.map fun (path, text) =>
    ((Text.segments '/' path.toList).map String.ofList, text)
  input

def missing : String := "No such file or directory (os error 2)"

def notADirectory : String := "Not a directory (os error 20)"

def isADirectory : String := "Is a directory (os error 21)"

def text? (tree : FileTree) (path : List String) : Option String :=
  tree.files.lookup path

def isDirectory (tree : FileTree) : Place → Bool
  | none => true
  | some path => path.isEmpty || tree.files.any fun file =>
    path.isPrefixOf file.1 && path.length < file.1.length

def step (tree : FileTree) (place : Place) (segment : String) : Except String Place :=
  if !tree.isDirectory place then .error notADirectory
  else if segment = "" ∨ segment = "." then .ok place
  else match place, segment with
    | none, ".." => .ok none
    | none, _ => .error missing
    | some [], ".." => .ok none
    | some path, ".." => .ok (some path.dropLast)
    | some path, _ =>
      let path := path ++ [segment]
      if (tree.text? path).isSome || tree.isDirectory (some path) then .ok (some path)
      else .error missing

/-- The place that a path leads to. Nothing is known of absolute paths. -/
def walk (tree : FileTree) (place : Place) (path : String) : Except String Place :=
  if path.startsWith "/" then .error missing
  else ((Text.segments '/' path.toList).map String.ofList).foldlM tree.step place

def absolute (tree : FileTree) : Place → String
  | none => ".."
  | some path => "/".intercalate (tree.root :: path)

def enter (tree : FileTree) (path : String) (place : Place) :
    Except DirectoryError Unit × Place :=
  match tree.walk place path with
  | .error reason => (.error (.unresolved path reason), place)
  | .ok next =>
    if tree.isDirectory next then (.ok (), next)
    else (.error (.refused (tree.absolute next) notADirectory), place)

def readFile (tree : FileTree) (path : String) (place : Place) :
    Except ConfigurationError String :=
  match tree.walk place path with
  | .error reason => .error (.unreadable reason)
  | .ok next =>
    match next.bind tree.text? with
    | some text => .ok text
    | none => .error (.withoutContent isADirectory)

/-- The tree as the surroundings of a run that starts at its root. -/
def surroundings (tree : FileTree) : Surroundings (StateM Place) where
  log := tree.log
  enter path := modifyGet (tree.enter path)
  readFile path := do return tree.readFile path (← get)
  readInput := pure tree.input

def run (tree : FileTree) (args : List String) : Reply :=
  ((CommandLine.run tree.surroundings args).run (some [])).1

end FileTree

end StackSynth.CommandLine
