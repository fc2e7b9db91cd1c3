import StackSynth.Hcl.Expression

namespace StackSynth.Hcl

inductive Error where
  | invalidIdentifier (name : String)
deriving DecidableEq, Repr

def Error.message : Error → String
  | invalidIdentifier name => s!"invalid identifier `{name}`"

inductive Structure where
  | argument (name : String) (value : Expression)
  | block (kind : String) (labels : List String) (body : List Structure)
deriving Repr, Inhabited

/-- The argument of a name, which has to be an identifier. -/
def Structure.argument? (name : String) (value : Expression) : Except Error Structure :=
  if Text.isIdentifier name then .ok (.argument name value)
  else .error (.invalidIdentifier name)

def Structure.isBlock : Structure → Bool
  | .argument .. => false
  | .block .. => true

/-- What stands between two parts: an empty line on both sides of a block. -/
def gap (previous next : Structure) : List Char :=
  if previous.isBlock || next.isBlock then ['\n'] else []

def indent (level : Nat) : List Char :=
  List.replicate (2 * level) ' '

mutual

/-- The lines of a part, the last one ended as well. -/
def Structure.text (level : Nat) : Structure → List Char
  | .argument name value =>
    indent level ++ name.toList ++ " = ".toList ++ value.text level ++ ['\n']
  | .block kind labels body =>
    indent level ++ kind.toList ++ labels.flatMap (fun label => ' ' :: quote label)
      ++ (match body with
        | [] => [' ', '\x7b', '\x7d', '\n']
        | first :: rest =>
          [' ', '\x7b', '\n'] ++ first.text (level + 1) ++ restTexts (level + 1) first rest
            ++ indent level ++ ['\x7d', '\n'])
termination_by structural part => part

def restTexts (level : Nat) (previous : Structure) : List Structure → List Char
  | [] => []
  | next :: rest => gap previous next ++ next.text level ++ restTexts level next rest
termination_by structural parts => parts

end

def render : List Structure → String
  | [] => ""
  | first :: rest => String.ofList (first.text 0 ++ restTexts 0 first rest)

end StackSynth.Hcl
