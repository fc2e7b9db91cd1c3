import StackSynth.Text.Identifier.Table

namespace StackSynth.Text

def startsIdentifier (c : Char) : Bool :=
  c = '_' || identifierStartRanges.contains c

def continuesIdentifier (c : Char) : Bool :=
  c = '-' || identifierContinueRanges.contains c

def isIdentifier (s : String) : Bool :=
  match s.toList with
  | [] => false
  | c :: rest => startsIdentifier c && rest.all continuesIdentifier

end StackSynth.Text
