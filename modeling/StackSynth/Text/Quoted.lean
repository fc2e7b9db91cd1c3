import StackSynth.Text.Hex
import StackSynth.Text.Quoted.Table

namespace StackSynth.Text

def isShown (c : Char) : Bool :=
  !(graphemeExtendRanges.contains c || shapelessRanges.contains c)

def quotedChar (c : Char) : List Char :=
  match c with
  | '\u0000' => ['\\', '0']
  | '\t' => ['\\', 't']
  | '\r' => ['\\', 'r']
  | '\n' => ['\\', 'n']
  | '"' => ['\\', '"']
  | '\\' => ['\\', '\\']
  | c => if isShown c then [c] else ['\\', 'u', '\x7b'] ++ hex c.toNat ++ ['\x7d']

def quoted (s : String) : String :=
  String.ofList ('"' :: s.toList.flatMap quotedChar ++ ['"'])

end StackSynth.Text
