import StackSynth.Text.Lowercase.Table
/-!
Lower casing of texts: every capital letter becomes its small letter, `İ` becomes an `i` with a dot
above it, and `Σ` becomes `ς` at the end of a word and `σ` elsewhere.
-/
namespace StackSynth.Text

/-- The small letter of a capital of the run. -/
def CaseRun.lower? (run : CaseRun) (c : Char) : Option Char :=
  let n := c.toNat
  if run.first ≤ n ∧ n ≤ run.last ∧ (n - run.first) % run.step = 0 then
    some (Char.ofNat (run.target + (n - run.first)))
  else none

def lowerChar (c : Char) : List Char :=
  if c = 'İ' then ['i', '\u0307'] else [(caseRuns.findSome? (·.lower? c)).getD c]

/-- Whether the nearest character that does not belong to the inside of a word has case. -/
def reachesCased (cs : List Char) : Bool :=
  match cs.dropWhile caseIgnorableRanges.contains with
  | [] => false
  | c :: _ => casedRanges.contains c

/-- The lower case of the characters `after`, which stand behind those of `before`, the nearest of
them first. -/
def lowerFrom (before : List Char) : List Char → List Char
  | [] => []
  | c :: after =>
    (if c = 'Σ' then [if reachesCased before && !reachesCased after then 'ς' else 'σ']
      else lowerChar c) ++ lowerFrom (c :: before) after

def lowercase (s : String) : String :=
  String.ofList (lowerFrom [] s.toList)

example : lowercase "ΟΔΟΣ ΣΤΑ, İ" = "οδος στα, i̇" := by decide +kernel

end StackSynth.Text
