namespace StackSynth

/-- How grave a message is, from the least to the greatest. -/
inductive Severity where
  | info
  | warning
  | error
deriving DecidableEq, Repr, Inhabited

namespace Severity

def word : Severity → String
  | info => "info"
  | warning => "warning"
  | error => "error"

def rank : Severity → Nat
  | info => 0
  | warning => 1
  | error => 2

def max (a b : Severity) : Severity :=
  if a.rank < b.rank then b else a

end Severity

structure Diagnostic where
  severity : Severity
  subject : Option String
  message : String
deriving DecidableEq, Repr, Inhabited

def Diagnostic.line (entry : Diagnostic) : String :=
  match entry.subject with
  | some subject => s!"{entry.severity.word}: [{subject}] {entry.message}"
  | none => s!"{entry.severity.word}: {entry.message}"

/-- The messages so far, and the subject of those to come. -/
structure Diagnostics where
  entries : List Diagnostic := []
  subject : Option String := none
deriving DecidableEq, Repr, Inhabited

namespace Diagnostics

/-- Appends a message about the current subject. -/
def log (diagnostics : Diagnostics) (severity : Severity) (message : String) : Diagnostics :=
  { diagnostics with
    entries := diagnostics.entries ++ [⟨severity, diagnostics.subject, message⟩] }

def info (diagnostics : Diagnostics) (message : String) : Diagnostics :=
  diagnostics.log .info message

def warn (diagnostics : Diagnostics) (message : String) : Diagnostics :=
  diagnostics.log .warning message

def error (diagnostics : Diagnostics) (message : String) : Diagnostics :=
  diagnostics.log .error message

def warnAll (diagnostics : Diagnostics) (messages : List String) : Diagnostics :=
  messages.foldl warn diagnostics

def setSubject (diagnostics : Diagnostics) (subject : String) : Diagnostics :=
  { diagnostics with subject := some subject }

def clearSubject (diagnostics : Diagnostics) : Diagnostics :=
  { diagnostics with subject := none }

def withSeverity (diagnostics : Diagnostics) (severity : Severity) : List Diagnostic :=
  diagnostics.entries.filter (·.severity = severity)

def warnings (diagnostics : Diagnostics) : List Diagnostic :=
  diagnostics.withSeverity .warning

def errors (diagnostics : Diagnostics) : List Diagnostic :=
  diagnostics.withSeverity .error

def worst? (diagnostics : Diagnostics) : Option Severity :=
  diagnostics.entries.foldl
    (fun worst entry => some ((worst.map (·.max entry.severity)).getD entry.severity)) none

@[simp] theorem entries_log (diagnostics : Diagnostics) (severity : Severity) (message : String) :
    (diagnostics.log severity message).entries =
      diagnostics.entries ++ [⟨severity, diagnostics.subject, message⟩] := rfl

@[simp] theorem subject_log (diagnostics : Diagnostics) (severity : Severity) (message : String) :
    (diagnostics.log severity message).subject = diagnostics.subject := rfl

@[simp] theorem entries_setSubject (diagnostics : Diagnostics) (subject : String) :
    (diagnostics.setSubject subject).entries = diagnostics.entries := rfl

@[simp] theorem subject_setSubject (diagnostics : Diagnostics) (subject : String) :
    (diagnostics.setSubject subject).subject = some subject := rfl

@[simp] theorem entries_clearSubject (diagnostics : Diagnostics) :
    diagnostics.clearSubject.entries = diagnostics.entries := rfl

@[simp] theorem subject_clearSubject (diagnostics : Diagnostics) :
    diagnostics.clearSubject.subject = none := rfl

@[simp] theorem subject_warnAll (diagnostics : Diagnostics) (messages : List String) :
    (diagnostics.warnAll messages).subject = diagnostics.subject := by
  induction messages generalizing diagnostics with
  | nil => rfl
  | cons message rest ih => simpa [warnAll, warn] using ih (diagnostics.warn message)

theorem entries_warnAll (diagnostics : Diagnostics) (messages : List String) :
    (diagnostics.warnAll messages).entries =
      diagnostics.entries ++ messages.map (⟨.warning, diagnostics.subject, ·⟩) := by
  induction messages generalizing diagnostics with
  | nil => simp [warnAll]
  | cons message rest ih =>
    simpa [warnAll, warn, List.append_assoc] using ih (diagnostics.warn message)

end Diagnostics

end StackSynth
