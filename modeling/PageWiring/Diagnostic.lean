import PageWiring.Error

/-!
Problems with single scripts. They never stop an audit.
-/
namespace PageWiring

/-- Why a script was not read, or not read well. -/
inductive ScriptProblem where
  | syntaxError (line : Nat)
  | unreadable (cause : FileError)
  | deadline (milliseconds : Nat)
  deriving DecidableEq, Repr

structure FileDiagnostic where
  filePath : String
  problem : ScriptProblem
  deriving DecidableEq, Repr

namespace FileDiagnostic

def kind (d : FileDiagnostic) : String :=
  match d.problem with
  | .syntaxError _ => "parseFailed"
  | .unreadable _ => "unreadable"
  | .deadline _ => "skipped"

def line? (d : FileDiagnostic) : Option Nat :=
  match d.problem with
  | .syntaxError line => some line
  | _ => none

def message (d : FileDiagnostic) : String :=
  match d.problem with
  | .syntaxError _ => "<syntax error>"
  | .unreadable cause => cause.message
  | .deadline ms => s!"deadline of {ms}ms reached before parsing"

/-- The diagnostic on one line, with its place. -/
def display (d : FileDiagnostic) : String :=
  match d.line? with
  | some line => s!"{d.filePath}:{line}: {d.message}"
  | none => s!"{d.filePath}: {d.message}"

end FileDiagnostic

end PageWiring
