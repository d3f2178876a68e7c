import PageWiring.Check.Registry
import PageWiring.Config.Reading
import PageWiring.Discovery
import PageWiring.Fix.Basic
import PageWiring.Markup.Page
import PageWiring.Script.Source

/-!
An audit: a page and its scripts are read, the checks are run, and fixes are derived.
-/
namespace PageWiring

variable {m : Type → Type} [Monad m]

/-! ### Settings -/

namespace Config

/-- The configuration file in a directory or in the nearest one above it. -/
def find (disk : Disk m) (start : String) : m (Option String) := do
  let candidates := (start :: Path.parents start).map (Path.join · fileName)
  candidates.findM? disk.isPresent

def load (disk : Disk m) (path : String) : m (Except ConfigError LoadedConfig) := do
  match ← disk.readText path with
  | .error e => return .error (.unreadable path e)
  | .ok text => return ofText path text

/-- The settings that hold in a directory. A file that cannot be used counts as missing. -/
def loadOrDefault (disk : Disk m) (start : String) : m LoadedConfig := do
  match ← find disk start with
  | none => return {}
  | some path => return (← load disk path).toOption.getD {}

end Config

/-! ### Reading -/

/-- The elements of a page in a file. Bytes that are no text are replaced. -/
def Elements.load (disk : Disk m) (path : String) : m (Except AuditError Elements) := do
  unless ← disk.isPresent path do return .error (.inputNotFound path)
  if ← disk.isDirectory path then return .error (.invalidArgument (.directoryAsPage path))
  match ← disk.read path with
  | .error e => return .error (.unreadable path e)
  | .ok bytes => return .ok (.ofPage (Text.decodeLossy bytes))

namespace Script

/-- What is learned from a script in a file. -/
def FileModel.load (disk : Disk m) (path : DiskPath) : m (Except FileDiagnostic FileModel) := do
  match ← disk.readText path with
  | .error e => return .error ⟨path.shown, .unreadable e⟩
  | .ok text => return FileModel.ofSource path.shown (String.ofList text)

/-- Reads a script unless the time for that is over. -/
def FileModel.loadInTime (disk : Disk m) (started : Nat) (deadline : Option Nat)
    (path : DiskPath) : m (Except FileDiagnostic FileModel) := do
  match deadline with
  | none => load disk path
  | some ms =>
    if ms ≤ (← disk.now) - started then return .error ⟨path.shown, .deadline ms⟩
    else load disk path

/-- Reads all scripts at or below a path. -/
def Scan.ofRoot (disk : Disk m) (discovery : Discovery) (deadline : Option Nat) (root : String) :
    m (Except AuditError Scan) := do
  match ← discovery.discover disk root with
  | .error e => return .error e
  | .ok files =>
    let started ← disk.now
    return .ok (.merge (← files.mapM (FileModel.loadInTime disk started deadline)))

end Script

/-! ### Reports -/

/-- What was read, in numbers. -/
structure AuditStats where
  htmlLines : Nat
  elementIds : Nat
  eventHandlers : Nat
  interactiveElements : Nat
  scripts : Nat
  functions : Nat
  domQueries : Nat
  deriving DecidableEq, Repr

def AuditStats.of (elements : Elements) (scan : Script.Scan) : AuditStats where
  htmlLines := elements.lineCount
  elementIds := elements.ids.length
  eventHandlers := elements.handlers.length
  interactiveElements := elements.interactive.length
  scripts := scan.filesScanned
  functions := scan.functions.functions.length
  domQueries := scan.functions.queries.length

structure AuditReport where
  htmlFile : String
  scriptRoot : String
  findings : Findings
  summary : Summary
  fixes : List Fix
  diagnostics : List FileDiagnostic
  pageDiagnostics : List PageDiagnostic
  stats : AuditStats
  deriving DecidableEq, Repr

/-! ### Stubs -/

namespace StubTarget

/-- The file for missing functions when there is no other. -/
def fileName : String := "wirecheck-stubs.js"

/-- The least of some texts. -/
def least? : List String → Option String
  | [] => none
  | s :: ss =>
    match least? ss with
    | none => some s
    | some t => some (if t < s then t else s)

/-- The first file in which something is defined or looked up. -/
def firstFile? (functions : Functions) : Option String :=
  least? (functions.definitions.map (·.filePath) ++ functions.queries.map (·.filePath))

/-- The line on which a function added to a text starts. -/
def nextLine (text : Except FileError (List Char)) : Nat :=
  match text with
  | .ok cs => Text.lineCount cs + 2
  | .error _ => 1

/-- Where missing functions go: into a script, or into a new file beside the scripts. -/
def choose (disk : Disk m) (root : String) (functions : Functions) : m StubTarget := do
  match firstFile? functions with
  | some file => return ⟨file, nextLine (← disk.readText file)⟩
  | none =>
    let directory :=
      if ← disk.isDirectory root then root else (Path.parent? root).getD ""
    return ⟨Path.join directory fileName, 1⟩

end StubTarget

/-! ### The audit -/

/-- What is asked for: a page, the scripts that belong to it, and settings. -/
structure Audit where
  htmlPath : String
  scriptRoot : String
  config : Config := {}
  deriving DecidableEq, Repr

namespace Audit

/-- The report on a page and scripts that have been read. -/
def report (a : Audit) (elements : Elements) (scan : Script.Scan) (target : StubTarget)
    (findings : Findings) : AuditReport where
  htmlFile := a.htmlPath
  scriptRoot := a.scriptRoot
  findings := findings
  summary := findings.summary
  fixes := Fix.derive findings elements scan.functions a.htmlPath target
  diagnostics := scan.diagnostics
  pageDiagnostics := elements.diagnostics
  stats := .of elements scan

/-- Runs an audit. Missing files and faulty patterns are reported before anything is read. -/
def run (disk : Disk m) (a : Audit) : m (Except AuditError AuditReport) := do
  unless ← disk.isPresent a.htmlPath do return .error (.inputNotFound a.htmlPath)
  unless ← disk.isPresent a.scriptRoot do return .error (.inputNotFound a.scriptRoot)
  match Discovery.ofConfig a.config with
  | .error e => return .error (.config e)
  | .ok discovery =>
    match ← Elements.load disk a.htmlPath with
    | .error e => return .error e
    | .ok elements =>
      match ← Script.Scan.ofRoot disk discovery a.config.deadlineMs a.scriptRoot with
      | .error e => return .error e
      | .ok scan =>
        match Check.analyze a.config elements scan.functions with
        | .error e => return .error e
        | .ok findings =>
          let target ← StubTarget.choose disk a.scriptRoot scan.functions
          return .ok (a.report elements scan target findings)

end Audit

end PageWiring
