import PageWiring.Audit

/-!
Findings as single entries, ready to be listed.

All ways of writing a report use these entries, so they agree on wording and order.
-/
namespace PageWiring

structure ReportEntry where
  category : Category
  severity : Severity
  message : String
  file : String
  line : Option Nat
  deriving DecidableEq, Repr

namespace Finding

/-- How an element is called. -/
def elementLabel (tag id : Option String) : String :=
  match tag, id with
  | some tag, some id => s!"<{tag}> #{id}"
  | some tag, none => s!"<{tag}>"
  | none, some id => "#" ++ id
  | none, none => "element"

def message : Finding → String
  | .orphanedFunction f =>
    s!"'{f.functionName}' looks up #{f.missingElementId} with {f.queryMethod.name}, " ++
      "but the page has no such id"
  | .brokenHandler f =>
    s!"{f.eventType} on " ++ elementLabel none f.elementId ++
      s!" calls undefined function '{f.missingFunction}'"
  | .unusedFunction f => s!"function '{f.functionName}' is never called"
  | .nonFunctionalElement f => elementLabel (some f.tagName) f.elementId ++ ": " ++ f.reason
  | .patternIssue f =>
    s!"{f.pattern.name} #{f.elementId} is missing " ++ ", ".intercalate f.missing
  | .duplicateId f =>
    s!"id '{f.elementId}' is defined {f.lines.length} times (lines " ++
      ", ".intercalate (f.lines.map toString) ++ ")"

/-- The file and line that a finding points at. -/
def place (htmlFile : String) : Finding → String × Option Nat
  | .orphanedFunction f => (f.filePath, some f.line)
  | .brokenHandler f => (htmlFile, some f.line)
  | .unusedFunction f => (f.filePath, some f.line)
  | .nonFunctionalElement f => (htmlFile, some f.line)
  | .patternIssue _ => (htmlFile, none)
  | .duplicateId f => (htmlFile, f.lines.head?)

end Finding

namespace ReportEntry

def checkId (e : ReportEntry) : String := (Check.ruleOf e.category).id

def location (e : ReportEntry) : String :=
  match e.line with
  | some line => s!"{e.file}:{line}"
  | none => e.file

/-- The entry of a finding that is listed under a category, with the severity of that category. Only
a pattern issue brings its own. -/
def under (category : Category) (htmlFile : String) (finding : Finding) : ReportEntry :=
  let (file, line) := finding.place htmlFile
  let entry : ReportEntry := ⟨category, category.severity, finding.message, file, line⟩
  match finding with
  | .patternIssue issue => { entry with severity := issue.severity }
  | _ => entry

end ReportEntry

namespace AuditReport

def entriesOf (r : AuditReport) (category : Category) : List ReportEntry :=
  (r.findings.ofCategory category).map (ReportEntry.under category r.htmlFile)

/-- All entries, category by category. -/
def entries (r : AuditReport) : List ReportEntry := Category.all.flatMap r.entriesOf

end AuditReport

end PageWiring
