import PageWiring.Elements
import PageWiring.Query

/-!
What the checks report: six categories of findings, each list in the order of discovery.
-/
namespace PageWiring

inductive Severity where
  | info | warning | critical
  deriving DecidableEq, Repr

def Severity.name : Severity → String
  | .info => "info"
  | .warning => "warning"
  | .critical => "critical"

def Severity.ofName? (s : String) : Option Severity :=
  [Severity.info, .warning, .critical].find? (·.name == s)

def Severity.rank : Severity → Nat
  | .info => 0
  | .warning => 1
  | .critical => 2

/-- The graver of two severities. -/
def Severity.max (a b : Severity) : Severity := if a.rank ≤ b.rank then b else a

inductive Category where
  | orphanedFunctions
  | brokenHandlers
  | unusedFunctions
  | nonFunctionalElements
  | patternIssues
  | duplicateIds
  deriving DecidableEq, Repr

namespace Category

/-- The order in which reports list the categories. -/
def all : List Category :=
  [.brokenHandlers, .orphanedFunctions, .nonFunctionalElements, .duplicateIds, .unusedFunctions,
    .patternIssues]

def name : Category → String
  | .orphanedFunctions => "orphanedFunctions"
  | .brokenHandlers => "brokenHandlers"
  | .unusedFunctions => "unusedFunctions"
  | .nonFunctionalElements => "nonFunctionalElements"
  | .patternIssues => "patternIssues"
  | .duplicateIds => "duplicateIds"

def title : Category → String
  | .orphanedFunctions => "Orphaned Functions"
  | .brokenHandlers => "Broken Event Handlers"
  | .unusedFunctions => "Unused Functions"
  | .nonFunctionalElements => "Non-Functional Elements"
  | .patternIssues => "UI Pattern Issues"
  | .duplicateIds => "Duplicate Element IDs"

/-- The severity of a category's findings. Pattern issues carry their own. -/
def severity : Category → Severity
  | .brokenHandlers => .critical
  | .orphanedFunctions | .nonFunctionalElements | .duplicateIds => .warning
  | .unusedFunctions | .patternIssues => .info

end Category

inductive PatternKind where
  | modal | tab | form | navigation
  deriving DecidableEq, Repr

def PatternKind.name : PatternKind → String
  | .modal => "modal"
  | .tab => "tab"
  | .form => "form"
  | .navigation => "navigation"

def PatternKind.ofName? (s : String) : Option PatternKind :=
  [PatternKind.modal, .tab, .form, .navigation].find? (·.name == s)

/-- A function looks up an element that the page does not have. -/
structure OrphanedFunction where
  functionName : String
  filePath : String
  line : Nat
  missingElementId : String
  queryMethod : QueryMethod
  deriving DecidableEq, Repr

/-- An inline handler calls a function that no script defines. -/
structure BrokenHandler where
  elementId : Option String
  eventType : String
  missingFunction : String
  line : Nat
  deriving DecidableEq, Repr

structure UnusedFunction where
  functionName : String
  filePath : String
  line : Nat
  callCount : Nat
  deriving DecidableEq, Repr

structure NonFunctionalElement where
  elementId : Option String
  tagName : String
  line : Nat
  reason : String
  deriving DecidableEq, Repr

structure PatternIssue where
  pattern : PatternKind
  elementId : String
  missing : List String
  severity : Severity
  deriving DecidableEq, Repr

inductive Finding where
  | orphanedFunction (f : OrphanedFunction)
  | brokenHandler (f : BrokenHandler)
  | unusedFunction (f : UnusedFunction)
  | nonFunctionalElement (f : NonFunctionalElement)
  | patternIssue (f : PatternIssue)
  | duplicateId (f : DuplicateId)
  deriving DecidableEq, Repr

namespace Finding

def category : Finding → Category
  | .orphanedFunction _ => .orphanedFunctions
  | .brokenHandler _ => .brokenHandlers
  | .unusedFunction _ => .unusedFunctions
  | .nonFunctionalElement _ => .nonFunctionalElements
  | .patternIssue _ => .patternIssues
  | .duplicateId _ => .duplicateIds

def severity : Finding → Severity
  | .patternIssue issue => issue.severity
  | other => other.category.severity

end Finding

structure Findings where
  orphanedFunctions : List OrphanedFunction := []
  brokenHandlers : List BrokenHandler := []
  unusedFunctions : List UnusedFunction := []
  nonFunctionalElements : List NonFunctionalElement := []
  patternIssues : List PatternIssue := []
  duplicateIds : List DuplicateId := []
  deriving DecidableEq, Repr

structure SeverityCounts where
  critical : Nat := 0
  warning : Nat := 0
  info : Nat := 0
  deriving DecidableEq, Repr

def SeverityCounts.add (c : SeverityCounts) (s : Severity) (n : Nat) : SeverityCounts :=
  match s with
  | .critical => { c with critical := c.critical + n }
  | .warning => { c with warning := c.warning + n }
  | .info => { c with info := c.info + n }

structure Summary where
  total : Nat
  orphanedFunctions : Nat
  brokenHandlers : Nat
  unusedFunctions : Nat
  nonFunctionalElements : Nat
  patternIssues : Nat
  duplicateIds : Nat
  bySeverity : SeverityCounts
  deriving DecidableEq, Repr

namespace Findings

def push (fs : Findings) : Finding → Findings
  | .orphanedFunction f => { fs with orphanedFunctions := fs.orphanedFunctions ++ [f] }
  | .brokenHandler f => { fs with brokenHandlers := fs.brokenHandlers ++ [f] }
  | .unusedFunction f => { fs with unusedFunctions := fs.unusedFunctions ++ [f] }
  | .nonFunctionalElement f => { fs with nonFunctionalElements := fs.nonFunctionalElements ++ [f] }
  | .patternIssue f => { fs with patternIssues := fs.patternIssues ++ [f] }
  | .duplicateId f => { fs with duplicateIds := fs.duplicateIds ++ [f] }

def count (fs : Findings) : Category → Nat
  | .orphanedFunctions => fs.orphanedFunctions.length
  | .brokenHandlers => fs.brokenHandlers.length
  | .unusedFunctions => fs.unusedFunctions.length
  | .nonFunctionalElements => fs.nonFunctionalElements.length
  | .patternIssues => fs.patternIssues.length
  | .duplicateIds => fs.duplicateIds.length

/-- The findings of one category, in list order. -/
def ofCategory (fs : Findings) : Category → List Finding
  | .orphanedFunctions => fs.orphanedFunctions.map .orphanedFunction
  | .brokenHandlers => fs.brokenHandlers.map .brokenHandler
  | .unusedFunctions => fs.unusedFunctions.map .unusedFunction
  | .nonFunctionalElements => fs.nonFunctionalElements.map .nonFunctionalElement
  | .patternIssues => fs.patternIssues.map .patternIssue
  | .duplicateIds => fs.duplicateIds.map .duplicateId

def total (fs : Findings) : Nat := (Category.all.map fs.count).foldr (· + ·) 0

def isEmpty (fs : Findings) : Bool := fs.total == 0

/-- Counts by severity. Each category counts as a whole, except that every pattern issue counts
by its own severity. -/
def severityCounts (fs : Findings) : SeverityCounts :=
  let byCategory := (Category.all.filter (· != .patternIssues)).foldl
    (fun counts c => counts.add c.severity (fs.count c)) {}
  fs.patternIssues.foldl (fun counts issue => counts.add issue.severity 1) byCategory

def hasCritical (fs : Findings) : Bool := 0 < fs.severityCounts.critical

def summary (fs : Findings) : Summary where
  total := fs.total
  orphanedFunctions := fs.orphanedFunctions.length
  brokenHandlers := fs.brokenHandlers.length
  unusedFunctions := fs.unusedFunctions.length
  nonFunctionalElements := fs.nonFunctionalElements.length
  patternIssues := fs.patternIssues.length
  duplicateIds := fs.duplicateIds.length
  bySeverity := fs.severityCounts

end Findings

end PageWiring
