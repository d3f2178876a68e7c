import PageWiring.Check.BrokenHandlers
import PageWiring.Check.NonFunctionalElements
import PageWiring.Check.OrphanedFunctions
import PageWiring.Check.Patterns
import PageWiring.Check.UnusedFunctions

/-!
The six checks, how they are switched off, and the analysis that runs them.
-/
namespace PageWiring.Check

/-- A check, with the texts by which users meet it. -/
structure Rule where
  id : String
  name : String
  description : String
  category : Category
  examples : Option String
  run : Context → List Finding

def orphanedFunctionsRule : Rule where
  id := "W001"
  name := "orphaned-functions"
  description := "Functions that look up an element id missing from the HTML"
  category := .orphanedFunctions
  examples := some ("<!-- index.html has no #sidebar -->\nfunction toggle() \x7b\n" ++
    "  document.getElementById('sidebar').hidden ^= true;\n\x7d")
  run ctx := (orphanedFunctions ctx).map .orphanedFunction

def brokenHandlersRule : Rule where
  id := "W002"
  name := "broken-handlers"
  description := "Inline event handlers that call a function no script defines"
  category := .brokenHandlers
  examples := some ("<!-- Bad: no script defines doStuff -->\n" ++
    "<div onclick=\"doStuff()\">Go</div>")
  run ctx := (brokenHandlers ctx).map .brokenHandler

def unusedFunctionsRule : Rule where
  id := "W003"
  name := "unused-functions"
  description := "Non-exported functions with no call site in script or markup"
  category := .unusedFunctions
  examples := some ("// Flagged: never called, not exported, not used by an onclick\n" ++
    "function legacyInit() \x7b\x7d\n\n// Not flagged\nexport function publicApi() \x7b\x7d")
  run ctx := (unusedFunctions ctx).map .unusedFunction

def nonFunctionalElementsRule : Rule where
  id := "W004"
  name := "non-functional-elements"
  description := "Interactive elements without any event handler"
  category := .nonFunctionalElements
  examples := some ("<!-- Flagged -->\n<button id=\"save\">Save</button>\n\n" ++
    "<!-- Not flagged -->\n<button id=\"save\" onclick=\"save()\">Save</button>")
  run ctx := (nonFunctionalElements ctx).map .nonFunctionalElement

def uiPatternsRule : Rule where
  id := "W005"
  name := "ui-patterns"
  description := "Modals, tabs, forms and navigation missing an expected part"
  category := .patternIssues
  examples := some ("<!-- Flagged: nothing can close the modal -->\n" ++
    "<div id=\"settingsModal\"></div>\n<script>function openSettingsModal() \x7b\x7d</script>")
  run ctx := (patternIssues ctx).map .patternIssue

def duplicateIdsRule : Rule where
  id := "W006"
  name := "duplicate-ids"
  description := "Element ids used by more than one element"
  category := .duplicateIds
  examples := some ("<!-- getElementById('status') only ever finds the first one -->\n" ++
    "<span id=\"status\"></span>\n<div id=\"status\"></div>")
  run ctx := ctx.elements.duplicates.map .duplicateId

def defaultRules : List Rule :=
  [orphanedFunctionsRule, brokenHandlersRule, unusedFunctionsRule, nonFunctionalElementsRule,
    uiPatternsRule, duplicateIdsRule]

/-- A list of checks, some of which are switched off by their id or name. -/
structure Registry where
  rules : List Rule := defaultRules
  disabled : List String := []

namespace Registry

def configure (r : Registry) (config : ChecksConfig) : Registry :=
  { r with disabled := config.disabled }

def isEnabled (r : Registry) (rule : Rule) : Bool :=
  !(r.disabled.contains rule.id || r.disabled.contains rule.name)

def ruleById? (r : Registry) (id : String) : Option Rule := r.rules.find? (·.id == id)

def ruleByName? (r : Registry) (name : String) : Option Rule := r.rules.find? (·.name == name)

/-- Looks a check up by its id or else by its name, and asks whether it runs. -/
def isCheckEnabled (r : Registry) (idOrName : String) : Bool :=
  ((r.ruleById? idOrName).or (r.ruleByName? idOrName)).any r.isEnabled

/-- The findings of the enabled checks, check after check. -/
def runAll (r : Registry) (ctx : Context) : Findings :=
  (r.rules.filter r.isEnabled).foldl
    (fun findings rule => (rule.run ctx).foldl Findings.push findings) {}

end Registry

/-- The check that reports a category. -/
def ruleOf (category : Category) : Rule :=
  match category with
  | .orphanedFunctions => orphanedFunctionsRule
  | .brokenHandlers => brokenHandlersRule
  | .unusedFunctions => unusedFunctionsRule
  | .nonFunctionalElements => nonFunctionalElementsRule
  | .patternIssues => uiPatternsRule
  | .duplicateIds => duplicateIdsRule

/-- Runs the enabled checks over both models, once the models satisfy their own conditions. -/
def analyze (config : Config) (elements : Elements) (functions : Functions) :
    Except AuditError Findings := do
  (elements.validate).mapError AuditError.invalidArgument
  (functions.validate).mapError AuditError.invalidArgument
  let registry : Registry := ({} : Registry).configure config.checks
  return registry.runAll (Context.ofConfig config elements functions)

end PageWiring.Check
