import PageWiring.Config
import PageWiring.Elements
import PageWiring.Findings
import PageWiring.Functions
import PageWiring.Handler

/-!
What a check sees, and what a check is.
-/
namespace PageWiring.Check

/-- The function that a handler refers to: the first one called by its statements that a script
defines or that is not a name of the browser itself. -/
def handlerFunction (functions : Functions) (record : EventHandler) : Option String :=
  (Handler.callees record.functionCall).find? fun name =>
    functions.contains name || !Handler.isBuiltinCallee name

/-- Both models of a page, with the settings that the checks consult. -/
structure Context where
  elements : Elements
  functions : Functions
  resolution : Resolution := .anyFile
  scriptQueriesCountAsHandlers : Bool := false
  patterns : PatternConfig := {}

namespace Context

def ofConfig (config : Config) (elements : Elements) (functions : Functions) : Context where
  elements := elements
  functions := functions
  resolution := config.checks.resolution
  scriptQueriesCountAsHandlers := config.checks.scriptQueriesCountAsHandlers
  patterns := config.patterns

/-- The functions that inline handlers refer to. -/
def pageReferences (ctx : Context) : List String :=
  ctx.elements.handlers.filterMap (handlerFunction ctx.functions)

def isReferencedByPage (ctx : Context) (name : String) : Bool :=
  ctx.pageReferences.contains name

/-- Is the function defined by a script or called from the page? -/
def functionPresent (ctx : Context) (name : String) : Bool :=
  ctx.functions.contains name || ctx.isReferencedByPage name

def elementHasHandler (ctx : Context) (id : String) : Bool :=
  !(ctx.elements.handlersFor id).isEmpty

/-- Does a script look the element up, and is that configured to count as wiring? -/
def wiredByScript (ctx : Context) (id : String) : Bool :=
  ctx.scriptQueriesCountAsHandlers && ctx.functions.queriesElement id

end Context

end PageWiring.Check
