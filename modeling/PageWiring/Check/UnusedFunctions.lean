import PageWiring.Check.Basic

/-!
Functions that are not exported and that nothing calls.

When any file answers a use, only the latest definition of a name is judged and every call of the
name counts. In the stricter mode each definition is judged by the calls in its own file and those
through a global object.
-/
namespace PageWiring.Check

def isCandidate (ctx : Context) (d : FunctionDef) : Bool :=
  !d.isExported && !ctx.isReferencedByPage d.name

/-- The calls that count for one definition in the stricter mode. -/
def localCalls (ctx : Context) (d : FunctionDef) : List CallSite :=
  (ctx.functions.callSites d.name).filter fun site =>
    site.viaGlobal || site.filePath == d.filePath

def unusedFunction (d : FunctionDef) : UnusedFunction where
  functionName := d.name
  filePath := d.filePath
  line := d.line
  callCount := 0

def unusedFunctions (ctx : Context) : List UnusedFunction :=
  match ctx.resolution with
  | .anyFile =>
    (ctx.functions.functions.filter fun d =>
      isCandidate ctx d && ctx.functions.callCount d.name == 0).map unusedFunction
  | .sameFileOrExported =>
    (ctx.functions.definitions.filter fun d =>
      isCandidate ctx d && (localCalls ctx d).isEmpty).map unusedFunction

end PageWiring.Check
