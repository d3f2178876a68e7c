import PageWiring.Check.Basic

/-!
Inline handlers that call a function which no script defines.
-/
namespace PageWiring.Check

def brokenHandler? (functions : Functions) (record : EventHandler) : Option BrokenHandler :=
  match handlerFunction functions record with
  | none => none
  | some name =>
    if functions.contains name then none
    else some {
      elementId := record.elementId
      eventType := record.eventType
      missingFunction := name
      line := record.line }

def brokenHandlers (ctx : Context) : List BrokenHandler :=
  ctx.elements.handlers.filterMap (brokenHandler? ctx.functions)

end PageWiring.Check
