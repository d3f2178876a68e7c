import PageWiring.Check.Basic

/-!
Functions that look up an element id which the page does not define.
-/
namespace PageWiring.Check

def orphanedFunction? (ctx : Context) (query : DomQuery) : Option OrphanedFunction :=
  match query.targetId with
  | none => none
  | some id =>
    if ctx.elements.containsId id then none
    else some {
      functionName := query.contextName
      filePath := query.filePath
      line := query.line
      missingElementId := id
      queryMethod := query.method }

def orphanedFunctions (ctx : Context) : List OrphanedFunction :=
  ctx.functions.queries.filterMap (orphanedFunction? ctx)

end PageWiring.Check
