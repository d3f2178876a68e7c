import PageWiring.Check.Basic

/-!
Interactive elements with nothing wired to them.
-/
namespace PageWiring.Check

def nonFunctionalReason (element : InteractiveElement) : String :=
  match element.role with
  | some role => "element with role=\"" ++ role ++ "\" has no click handler"
  | none =>
    if element.tagName = "button" then "button has no click handler"
    else if element.tagName = "a" then "link has no click handler"
    else if element.tagName = "input" then "input has no input or change handler"
    else if element.tagName = "select" then "select has no change handler"
    else if element.tagName = "textarea" then "textarea has no input handler"
    else element.tagName ++ " has no event handler"

def isNonFunctional (ctx : Context) (element : InteractiveElement) : Bool :=
  !element.hasHandler && !element.elementId.any ctx.wiredByScript

def nonFunctionalElements (ctx : Context) : List NonFunctionalElement :=
  (ctx.elements.interactive.filter (isNonFunctional ctx)).map fun element => {
    elementId := element.elementId
    tagName := element.tagName
    line := element.line
    reason := nonFunctionalReason element }

end PageWiring.Check
