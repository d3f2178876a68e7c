import PageWiring.Text.Basic
import PageWiring.Text.Blank

/-!
Look-ups of page elements made by scripts, and the element id that a look-up targets.
-/
namespace PageWiring

inductive QueryMethod where
  | byId
  | selector
  | selectorAll
  | other (name : String)
  deriving DecidableEq, Repr

namespace QueryMethod

def name : QueryMethod → String
  | .byId => "getElementById"
  | .selector => "querySelector"
  | .selectorAll => "querySelectorAll"
  | .other name => name

/-- The look-up methods that scripts are searched for. The last three never target an id. -/
def ofName? (name : String) : Option QueryMethod :=
  if name = "getElementById" then some .byId
  else if name = "querySelector" then some .selector
  else if name = "querySelectorAll" then some .selectorAll
  else if ["getElementsByClassName", "getElementsByTagName", "getElementsByName"].contains name then
    some (.other name)
  else none

end QueryMethod

/-- The selector of a look-up whose argument is not a literal text. -/
def dynamicSelector : String := "<dynamic>"

/-- The context of code outside every named function. -/
def globalContext : String := "global"

structure DomQuery where
  method : QueryMethod
  selector : String
  filePath : String
  line : Nat
  context : Option String
  deriving DecidableEq, Repr

def isIdChar (c : Char) : Bool :=
  Text.isAsciiAlphanumeric c || c == '_' || c == '-'

/-- The id of a selector that is exactly one `#id`. -/
def idSelector (selector : String) : Option String :=
  match Text.trim selector.toList with
  | '#' :: id => if !id.isEmpty && id.all isIdChar then some (String.ofList id) else none
  | _ => none

namespace DomQuery

def isDynamic (q : DomQuery) : Bool := q.selector == dynamicSelector

/-- The element id that a look-up targets, when it targets one by a literal text. -/
def targetId (q : DomQuery) : Option String :=
  if q.isDynamic then none
  else
    match q.method with
    | .byId =>
      let id := Text.trimString q.selector
      if id.isEmpty then none else some id
    | .selector | .selectorAll => idSelector q.selector
    | .other _ => none

def contextName (q : DomQuery) : String := q.context.getD globalContext

end DomQuery

end PageWiring
