import PageWiring.Findings
import PageWiring.Functions

/-!
Edits that would remove findings.

A fix that is marked safe may be applied without review: a function is removed only where nothing
can refer to it, and a handler only where it is known which attribute is meant.
-/
namespace PageWiring

inductive FixKind where
  | removeFunction | removeHandler | addFunctionStub
  deriving DecidableEq, Repr

namespace FixKind

def name : FixKind → String
  | .removeFunction => "remove-function"
  | .removeHandler => "remove-handler"
  | .addFunctionStub => "add-function-stub"

def ofName? (s : String) : Option FixKind :=
  [FixKind.removeFunction, .removeHandler, .addFunctionStub].find? (·.name == s)

end FixKind

structure Fix where
  kind : FixKind
  filePath : String
  line : Nat
  description : String
  safe : Bool
  /-- The function that is removed, called by the removed handler, or added. -/
  functionName : String
  eventType : Option String := none
  elementId : Option String := none
  deriving DecidableEq, Repr

/-- Where missing functions are added, and the line on which the first one starts. -/
structure StubTarget where
  filePath : String
  line : Nat
  deriving DecidableEq, Repr

namespace Fix

/-- Removing a definition is safe when it stands alone, is not exported, shares its name with no
definition in another file, and its name appears in no script. -/
def removeFunction (functions : Functions) (unused : UnusedFunction) : Fix :=
  let definitions := functions.definitionsNamed unused.functionName
  let definition := definitions.find? fun d =>
    d.filePath == unused.filePath && d.line == unused.line
  let collides := definitions.any fun d => d.filePath != unused.filePath
  { kind := .removeFunction
    filePath := unused.filePath
    line := unused.line
    description :=
      s!"Remove unused function '{unused.functionName}' ({unused.filePath}:{unused.line})"
    safe := (definition.any fun d => !d.isExported && d.kind.isStandalone) && !collides &&
      functions.callCount unused.functionName == 0
    functionName := unused.functionName }

/-- Removing a handler is safe when its element has an id and no other attribute for the same event
stands on the line. -/
def removeHandler (elements : Elements) (htmlPath : String) (broken : BrokenHandler) : Fix :=
  let sameLine := elements.handlers.filter fun h =>
    h.line == broken.line && h.eventType == broken.eventType
  let target := match broken.elementId with
    | some id => "#" ++ id
    | none => s!"the element on line {broken.line}"
  { kind := .removeHandler
    filePath := htmlPath
    line := broken.line
    description := s!"Remove {broken.eventType} handler calling missing function " ++
      s!"'{broken.missingFunction}' from {target}"
    safe := broken.elementId.isSome && sameLine.length == 1
    functionName := broken.missingFunction
    eventType := some broken.eventType
    elementId := broken.elementId }

/-- Adding a function is never safe. -/
def addStub (target : StubTarget) (broken : BrokenHandler) : Fix where
  kind := .addFunctionStub
  filePath := target.filePath
  line := target.line
  description :=
    s!"Add a stub for missing function '{broken.missingFunction}' to {target.filePath}"
  safe := false
  functionName := broken.missingFunction

/-- The removal of each handler, followed by a stub the first time its function is missing. -/
def handlerFixes (elements : Elements) (htmlPath : String) (target : StubTarget) :
    List String → List BrokenHandler → List Fix
  | _, [] => []
  | stubbed, broken :: rest =>
    let removal := removeHandler elements htmlPath broken
    if stubbed.contains broken.missingFunction then
      removal :: handlerFixes elements htmlPath target stubbed rest
    else
      removal :: addStub target broken ::
        handlerFixes elements htmlPath target (broken.missingFunction :: stubbed) rest

/-- All fixes for a set of findings: function removals, then handlers with their stubs. -/
def derive (findings : Findings) (elements : Elements) (functions : Functions) (htmlPath : String)
    (target : StubTarget) : List Fix :=
  findings.unusedFunctions.map (removeFunction functions) ++
    handlerFixes elements htmlPath target [] findings.brokenHandlers

end Fix

end PageWiring
