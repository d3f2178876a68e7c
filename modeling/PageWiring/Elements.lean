import PageWiring.Error
import PageWiring.Text.Blank

/-!
The elements of a page: ids, inline event handlers, interactive elements and forms.

`Elements` is built up by recording one fact after another. Ids are kept once, in the order in
which they first occur, and beside it in an index and with the line of that occurrence; an id
recorded again is also listed among the duplicates, with the line of every occurrence.
-/
namespace PageWiring

structure EventHandler where
  elementId : Option String
  eventType : String
  functionCall : String
  line : Nat
  deriving DecidableEq, Repr

structure InteractiveElement where
  elementId : Option String
  tagName : String
  role : Option String
  hasHandler : Bool
  line : Nat
  deriving DecidableEq, Repr

structure DuplicateId where
  elementId : String
  lines : List Nat
  deriving DecidableEq, Repr

/-- A form, the `for` targets of the labels in it, and whether it has a submit control. -/
structure Form where
  elementId : Option String
  line : Nat
  labelTargets : List String := []
  hasSubmit : Bool := false
  deriving DecidableEq, Repr

structure PageDiagnostic where
  line : Nat
  message : String
  deriving DecidableEq, Repr

structure Elements where
  /-- The distinct ids in order of first occurrence. -/
  ids : List String := []
  /-- The same ids for look-ups, in no order that matters. -/
  idIndex : List String := []
  /-- The line on which each id first occurred. -/
  firstSeen : List (String × Nat) := []
  handlers : List EventHandler := []
  interactive : List InteractiveElement := []
  duplicates : List DuplicateId := []
  forms : List Form := []
  diagnostics : List PageDiagnostic := []
  lineCount : Nat := 0
  deriving DecidableEq, Repr

namespace Elements

def containsId (e : Elements) (id : String) : Bool := e.idIndex.contains id

/-- Adds one more line to the record of a repeated id, or starts its record. -/
def noteDuplicate (id : String) (firstLine line : Nat) : List DuplicateId → List DuplicateId
  | [] => [⟨id, [firstLine, line]⟩]
  | d :: ds =>
    if d.elementId = id then { d with lines := d.lines ++ [line] } :: ds
    else d :: noteDuplicate id firstLine line ds

/-- Records an id that is already trimmed. -/
def recordId (e : Elements) (id : String) (line : Nat) : Elements :=
  if id.isEmpty then e
  else
    match e.firstSeen.lookup id with
    | some firstLine => { e with duplicates := noteDuplicate id firstLine line e.duplicates }
    | none =>
      { e with
        ids := e.ids ++ [id]
        idIndex := e.idIndex.insert id
        firstSeen := e.firstSeen ++ [(id, line)] }

/-- Records an element id. Blanks around it do not count and a blank id is ignored. -/
def addId (e : Elements) (id : String) (line : Nat) : Elements :=
  e.recordId (Text.trimString id) line

def addHandler (e : Elements) (h : EventHandler) : Elements :=
  { e with handlers := e.handlers ++ [h] }

def addInteractive (e : Elements) (i : InteractiveElement) : Elements :=
  { e with interactive := e.interactive ++ [i] }

def addForm (e : Elements) (f : Form) : Elements :=
  { e with forms := e.forms ++ [f] }

def addDiagnostic (e : Elements) (d : PageDiagnostic) : Elements :=
  { e with diagnostics := e.diagnostics ++ [d] }

def handlersFor (e : Elements) (id : String) : List EventHandler :=
  e.handlers.filter fun h => h.elementId == some id

/-- A line must lie in the document; an unknown line count allows every positive line. -/
def checkLine (lineCount : Nat) (what : String) (line : Nat) : Except ArgumentError Unit :=
  if line = 0 ∨ (0 < lineCount ∧ lineCount < line) then
    .error (.lineOutsideDocument what line lineCount)
  else .ok ()

def checkHandler (lineCount : Nat) (h : EventHandler) : Except ArgumentError Unit :=
  if (Text.trim h.eventType.toList).isEmpty then .error (.emptyEventType h.line)
  else checkLine lineCount "event handler" h.line

def checkInteractive (lineCount : Nat) (i : InteractiveElement) : Except ArgumentError Unit :=
  if i.tagName.isEmpty then .error (.missingTagName i.line)
  else checkLine lineCount "interactive element" i.line

/-- The conditions that the checks rely on; the first one that fails is reported. -/
def validate (e : Elements) : Except ArgumentError Unit := do
  e.handlers.forM (checkHandler e.lineCount)
  e.interactive.forM (checkInteractive e.lineCount)

end Elements

end PageWiring
