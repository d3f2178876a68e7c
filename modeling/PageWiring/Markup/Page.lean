import PageWiring.Elements
import PageWiring.Markup.Control
import PageWiring.Markup.Locator
import PageWiring.Markup.Reading

/-!
The elements of a page, collected from its events.

Labels and submit controls belong to the innermost form that is open. An end tag `form` closes that
form; a form that is never closed stays open.
-/
namespace PageWiring.Markup

structure Collection where
  locator : Locator
  elements : Elements := {}
  forms : List Form := []
  /-- The positions of the open forms, the innermost first. -/
  openForms : List Nat := []
  deriving DecidableEq, Repr

namespace Collection

/-- Records the event handlers of a tag that have some text. -/
def addHandlers (id : Option String) (line : Nat) (e : Elements) (t : Tag) : Elements :=
  t.eventHandlers.foldl (fun e (event, value) =>
    let call := Text.trimString value
    if call.isEmpty then e
    else e.addHandler ⟨id, event, call, line⟩) e

/-- Changes the innermost open form. -/
def onInnermostForm (c : Collection) (f : Form → Form) : Collection :=
  match c.openForms with
  | [] => c
  | position :: _ => { c with forms := c.forms.modify position f }

def trackForm (c : Collection) (t : Tag) (id : Option String) (line : Nat) : Collection :=
  if t.name == "form" then
    { c with
      openForms := c.forms.length :: c.openForms
      forms := c.forms ++ [{ elementId := id, line := line }] }
  else if t.name == "label" then
    match t.trimmed? "for" with
    | some target =>
      c.onInnermostForm fun f => { f with labelTargets := f.labelTargets ++ [target] }
    | none => c
  else if t.submits then c.onInnermostForm fun f => { f with hasSubmit := true }
  else c

/-- Records a start tag that stands on `line`. -/
def recordTag (c : Collection) (t : Tag) (line : Nat) : Collection :=
  let id := t.trimmed? "id"
  let elements := id.elim c.elements fun id => c.elements.addId id line
  let elements := addHandlers id line elements t
  let elements :=
    if t.isInteractive (!c.openForms.isEmpty) then
      elements.addInteractive ⟨id, t.name, t.role?, !t.eventHandlers.isEmpty, line⟩
    else elements
  { c with elements := elements }.trackForm t id line

def startTag (c : Collection) (t : Tag) (line : Nat) : Collection :=
  let (start, locator) := c.locator.startTag t.name line
  { c with locator := locator }.recordTag t start

def endTag (c : Collection) (name : String) (line : Nat) : Collection :=
  { c with
    locator := c.locator.endTag name line
    openForms := if name == "form" then c.openForms.drop 1 else c.openForms }

def event (c : Collection) (e : Event) : Collection :=
  match e.kind with
  | .startTag t => c.startTag t e.line
  | .endTag name => c.endTag name e.line
  | .comment => { c with locator := c.locator.comment e.line }
  | .fault cause => { c with elements := c.elements.addDiagnostic ⟨e.line, cause.message⟩ }

/-- All that was collected; the forms are recorded last. -/
def finish (c : Collection) : Elements :=
  { c.forms.foldl Elements.addForm c.elements with lineCount := c.locator.lineCount }

end Collection

end Markup

/-- The elements of a page. -/
def Elements.ofPage (text : List Char) : Elements :=
  ((Markup.events text).foldl Markup.Collection.event ⟨.ofText text, {}, [], []⟩).finish

end PageWiring
