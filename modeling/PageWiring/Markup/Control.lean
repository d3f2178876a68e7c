import PageWiring.Markup.Event
import PageWiring.Text.Basic
import PageWiring.Text.Blank

/-!
What a tag is to a user: which of its attributes hold handlers, and whether it is something to
click, choose or type into.
-/
namespace PageWiring.Markup

/-- The attributes that hold event handlers. -/
def eventAttributes : List String :=
  ["onclick", "ondblclick", "onmousedown", "onmouseup", "onmouseover", "onmouseout", "onmousemove",
    "onkeydown", "onkeyup", "onkeypress", "onchange", "oninput", "onsubmit", "onfocus", "onblur",
    "onload", "onunload", "onresize", "onscroll", "oncontextmenu", "onwheel", "ontouchstart",
    "ontouchend", "ondrag", "ondrop"]

/-- The roles that make any element interactive. -/
def interactiveRoles : List String :=
  ["button", "link", "tab", "menuitem", "checkbox", "switch", "option"]

namespace Tag

/-- An attribute's value without blanks around it, unless nothing is left. -/
def trimmed? (t : Tag) (name : String) : Option String :=
  ((t.attribute? name).map Text.trimString).filter (!·.isEmpty)

/-- An attribute's value as a keyword. -/
def keyword? (t : Tag) (name : String) : Option String :=
  (t.attribute? name).map fun v => Text.asciiLowerString (Text.trimString v)

/-- The keyword of the `type` attribute. -/
def type (t : Tag) : String := (t.keyword? "type").getD ""

/-- The event attributes, in their order. -/
def eventHandlers (t : Tag) : List (String × String) :=
  t.attributes.filter fun a => eventAttributes.contains a.1

def submits (t : Tag) : Bool :=
  if t.name == "button" then t.type.isEmpty || t.type == "submit"
  else if t.name == "input" then t.type == "submit" || t.type == "image"
  else false

/-- Does a form act on this control without any handler? -/
def servesForm (t : Tag) : Bool :=
  (t.name == "button" || t.name == "input") && (t.submits || t.type == "reset")

def role? (t : Tag) : Option String := (t.keyword? "role").filter interactiveRoles.contains

/-- Is something expected to happen on this element, by its name? -/
def needsHandler (t : Tag) (insideForm : Bool) : Bool :=
  if insideForm && t.servesForm then false
  else if t.name == "button" || t.name == "select" || t.name == "textarea" then true
  else if t.name == "input" then t.type != "hidden"
  else if t.name == "a" then (t.attribute? "href").isSome
  else false

def isInteractive (t : Tag) (insideForm : Bool) : Bool :=
  t.role?.isSome || t.needsHandler insideForm

end Tag

end PageWiring.Markup
