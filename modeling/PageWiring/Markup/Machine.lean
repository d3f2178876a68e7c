import PageWiring.Markup.Cursor
import PageWiring.Markup.Event

/-!
The state in which a page is read, and the small steps that change it.

A `Draft` holds the mode and what has been read in part. It does not see the text: a step on it says
what was found out, and whether characters go back to the text. A `Machine` holds a draft, the place
in the text, and the events so far.
-/
namespace PageWiring.Markup

/-- Elements whose content is no markup. -/
inductive RawKind where
  /-- Text with character references. -/
  | replaceable
  | text
  | script
  | scriptEscaped
  | scriptDoubleEscaped
  deriving DecidableEq, Repr

inductive Quoting where
  | double | single | none
  deriving DecidableEq, Repr

/-- The two identifiers that a document type may have. -/
inductive DoctypeId where
  | visible | system
  deriving DecidableEq, Repr

inductive Mode where
  | data
  | raw (kind : RawKind)
  | tagOpen | endTagOpen | tagName
  | rawLess (kind : RawKind) | rawEndOpen (kind : RawKind) | rawEndName (kind : RawKind)
  | escapeStart | escapeStartDash | doubleEscapeStart | doubleEscapeEnd
  | escapedDash (kind : RawKind) | escapedDashDash (kind : RawKind)
  | beforeName | name | afterName | beforeValue | value (quoting : Quoting) | afterValue
  | selfClosing
  | declaration
  | commentStart | commentStartDash | comment | commentEndDash | commentEnd | commentEndBang
  | bogusComment
  | doctype | beforeDoctypeName | doctypeName | afterDoctypeName
  | afterDoctypeWord (which : DoctypeId) | beforeDoctypeId (which : DoctypeId)
  | doctypeId (which : DoctypeId) (quote : Char) | afterDoctypeId (which : DoctypeId)
  | betweenDoctypeIds | bogusDoctype
  deriving DecidableEq, Repr

inductive RefMode where
  | begin
  | hash
  | digits (base : Nat)
  | numberEnd
  | named
  | unknown
  deriving DecidableEq, Repr

/-- A character reference that is being read. -/
structure Reference where
  /-- The character that ends the attribute value around the reference, if there is one. -/
  around : Option Char
  mode : RefMode := .begin
  number : Nat := 0
  tooBig : Bool := false
  hasDigit : Bool := false
  /-- The letter that announced hexadecimal digits. -/
  marker : Option Char := none
  /-- The longest complete name so far, and what it stands for. -/
  known : List Char := []
  stands : Option (List Char) := none
  /-- What was read beyond it. -/
  beyond : List Char := []
  deriving DecidableEq, Repr

/-- What has been read in part, and what the last step on it has to say. -/
structure Draft where
  mode : Mode := .data
  isEndTag : Bool := false
  /-- The first letter of the tag's name. Behind it, and in names and values of attributes, the last
  character stands first. -/
  tagInitial : Char := ' '
  tagRest : List Char := []
  isSelfClosing : Bool := false
  attributes : List (String × String) := []
  attributeName : List Char := []
  attributeValue : List Char := []
  lastStartTag : Option String := none
  /-- The letters after `<` in a script, to tell a nested `script`. -/
  word : List Char := []
  reference : Option Reference := none
  /-- What was found out, the latest first. -/
  emitted : List EventKind := []
  /-- Is the character to be read again? -/
  again : Bool := false
  /-- Characters that go back to the text. -/
  unread : List Char := []
  deriving DecidableEq, Repr

namespace Draft

def enter (d : Draft) (mode : Mode) : Draft := { d with mode := mode }

/-- Goes on in another mode with the same character. -/
def retry (d : Draft) (mode : Mode) : Draft := { d with mode := mode, again := true }

def emit (d : Draft) (kind : EventKind) : Draft := { d with emitted := kind :: d.emitted }

def fault (d : Draft) (cause : Fault) : Draft := d.emit (.fault cause)

def bad (d : Draft) : Draft := d.fault .badCharacter

/-- Ends the attribute that is being read. A second one of the same name is dropped. -/
def finishAttribute (d : Draft) : Draft :=
  match d.attributeName with
  | [] => d
  | name =>
    let name := String.ofList name.reverse
    let cleared := { d with attributeName := [], attributeValue := [] }
    if d.attributes.any (·.1 == name) then cleared.fault .duplicateAttribute
    else
      { cleared with
        attributes := d.attributes ++ [(name, String.ofList d.attributeValue.reverse)] }

def startAttribute (d : Draft) (c : Char) : Draft :=
  { d.finishAttribute with attributeName := [c], attributeValue := [], mode := .name }

def pushName (d : Draft) (c : Char) : Draft := { d with attributeName := c :: d.attributeName }

def pushValue (d : Draft) (c : Char) : Draft := { d with attributeValue := c :: d.attributeValue }

def startTag (d : Draft) (isEndTag : Bool) (c : Char) : Draft :=
  { d with
    isEndTag := isEndTag
    tagInitial := c
    tagRest := []
    isSelfClosing := false
    attributes := [] }

def pushTag (d : Draft) (c : Char) : Draft := { d with tagRest := c :: d.tagRest }

/-- The name of the tag that is being read, as far as it goes. -/
def tagName (d : Draft) : String := String.ofList (d.tagInitial :: d.tagRest.reverse)

/-- How the content of an element is read. -/
def contentMode (name : String) : Mode :=
  if name == "script" then .raw .script
  else if name == "style" then .raw .text
  else if name == "textarea" || name == "title" then .raw .replaceable
  else .data

/-- Ends the tag that is being read. -/
def finishTag (d : Draft) : Draft :=
  let d := d.finishAttribute
  let cleared := { d with attributes := [], attributeValue := [] }
  if d.isEndTag then
    let cleared := if d.attributes.isEmpty then cleared else cleared.fault .endTagWithAttributes
    let cleared := if d.isSelfClosing then cleared.fault .selfClosingEndTag else cleared
    (cleared.emit (.endTag d.tagName)).enter .data
  else
    { cleared.emit (.startTag ⟨d.tagName, d.attributes⟩) with
      lastStartTag := some d.tagName
      mode := contentMode d.tagName }

def finishComment (d : Draft) : Draft := (d.emit .comment).enter .data

/-- Does the end tag that is being read close the last element opened? -/
def closesLast (d : Draft) : Bool :=
  d.isEndTag && d.lastStartTag == some d.tagName

end Draft

/-- How the text is taken in a mode. -/
inductive Intake where
  /-- The next character decides. -/
  | next (f : Draft → Char → Draft)
  /-- Most characters are plain and taken as they are written. Right after a carriage return every
  character is special. -/
  | text (isSpecial : Char → Bool) (plain special : Draft → Char → Draft)
  /-- The next character as it is written decides, and whether it is used up. -/
  | peek (f : Draft → Char → Draft × Bool)
  /-- Behind `<!`. -/
  | declaration
  /-- Behind the name of a document type. -/
  | doctypeWord

structure Machine where
  cursor : Cursor
  draft : Draft := {}
  events : List Event := []
  deriving DecidableEq, Repr

namespace Machine

/-- Does what the last step on a draft says. -/
def settle (events : List Event) (cursor : Cursor) (d : Draft) : Machine where
  cursor := { cursor with input := d.unread ++ cursor.input, again := cursor.again || d.again }
  draft := { d with emitted := [], again := false, unread := [] }
  events := d.emitted.map (⟨·, cursor.line⟩) ++ events

/-- A step on the next character; false when there is none. -/
def onNext (m : Machine) (f : Draft → Char → Draft) : Machine × Bool :=
  match m.cursor.next with
  | (some c, cursor) => (settle m.events cursor (f m.draft c), true)
  | (none, cursor) => ({ m with cursor := cursor }, false)

def onText (m : Machine) (isSpecial : Char → Bool) (plain special : Draft → Char → Draft) :
    Machine × Bool :=
  if m.cursor.again || m.cursor.afterReturn then m.onNext special
  else
    match m.cursor.input with
    | [] => (m, false)
    | c :: rest =>
      if isSpecial c then m.onNext special
      else (settle m.events { m.cursor with input := rest } (plain m.draft c), true)

def onPeek (m : Machine) (f : Draft → Char → Draft × Bool) : Machine × Bool :=
  match m.cursor.peek with
  | none => (m, false)
  | some c =>
    let (d, used) := f m.draft c
    (settle m.events (if used then m.cursor.discard else m.cursor) d, true)

end Machine

end PageWiring.Markup
