/-!
What is read from a page: tags, comments and mistakes, each with the line on which its reading
ended.
-/
namespace PageWiring.Markup

/-- A mistake in the text of a page. None of them stops the reading. -/
inductive Fault where
  | badCharacter
  | unexpectedEnd
  | duplicateAttribute
  | endTagWithAttributes
  | selfClosingEndTag
  | referenceWithoutSemicolon
  | equalsAfterReference
  | unknownReference
  | numberWithoutDigits
  | numberWithoutSemicolon
  | badNumber
  | endInNumber
  | endAfterHash
  deriving DecidableEq, Repr

def Fault.message : Fault → String
  | .badCharacter => "Bad character"
  | .unexpectedEnd => "Unexpected EOF"
  | .duplicateAttribute => "Duplicate attribute"
  | .endTagWithAttributes => "Attributes on an end tag"
  | .selfClosingEndTag => "Self-closing end tag"
  | .referenceWithoutSemicolon => "Character reference does not end with semicolon"
  | .equalsAfterReference => "Equals sign after character reference in attribute"
  | .unknownReference => "Invalid character reference"
  | .numberWithoutDigits => "Numeric character reference without digits"
  | .numberWithoutSemicolon => "Semicolon missing after numeric character reference"
  | .badNumber => "Invalid numeric character reference"
  | .endInNumber => "EOF in numeric character reference"
  | .endAfterHash => "EOF after '#' in character reference"

/-- A start tag. Of several attributes of one name the first is kept. -/
structure Tag where
  name : String
  attributes : List (String × String)
  deriving DecidableEq, Repr

def Tag.attribute? (t : Tag) (name : String) : Option String := t.attributes.lookup name

inductive EventKind where
  | startTag (tag : Tag)
  | endTag (name : String)
  | comment
  | fault (cause : Fault)
  deriving DecidableEq, Repr

structure Event where
  kind : EventKind
  line : Nat
  deriving DecidableEq, Repr

end PageWiring.Markup
