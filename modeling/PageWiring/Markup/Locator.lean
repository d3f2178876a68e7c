import PageWiring.Markup.Event
import PageWiring.Text.Blank
import PageWiring.Text.Line

/-!
Where tags stand in a page.

An event knows the line on which its reading ended, which for a tag over several lines is that of
its last character. The locator follows the events through the text and tells the line of a tag's
first character. When the text and the events do not fit together, it stays where it is.
-/
namespace PageWiring.Markup

structure Locator where
  /-- The page with ASCII letters in lower case. -/
  text : List Char
  starts : List Nat
  /-- The byte offset up to which the events have been followed. -/
  cursor : Nat := 0
  deriving DecidableEq, Repr

/-- May this text follow the name of a tag? -/
def endsTagName : List Char → Bool
  | [] => true
  | c :: _ => Text.isAsciiBlank c || c == '/' || c == '>'

/-- The offset of the first tag that starts with `opening`, where `offset` is that of the text. -/
def findTag (opening : List Char) (offset : Nat) : List Char → Option Nat
  | [] => none
  | c :: cs =>
    if opening.isPrefixOf (c :: cs) && endsTagName ((c :: cs).drop opening.length) then some offset
    else findTag opening (offset + c.utf8Size) cs

namespace Locator

def ofText (text : List Char) : Locator where
  text := Text.asciiLower text
  starts := Text.lineStarts 0 text

def lineCount (l : Locator) : Nat := Text.lineCount l.text

def lineAt (l : Locator) (offset : Nat) : Nat := Text.lineAt l.starts offset

/-- The text that has not been followed yet. -/
def rest (l : Locator) : List Char := ((Text.cut? l.text l.cursor).map (·.2)).getD []

/-- Follows a tag that was read completely on `line`. Gives the line on which it starts, if it is
found no later than that. -/
def followTag (l : Locator) (opening : List Char) (line : Nat) : Option Nat × Locator :=
  match findTag opening l.cursor l.rest with
  | none => (none, l)
  | some position =>
    let start := l.lineAt position
    if line < start then (none, l)
    else (some start, { l with cursor := position + Text.byteLength opening })

/-- Follows a start tag and gives its line. -/
def startTag (l : Locator) (name : String) (line : Nat) : Nat × Locator :=
  let (start, l) := l.followTag ('<' :: name.toList) line
  (start.getD line, l)

def endTag (l : Locator) (name : String) (line : Nat) : Locator :=
  (l.followTag ('<' :: '/' :: name.toList) line).2

/-- Follows a comment to its end, so that tags inside it are passed over. -/
def comment (l : Locator) (line : Nat) : Locator :=
  match Text.splitFirst ['<', '!', '-', '-'] l.rest with
  | none => l
  | some (before, inside) =>
    let start := l.cursor + Text.byteLength before
    if line < l.lineAt start then l
    else
      match Text.splitFirst ['-', '-', '>'] inside with
      | some (body, _) => { l with cursor := start + 4 + Text.byteLength body + 3 }
      | none => { l with cursor := Text.byteLength l.text }

end Locator

end PageWiring.Markup
