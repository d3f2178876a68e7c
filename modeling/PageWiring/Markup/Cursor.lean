import PageWiring.Text.Basic

/-!
A place in the text of a page, from which characters are taken one at a time.

A carriage return, with a line feed after it or not, is one line feed. Lines are counted as line
feeds are read, also when characters were given back and are read again.
-/
namespace PageWiring.Markup

structure Cursor where
  input : List Char
  current : Char := ' '
  /-- Is the current character to be read again? -/
  again : Bool := false
  /-- Was the last character a carriage return, so that a line feed after it counts for nothing? -/
  afterReturn : Bool := false
  line : Nat := 1
  deriving DecidableEq, Repr

namespace Cursor

/-- Takes a character as the next one of the page; `rest` is the text behind it. -/
def take (s : Cursor) (c : Char) (rest : List Char) : Option Char × Cursor :=
  let shown := if c == '\r' then '\n' else c
  (some shown, { s with
    input := rest
    current := shown
    afterReturn := c == '\r'
    line := if c == '\r' || c == '\n' then s.line + 1 else s.line })

/-- The next character. -/
def next (s : Cursor) : Option Char × Cursor :=
  if s.again then (some s.current, { s with again := false })
  else
    match s.input with
    | [] => (none, s)
    | c :: rest =>
      if s.afterReturn && c == '\n' then
        match rest with
        | [] => (none, { s with input := [], afterReturn := false })
        | d :: rest => s.take d rest
      else s.take c rest

/-- The next character of the text as it is written, which stays unread. -/
def peek (s : Cursor) : Option Char :=
  if s.again then some s.current else s.input.head?

def discard (s : Cursor) : Cursor := s.next.2

/-- Forgets a carriage return. A line feed after it is read, and counts as a line of its own. -/
def forgetReturn (s : Cursor) : Cursor :=
  let plain := { s with afterReturn := false }
  if s.afterReturn && s.peek == some '\n' then plain.discard else plain

/-- Reads a word regardless of case, if it comes next. -/
def eatWord (s : Cursor) (word : List Char) : Option Cursor :=
  let s := s.forgetReturn
  if word.isPrefixOf (Text.asciiLower (s.input.take word.length)) then
    some { s with input := s.input.drop word.length, again := false }
  else none

end Cursor

end PageWiring.Markup
