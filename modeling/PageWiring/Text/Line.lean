import PageWiring.Text.Basic

/-!
Lines of a text, counted from one.
-/
namespace PageWiring.Text

/-- The byte offsets at which lines start, the first apart. A line ends after a line feed. -/
def lineStarts (offset : Nat) : List Char → List Nat
  | [] => []
  | c :: cs =>
    let next := offset + c.utf8Size
    if c == '\n' then next :: lineStarts next cs else lineStarts next cs

/-- The same where a carriage return ends a line too. A line that would start where the text ends
is none. -/
def looseLineStarts (offset : Nat) : List Char → List Nat
  | [] => []
  | [_] => []
  | '\r' :: '\n' :: cs =>
    if cs.isEmpty then [] else (offset + 2) :: looseLineStarts (offset + 2) cs
  | c :: cs =>
    let next := offset + c.utf8Size
    if c == '\n' || c == '\r' then next :: looseLineStarts next cs else looseLineStarts next cs

/-- The line of an offset, given where the later lines start. -/
def lineAt (starts : List Nat) (offset : Nat) : Nat :=
  1 + starts.countP (· ≤ offset)

/-- Where a line starts, if the text has so many. -/
def lineOffset (text : List Char) (line : Nat) : Option Nat :=
  if line ≤ 1 then some 0 else (lineStarts 0 text)[line - 2]?

/-- The number of lines, where a line feed at the end starts none. -/
def lineCount (text : List Char) : Nat :=
  let breaks := text.count '\n'
  if text.isEmpty || text.getLast? == some '\n' then breaks else breaks + 1

end PageWiring.Text
