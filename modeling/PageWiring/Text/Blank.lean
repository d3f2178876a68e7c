import PageWiring.Text.Basic

/-!
White space in the sense of the Unicode property `White_Space`.
-/
namespace PageWiring.Text

/-- The property `White_Space`: it holds of U+00A0 and U+3000, and not of U+FEFF. -/
def isBlank (c : Char) : Bool :=
  let n := c.toNat
  (0x09 ≤ n && n ≤ 0x0D) || n == 0x20 || n == 0x85 || n == 0xA0 || n == 0x1680 ||
    (0x2000 ≤ n && n ≤ 0x200A) || n == 0x2028 || n == 0x2029 || n == 0x202F || n == 0x205F ||
    n == 0x3000

def trimStart (cs : List Char) : List Char :=
  cs.dropWhile isBlank

def trimEnd (cs : List Char) : List Char :=
  dropEndWhile isBlank cs

def trim (cs : List Char) : List Char :=
  trimEnd (trimStart cs)

def trimString (s : String) : String :=
  String.ofList (trim s.toList)

/-- ASCII white space: tab, line feed, form feed, carriage return, space. -/
def isAsciiBlank (c : Char) : Bool :=
  c == ' ' || c == '\t' || c == '\n' || c == '\r' || c == '\x0c'

end PageWiring.Text
