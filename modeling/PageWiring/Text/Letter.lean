import PageWiring.Text.AlphabeticTable
import PageWiring.Text.CaseTable
import PageWiring.Text.IdentifierTable
import PageWiring.Text.IgnorableTable
import PageWiring.Text.MarkTable
import PageWiring.Text.NumericTable

/-!
Character classes and case mappings of Unicode.

ASCII characters are decided by plain comparisons; all others by the tables.
-/
namespace PageWiring.Text

private def asciiUpper (n : Nat) : Bool := 65 ≤ n && n ≤ 90
private def asciiLowerLetter (n : Nat) : Bool := 97 ≤ n && n ≤ 122
private def asciiDigit (n : Nat) : Bool := 48 ≤ n && n ≤ 57

/-- Letters and digits of all scripts: `Alphabetic`, or a number category. -/
def isAlphanumeric (c : Char) : Bool :=
  let n := c.toNat
  if n < 128 then asciiUpper n || asciiLowerLetter n || asciiDigit n
  else inRanges alphabeticRanges n || inRanges numericRanges n

def isUppercase (c : Char) : Bool :=
  let n := c.toNat
  if n < 128 then asciiUpper n else inStrides uppercaseStrides n

def isLowercase (c : Char) : Bool :=
  let n := c.toNat
  if n < 128 then asciiLowerLetter n else inStrides lowercaseStrides n

/-- Letters, marks and digits that came with Unicode 17. -/
private def newestRanges : List (Nat × Nat) := [
  (0x88F, 0x88F), (0xC5C, 0xC5C), (0xCDC, 0xCDC), (0x1ACF, 0x1ADD), (0x1AE0, 0x1AEB),
  (0xA7CE, 0xA7CF), (0xA7D2, 0xA7D2), (0xA7D4, 0xA7D4), (0xA7F1, 0xA7F1), (0x10940, 0x10959),
  (0x10EC5, 0x10EC7), (0x10ED0, 0x10ED8), (0x10EFA, 0x10EFB), (0x11B60, 0x11B67),
  (0x11DB0, 0x11DDB), (0x11DE0, 0x11DE9), (0x16EA0, 0x16EB8), (0x16EBB, 0x16ED3),
  (0x16FF2, 0x16FF6), (0x187F8, 0x187FF), (0x18D09, 0x18D1E), (0x18D80, 0x18DF2),
  (0x1E6C0, 0x1E6DE), (0x1E6E0, 0x1E6F5), (0x1E6FE, 0x1E6FF), (0x2B73A, 0x2B73F),
  (0x2CEA2, 0x2CEAD), (0x323B0, 0x33479)]

/-- Word characters: letters, marks, decimal digits, connectors and joiners, all as of Unicode 16.
The other classes of this module are as of Unicode 17. -/
def isWordChar (c : Char) : Bool :=
  let n := c.toNat
  if n < 128 then asciiUpper n || asciiLowerLetter n || asciiDigit n || n == 95
  else
    (inRanges alphabeticRanges n || inRanges markRanges n || inRanges digitRanges n ||
      inRanges [(0x200C, 0x200D), (0x203F, 0x2040), (0x2054, 0x2054), (0xFE33, 0xFE34),
        (0xFE4D, 0xFE4F), (0xFF3F, 0xFF3F)] n) && !inRanges newestRanges n

/-- Characters that may start an identifier of a script. -/
def isIdentifierStart (c : Char) : Bool :=
  let n := c.toNat
  if n < 128 then asciiUpper n || asciiLowerLetter n || n == 95 || n == 36
  else inRanges idStartRanges n

/-- Characters that may continue an identifier of a script. -/
def isIdentifierPart (c : Char) : Bool :=
  let n := c.toNat
  if n < 128 then asciiUpper n || asciiLowerLetter n || asciiDigit n || n == 95 || n == 36
  else inRanges idContinueRanges n || n == 0x200C || n == 0x200D

/-- The lowercase form of a character; one character may become several. -/
def toLowercase (c : Char) : List Char :=
  let n := c.toNat
  if n < 128 then [if asciiUpper n then Char.ofNat (n + 32) else c]
  else
    match lowerExpansions.find? (·.1 == n) with
    | some e => e.2.map Char.ofNat
    | none => [Char.ofNat (shifted lowerShifts n)]

/-- The uppercase form of a character; one character may become several. -/
def toUppercase (c : Char) : List Char :=
  let n := c.toNat
  if n < 128 then [if asciiLowerLetter n then Char.ofNat (n - 32) else c]
  else
    match upperExpansions.find? (·.1 == n) with
    | some e => e.2.map Char.ofNat
    | none => [Char.ofNat (shifted upperShifts n)]

/-- Characters that have case: lowercase, uppercase and titlecase letters. -/
def isCased (c : Char) : Bool :=
  isLowercase c || isUppercase c ||
    inRanges [(0x1C5, 0x1C5), (0x1C8, 0x1C8), (0x1CB, 0x1CB), (0x1F2, 0x1F2), (0x1F88, 0x1F8F),
      (0x1F98, 0x1F9F), (0x1FA8, 0x1FAF), (0x1FBC, 0x1FBC), (0x1FCC, 0x1FCC), (0x1FFC, 0x1FFC)]
      c.toNat

/-- Is the first character that is not passed over one that has case? -/
def startsCased (cs : List Char) : Bool :=
  (cs.dropWhile fun c => inRanges caseIgnorableRanges c.toNat).head?.any isCased

/-- The lowercase form of a text that stands behind other characters, the nearest first. A capital
sigma at the end of a word becomes the final one. -/
def lowercaseBehind (before : List Char) : List Char → List Char
  | [] => []
  | c :: cs =>
    let lower :=
      if c == 'Σ' then [if startsCased before && !startsCased cs then 'ς' else 'σ']
      else toLowercase c
    lower ++ lowercaseBehind (c :: before) cs

def lowercaseString (s : String) : String := String.ofList (lowercaseBehind [] s.toList)

/-- Two characters are equal ignoring case when their simple foldings, as of Unicode 16, agree. -/
def foldCase (c : Char) : Char :=
  let n := c.toNat
  if n < 128 then (if asciiUpper n then Char.ofNat (n + 32) else c)
  else Char.ofNat (shifted foldShifts n)

end PageWiring.Text
