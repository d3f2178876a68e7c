/-!
Texts as lists of characters, measured in UTF-8 bytes.

A position in a text is a byte offset. It is a character boundary exactly when `cut?` succeeds
there, so every slice taken through `cut?` is in bounds.
-/
namespace PageWiring.Text

/-- The number of bytes of a text in UTF-8. -/
def byteLength : List Char → Nat
  | [] => 0
  | c :: cs => c.utf8Size + byteLength cs

/-- The text before and after a byte offset, when the offset is a character boundary. -/
def cut? : List Char → Nat → Option (List Char × List Char)
  | cs, 0 => some ([], cs)
  | [], _ + 1 => none
  | c :: cs, n + 1 =>
    if c.utf8Size ≤ n + 1 then
      (cut? cs (n + 1 - c.utf8Size)).map fun p => (c :: p.1, p.2)
    else none

/-- The text around the first occurrence of `needle`: what precedes it and what follows it. -/
def splitFirst (needle : List Char) : List Char → Option (List Char × List Char)
  | [] => if needle.isEmpty then some ([], []) else none
  | c :: cs =>
    if needle.isPrefixOf (c :: cs) then some ([], (c :: cs).drop needle.length)
    else (splitFirst needle cs).map fun p => (c :: p.1, p.2)

def containsText (needle text : List Char) : Bool :=
  (splitFirst needle text).isSome

/-- The pieces between the characters that satisfy `p`; there is always at least one. -/
def splitWhere (p : Char → Bool) : List Char → List (List Char)
  | [] => [[]]
  | c :: cs =>
    if p c then [] :: splitWhere p cs
    else
      match splitWhere p cs with
      | [] => [[c]]
      | piece :: rest => (c :: piece) :: rest

def splitAt (sep : Char) (cs : List Char) : List (List Char) :=
  splitWhere (· == sep) cs

/-- ASCII letters in lower case, every other character unchanged. -/
def asciiLower (cs : List Char) : List Char :=
  cs.map Char.toLower

def asciiLowerString (s : String) : String :=
  String.ofList (asciiLower s.toList)

def isAsciiAlphanumeric (c : Char) : Bool :=
  ('a' ≤ c && c ≤ 'z') || ('A' ≤ c && c ≤ 'Z') || ('0' ≤ c && c ≤ '9')

def isAsciiDigit (c : Char) : Bool :=
  '0' ≤ c && c ≤ '9'

/-- The text without the characters at its end that satisfy `p`. -/
def dropEndWhile (p : Char → Bool) (cs : List Char) : List Char :=
  (cs.reverse.dropWhile p).reverse

/-- The text without a byte order mark. -/
def withoutMark : List Char → List Char
  | '\ufeff' :: cs => cs
  | cs => cs

/-- The text without `lead` at its start, when it starts so. -/
def dropLead? (lead cs : List Char) : Option (List Char) :=
  if lead.isPrefixOf cs then some (cs.drop lead.length) else none

def startsWith (lead cs : List Char) : Bool :=
  lead.isPrefixOf cs

end PageWiring.Text
