import PageWiring.Text.Basic
import PageWiring.Text.Letter

/-!
Words inside element ids.

`shopTabContent` and `shop-tab_content` are spellings of the same three words. Cutting a keyword
out of an id (`tab-shop`, `shopTab`) only ever happens at word boundaries.
-/
namespace PageWiring.Naming

open PageWiring.Text

inductive LetterClass where
  | lower | upper | digit
  deriving DecidableEq, Repr

/-- The class of a character inside a word; a separator has none. -/
def letterClass (c : Char) : Option LetterClass :=
  if isAsciiDigit c then some .digit
  else if isUppercase c then some .upper
  else if isAlphanumeric c then some .lower
  else none

/-- Does a new word start between two neighbouring characters of these classes? -/
def startsWord : LetterClass → LetterClass → Bool
  | .lower, .upper => true
  | .digit, .lower => true
  | .digit, .upper => true
  | .lower, .digit => true
  | .upper, .digit => true
  | _, _ => false

/-- The words completed so far, the word being read, and the class of its last character. -/
structure WordScan where
  words : List (List Char) := []
  current : List Char := []
  last : Option LetterClass := none
  deriving DecidableEq, Repr

def WordScan.flush (s : WordScan) : List (List Char) :=
  if s.current.isEmpty then s.words else s.words ++ [s.current]

def WordScan.step (s : WordScan) (c : Char) : WordScan :=
  match letterClass c with
  | none => { words := s.flush, current := [], last := none }
  | some cls =>
    let breaks := match s.last with
      | some last => startsWord last cls
      | none => false
    if breaks then { words := s.flush, current := toLowercase c, last := some cls }
    else { words := s.words, current := s.current ++ toLowercase c, last := some cls }

def wordsOfChars (cs : List Char) : List (List Char) :=
  (cs.foldl WordScan.step {}).flush

/-- The lowercase words of an id. -/
def idWords (id : String) : List String :=
  (wordsOfChars id.toList).map String.ofList

def capitalizeChars : List Char → List Char
  | [] => []
  | c :: cs => toUppercase c ++ cs

def decapitalizeChars : List Char → List Char
  | [] => []
  | c :: cs => toLowercase c ++ cs

def capitalize (word : String) : String :=
  String.ofList (capitalizeChars word.toList)

def pascalChars (cs : List Char) : List Char :=
  ((splitWhere (fun c => !isAlphanumeric c) cs).filter (!·.isEmpty)).flatMap capitalizeChars

/-- `settings-modal` becomes `SettingsModal`. -/
def pascalCase (id : String) : String :=
  String.ofList (pascalChars id.toList)

/-- `settings-modal` becomes `settingsModal`. -/
def camelCase (id : String) : String :=
  String.ofList (decapitalizeChars (pascalChars id.toList))

/-- Is there a word boundary between two neighbouring characters? The ends of an id are
boundaries too. -/
def isBoundary : Option Char → Option Char → Bool
  | some b, some a =>
    !isAlphanumeric b || !isAlphanumeric a || (isLowercase b && isUppercase a) ||
      isAsciiDigit b != isAsciiDigit a
  | _, _ => true

def isSeparator (c : Char) : Bool := c == '-' || c == '_'

/-- What stays of an id when the part between `before` and `after` is cut out. One separator goes
with the part: the one in front of it, or else the one behind it. -/
def joinAround (before after : List Char) : List Char :=
  let (before, after) :=
    if before.getLast?.any isSeparator then (before.dropLast, after)
    else if after.head?.any isSeparator then (before, after.drop 1)
    else (before, after)
  if before.isEmpty then decapitalizeChars after else before ++ after

/-- The first occurrence of `keyword` (in lower case) in `rest` whose ends are word boundaries,
as the text around it; `before` is the text already passed. -/
def findWord (keyword : List Char) (before : List Char) :
    List Char → Option (List Char × List Char)
  | [] => none
  | c :: cs =>
    let rest := c :: cs
    let after := rest.drop keyword.length
    if keyword.isPrefixOf (asciiLower rest) && isBoundary before.getLast? (some c) &&
        isBoundary (rest.take keyword.length).getLast? after.head? then
      some (before, after)
    else findWord keyword (before ++ [c]) cs

def stripKeywordChars (id keyword : List Char) : Option (List Char) :=
  if keyword.isEmpty then none
  else
    match findWord (asciiLower keyword) [] id with
    | none => none
    | some (before, after) =>
      let base := joinAround before after
      if base.isEmpty then none else some base

/-- The id without the word that matches `keyword`: `tab-shop` and `shopTab` both give `shop`
for `tab`. -/
def stripKeyword (id keyword : String) : Option String :=
  (stripKeywordChars id.toList keyword.toList).map String.ofList

end PageWiring.Naming
