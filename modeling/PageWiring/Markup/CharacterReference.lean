import PageWiring.Markup.EntityTable
import PageWiring.Markup.Machine

/-!
Character references: `&name;`, `&#65;`, `&#x41;`.

A name is read as long as some known name goes on like it. What was read beyond the longest known
name is given back to the text.
-/
namespace PageWiring.Markup

/-- What is known of a name. -/
inductive NameMatch where
  /-- It is a known name. -/
  | full (chars : List Char)
  /-- It is the start of one. -/
  | start
  | unknown
  deriving DecidableEq, Repr

def matchName : List Char → NameMatch
  | [] => .start
  | first :: rest =>
    let candidates := namesFrom first
    match candidates.lookup (String.ofList rest) with
    | some codes => .full (codes.map Char.ofNat)
    | none => if candidates.any fun n => rest.isPrefixOf n.1.toList then .start else .unknown

/-- May a name hold this character? -/
def isNameChar (c : Char) : Bool := Text.isAsciiAlphanumeric c || c == ';'

/-- What was read of a name. -/
def Reference.name (r : Reference) : List Char := r.known ++ r.beyond

def Reference.push (r : Reference) (c : Char) : Reference := { r with beyond := r.beyond ++ [c] }

/-- The characters that stand for the numbers from 128 to 159. -/
def c1Replacements : List (Option Nat) :=
  [some 0x20AC, none, some 0x201A, some 0x0192, some 0x201E, some 0x2026, some 0x2020, some 0x2021,
    some 0x02C6, some 0x2030, some 0x0160, some 0x2039, some 0x0152, none, some 0x017D, none,
    none, some 0x2018, some 0x2019, some 0x201C, some 0x201D, some 0x2022, some 0x2013, some 0x2014,
    some 0x02DC, some 0x2122, some 0x0161, some 0x203A, some 0x0153, none, some 0x017E, some 0x0178]

/-- The character of a number, and whether the number is a good one. -/
def numberedChar (n : Nat) (tooBig : Bool) : Char × Bool :=
  if n > 0x10FFFF || tooBig || n = 0 || (0xD800 ≤ n && n ≤ 0xDFFF) then ('�', false)
  else if 0x80 ≤ n && n ≤ 0x9F then
    (Char.ofNat ((c1Replacements.getD (n - 0x80) none).getD n), false)
  else
    let isControl := (0x01 ≤ n && n ≤ 0x08) || n = 0x0B || (0x0D ≤ n && n ≤ 0x1F) || n = 0x7F
    let isNoncharacter := (0xFDD0 ≤ n && n ≤ 0xFDEF) || n % 0x10000 ≥ 0xFFFE
    (Char.ofNat n, !(isControl || isNoncharacter))

def digitValue? (base : Nat) (c : Char) : Option Nat :=
  let value : Option Nat :=
    if '0' ≤ c && c ≤ '9' then some (c.toNat - 48)
    else if 'a' ≤ c && c ≤ 'f' then some (c.toNat - 87)
    else if 'A' ≤ c && c ≤ 'F' then some (c.toNat - 55)
    else none
  value.filter (· < base)

namespace Draft

/-- Ends a reference with what it stands for; nothing means that the `&` stands for itself. -/
def finishReference (d : Draft) (chars : List Char) : Draft :=
  let d := { d with reference := none }
  match d.mode with
  | .value _ => (if chars.isEmpty then ['&'] else chars).foldl pushValue d
  | _ => d

def giveBack (d : Draft) (cs : List Char) : Draft := { d with unread := cs ++ d.unread }

def setReference (d : Draft) (r : Reference) : Draft := { d with reference := some r }

def startReference (d : Draft) (around : Option Char) : Draft :=
  d.setReference { around := around }

/-- A number sign that no digits follow. -/
def unreadNumber (d : Draft) (r : Reference) : Draft :=
  ((d.giveBack ('#' :: r.marker.toList)).fault .numberWithoutDigits).finishReference []

def finishNumber (d : Draft) (r : Reference) : Draft :=
  let (c, good) := numberedChar r.number r.tooBig
  let d := if good then d else d.fault .badNumber
  d.finishReference [c]

/-- A name that starts with a known one. In an attribute value, such a name without a semicolon
stands for itself before a letter, a digit or an equals sign. -/
def finishKnownName (d : Draft) (r : Reference) (chars : List Char) : Draft :=
  if r.known.getLast? == some ';' then (d.giveBack r.beyond).finishReference chars
  else
    match r.around, r.beyond.head? with
    | some _, some '=' =>
      ((d.fault .equalsAfterReference).giveBack r.name).finishReference []
    | some _, some c =>
      if Text.isAsciiAlphanumeric c then (d.giveBack r.name).finishReference []
      else ((d.fault .referenceWithoutSemicolon).giveBack r.beyond).finishReference chars
    | _, _ => ((d.fault .referenceWithoutSemicolon).giveBack r.beyond).finishReference chars

/-- A name that goes on like no known one. -/
def finishName (d : Draft) (r : Reference) (last : Option Char) : Draft :=
  match r.stands with
  | some chars => d.finishKnownName r chars
  | none =>
    if last.any Text.isAsciiAlphanumeric then d.setReference { r with mode := .unknown }
    else
      let d := if last == some ';' && r.name.length > 1 then d.fault .unknownReference else d
      (d.giveBack r.name).finishReference []

/-- The limit of the numbers that are kept. -/
def numberLimit : Nat := 0x100000000

def beginStep (r : Reference) (d : Draft) (c : Char) : Draft × Bool :=
  if ['\t', '\n', '\x0c', ' ', '<', '&'].contains c || r.around == some c then
    (d.finishReference [], false)
  else if c == '#' then (d.setReference { r with mode := .hash }, true)
  else (d.setReference { r with mode := .named }, false)

def hashStep (r : Reference) (d : Draft) (c : Char) : Draft × Bool :=
  if c == 'x' || c == 'X' then
    (d.setReference { r with marker := some c, mode := .digits 16 }, true)
  else (d.setReference { r with mode := .digits 10 }, false)

def digitsStep (r : Reference) (base : Nat) (d : Draft) (c : Char) : Draft × Bool :=
  match digitValue? base c with
  | some digit =>
    let scaled := r.number * base % numberLimit
    (d.setReference { r with
      tooBig := r.tooBig || scaled > 0x10FFFF
      number := (scaled + digit) % numberLimit
      hasDigit := true }, true)
  | none =>
    if r.hasDigit then (d.setReference { r with mode := .numberEnd }, false)
    else (d.unreadNumber r, false)

def numberEndStep (r : Reference) (d : Draft) (c : Char) : Draft × Bool :=
  if c == ';' then (d.finishNumber r, true)
  else ((d.fault .numberWithoutSemicolon).finishNumber r, false)

def namedStep (r : Reference) (d : Draft) (c : Char) : Draft :=
  let r := r.push c
  if isNameChar c then
    match matchName r.name with
    | .full chars =>
      d.setReference { r with known := r.name, stands := some chars, beyond := [] }
    | .start => d.setReference r
    | .unknown => d.finishName r (some c)
  else d.finishName r (some c)

def unknownStep (r : Reference) (d : Draft) (c : Char) : Draft :=
  let r := r.push c
  if Text.isAsciiAlphanumeric c then d.setReference r
  else
    let d := if c == ';' then d.fault .unknownReference else d
    (d.giveBack r.name).finishReference []

/-- Ends a reference where the text ends. -/
def endReference (d : Draft) : Draft :=
  match d.reference with
  | none => d
  | some r =>
    match r.mode with
    | .begin => d.finishReference []
    | .hash => ((d.giveBack ['#']).fault .endAfterHash).finishReference []
    | .digits _ =>
      if r.hasDigit then (d.fault .endInNumber).finishNumber r else d.unreadNumber r
    | .numberEnd => (d.fault .endInNumber).finishNumber r
    | .named => d.finishName r none
    | .unknown => (d.giveBack r.name).finishReference []

end Draft

/-- How the text is taken in a reference. -/
def Reference.intake (r : Reference) : Intake :=
  match r.mode with
  | .begin => .peek (Draft.beginStep r)
  | .hash => .peek (Draft.hashStep r)
  | .digits base => .peek (Draft.digitsStep r base)
  | .numberEnd => .peek (Draft.numberEndStep r)
  | .named => .next (Draft.namedStep r)
  | .unknown => .next (Draft.unknownStep r)

end PageWiring.Markup
