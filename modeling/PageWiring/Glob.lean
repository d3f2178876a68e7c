import PageWiring.Text.Utf8

/-!
Glob patterns for paths.

`*` and `?` also match a separator. A component `**` stands for any number of directories. Patterns
are matched with the bytes of a path, so `?` takes a single byte.
-/
namespace PageWiring

/-- A part of a pattern. -/
inductive GlobPart where
  | literal (c : Char)
  /-- Any byte. -/
  | any
  /-- Any bytes. -/
  | many
  /-- The start of a path up to some directory, or nothing. -/
  | leadingDirectories
  /-- A separator and whatever follows. -/
  | everythingBelow
  /-- A separator, with any directories behind it. -/
  | innerDirectories
  | oneOf (negated : Bool) (ranges : List (Char × Char))
  | either (branches : List (List GlobPart))

abbrev Glob := List GlobPart

/-- Why a text is no pattern. -/
inductive GlobFault where
  | unclosedClass
  | invalidRange (low high : Char)
  | unclosedAlternates
  | unopenedAlternates
  | danglingEscape
  deriving DecidableEq, Repr

def GlobFault.reason : GlobFault → String
  | .unclosedClass => "unclosed character class; missing ']'"
  | .invalidRange low high =>
    "invalid range; '" ++ String.ofList [low] ++ "' > '" ++ String.ofList [high] ++ "'"
  | .unclosedAlternates =>
    "unclosed alternate group; missing '\x7d' (maybe escape '\x7b' with '[\x7b]'?)"
  | .unopenedAlternates =>
    "unopened alternate group; missing '\x7b' (maybe escape '\x7d' with '[\x7d]'?)"
  | .danglingEscape => "dangling '\\'"

def GlobFault.message (fault : GlobFault) (text : String) : String :=
  s!"error parsing glob '{text}': " ++ fault.reason

namespace Glob

/-! ### Reading -/

/-- A group of alternatives that is being read. -/
structure Group where
  /-- The parts before the group, last first. -/
  before : List GlobPart
  /-- The finished branches, last first. -/
  branches : List (List GlobPart)

structure Reading where
  /-- The parts of the branch that is being read, last first. -/
  parts : List GlobPart := []
  /-- The open groups, innermost first. -/
  groups : List Group := []
  /-- The last character that was read. -/
  previous : Option Char := none

namespace Reading

def push (r : Reading) (p : GlobPart) : Reading := { r with parts := p :: r.parts }

def openGroup (r : Reading) : Reading :=
  { r with parts := [], groups := ⟨r.parts, []⟩ :: r.groups }

def closeGroup (r : Reading) : Except GlobFault Reading :=
  match r.groups with
  | [] => .error .unopenedAlternates
  | g :: groups =>
    let branches := (r.parts.reverse :: g.branches).reverse
    .ok { r with parts := .either branches :: g.before, groups := groups }

/-- A comma separates branches inside a group and stands for itself elsewhere. -/
def comma (r : Reading) : Reading :=
  match r.groups with
  | [] => r.push (.literal ',')
  | g :: groups =>
    { r with parts := [], groups := { g with branches := r.parts.reverse :: g.branches } :: groups }

end Reading

/-- A set of characters after its opening bracket. -/
structure Class where
  negated : Bool
  ranges : List (Char × Char) := []
  isFirst : Bool := true
  inRange : Bool := false

namespace Class

def single (k : Class) (c : Char) : Class := { k with ranges := k.ranges ++ [(c, c)] }

/-- Makes the last character the start of a range that ends with `c`. -/
def extend (k : Class) (c : Char) : Except GlobFault Class :=
  match k.ranges.getLast? with
  | none => .ok (k.single c)
  | some (low, _) =>
    if c < low then .error (.invalidRange low c)
    else .ok { k with ranges := k.ranges.dropLast ++ [(low, c)], inRange := false }

def add (k : Class) (c : Char) : Except GlobFault Class :=
  if k.isFirst then .ok { k.single c with isFirst := false }
  else if k.inRange then k.extend c
  else if c == '-' then .ok { k with inRange := true }
  else .ok (k.single c)

/-- The finished set; a dash at its end stands for itself. -/
def finish (k : Class) : GlobPart :=
  .oneOf k.negated (if k.inRange then k.ranges ++ [('-', '-')] else k.ranges)

end Class

/-- The parts that `**` stands for, where `next` is the character behind it. The second component
tells whether that character belongs to it. -/
def doubleStar (r : Reading) (before next : Option Char) : Reading × Bool :=
  let plain := (r.push .many).push .many
  if r.parts.isEmpty then
    if next.all (· == '/') then (r.push .leadingDirectories, true) else (plain, false)
  else
    let startsComponent := before == some '/' ||
      (!r.groups.isEmpty && (before == some ',' || before == some '{'))
    let endsBranch := next == none || (!r.groups.isEmpty && (next == some ',' || next == some '}'))
    if startsComponent && (endsBranch || next == some '/') then
      let part : GlobPart :=
        match r.parts.head? with
        | some .leadingDirectories => .leadingDirectories
        | some .everythingBelow => .everythingBelow
        | _ => if endsBranch then .everythingBelow else .innerDirectories
      ({ r with parts := part :: r.parts.drop 1 }, !endsBranch)
    else (plain, false)

/-- What the reading is in the middle of. -/
inductive Expecting where
  | part
  | escaped
  /-- A star whose neighbour is not known yet, and the character before it. -/
  | star (before : Option Char)
  /-- Two stars. -/
  | stars (before : Option Char)
  /-- A set just after its bracket. -/
  | classStart
  | inClass (k : Class)

/-- Reads a character that starts a part. -/
def readPart (r : Reading) (c : Char) : Except GlobFault (Reading × Expecting) :=
  let before := r.previous
  let r := { r with previous := some c }
  if c == '?' then .ok (r.push .any, .part)
  else if c == '*' then .ok (r, .star before)
  else if c == '[' then .ok (r, .classStart)
  else if c == '{' then .ok (r.openGroup, .part)
  else if c == '}' then r.closeGroup.map fun r => (r, .part)
  else if c == ',' then .ok (r.comma, .part)
  else if c == '\\' then .ok (r, .escaped)
  else .ok (r.push (.literal c), .part)

def readInClass (r : Reading) (k : Class) (c : Char) : Except GlobFault (Reading × Expecting) :=
  if c == ']' && !k.isFirst then .ok (r.push k.finish, .part)
  else (k.add c).map fun k => (r, .inClass k)

/-- Reads one more character. -/
def readChar (r : Reading) (e : Expecting) (c : Char) : Except GlobFault (Reading × Expecting) :=
  let seen := { r with previous := some c }
  match e with
  | .part => readPart r c
  | .escaped => .ok (seen.push (.literal c), .part)
  | .star before =>
    if c == '*' then .ok (seen, .stars before) else readPart (r.push .many) c
  | .stars before =>
    match doubleStar r before (some c) with
    | (r, true) => .ok ({ r with previous := some c }, .part)
    | (r, false) => readPart r c
  | .classStart =>
    if c == '!' || c == '^' then .ok (seen, .inClass { negated := true })
    else readInClass seen { negated := false } c
  | .inClass k => readInClass seen k c

/-- The end of the text. -/
def finish (r : Reading) (e : Expecting) : Except GlobFault Glob := do
  let r ← match e with
    | .part => .ok r
    | .escaped => .error .danglingEscape
    | .star _ => .ok (r.push .many)
    | .stars before => .ok (doubleStar r before none).1
    | .classStart => .error .unclosedClass
    | .inClass _ => .error .unclosedClass
  if r.groups.isEmpty then .ok r.parts.reverse else .error .unclosedAlternates

def readFrom (r : Reading) (e : Expecting) : List Char → Except GlobFault Glob
  | [] => finish r e
  | c :: cs => do
    let (r, e) ← readChar r e c
    readFrom r e cs

/-- Reads a pattern. -/
def ofText (text : String) : Except GlobFault Glob := readFrom {} .part text.toList

/-! ### Matching -/

/-- All ends of a list, the longest first. -/
def ends : List UInt8 → List (List UInt8)
  | [] => [[]]
  | b :: bs => (b :: bs) :: ends bs

/-- Of several ends of one path, each once. -/
def distinct (rests : List (List UInt8)) : List (List UInt8) :=
  rests.foldl (fun kept r => if kept.any (·.length == r.length) then kept else r :: kept) []

def separator : UInt8 := 47

/-- The ends that follow a separator. -/
def afterSeparators (path : List UInt8) : List (List UInt8) :=
  (ends path).filterMap fun rest =>
    match rest with
    | b :: bs => if b == separator then some bs else none
    | [] => none

/-- The path without bytes at its start. -/
def dropBytes (bytes path : List UInt8) : List (List UInt8) :=
  if bytes.isPrefixOf path then [path.drop bytes.length] else []

/-- Is a byte in a set? Only the last byte of a range's first character and the first byte of its
second are the bounds of a range; their other bytes are members of their own. -/
def inRanges (ranges : List (Char × Char)) (b : UInt8) : Bool :=
  ranges.any fun (low, high) =>
    let first := String.utf8EncodeChar low
    let last := String.utf8EncodeChar high
    if low == high then first.contains b
    else
      first.dropLast.contains b || (last.drop 1).contains b ||
        (first.getLastD 0 ≤ b && b ≤ last.headD 0)

mutual

/-- Does a part match nothing but the empty text, because all its branches are empty? -/
def isVoid : GlobPart → Bool
  | .either branches => allVoid branches
  | _ => false

def isVoidBranch : List GlobPart → Bool
  | [] => true
  | p :: ps => isVoid p && isVoidBranch ps

def allVoid : List (List GlobPart) → Bool
  | [] => true
  | b :: bs => isVoidBranch b && allVoid bs

end

mutual

/-- What may remain of a path behind a part. -/
def restsOfPart : GlobPart → List UInt8 → List (List UInt8)
  | .literal c, path => dropBytes (String.utf8EncodeChar c) path
  | .any, path =>
    match path with
    | [] => []
    | _ :: bs => [bs]
  | .many, path => ends path
  | .leadingDirectories, path => path :: afterSeparators path
  | .everythingBelow, path => (dropBytes [separator] path).flatMap ends
  | .innerDirectories, path =>
    (dropBytes [separator] path).flatMap fun rest => rest :: afterSeparators rest
  | .oneOf negated ranges, path =>
    match path with
    | [] => []
    | b :: bs => if inRanges ranges b != negated then [bs] else []
  | .either branches, path =>
    if allVoid branches then [path] else restsOfBranches branches path

def restsOf : List GlobPart → List (List UInt8) → List (List UInt8)
  | [], paths => paths
  | p :: ps, paths => restsOf ps (distinct (paths.flatMap (restsOfPart p)))

/-- Empty branches do not count. -/
def restsOfBranches : List (List GlobPart) → List UInt8 → List (List UInt8)
  | [], _ => []
  | b :: bs, path =>
    let found := if isVoidBranch b then [] else restsOf b [path]
    found ++ restsOfBranches bs path

end

/-- Does a pattern match a whole path? A lone `**` matches every path. -/
def isMatch (g : Glob) (path : List UInt8) : Bool :=
  match g with
  | [.leadingDirectories] => true
  | g => (restsOf g [path]).any List.isEmpty

/-- Reads a pattern as the test of the paths that it matches. -/
def reader (text : String) : Except GlobFault (List UInt8 → Bool) := (ofText text).map isMatch

end Glob

end PageWiring
