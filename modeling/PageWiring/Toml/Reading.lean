import PageWiring.Text.Blank
import PageWiring.Toml.Scalar

/-!
Reading TOML documents. A text is either read completely or refused.
-/
namespace PageWiring.Toml

/-- What reads a part of a text and leaves the rest. -/
abbrev Reader := StateT (List Char) Option

namespace Reader

def peek : Reader (Option Char) := do return (← get).head?

def next : Reader Char := do
  match ← get with
  | [] => failure
  | c :: cs =>
    set cs
    return c

def expect (c : Char) : Reader Unit := do
  if (← next) != c then failure

/-- Reads a character if it comes next. -/
def eat (c : Char) : Reader Bool := do
  match ← get with
  | [] => return false
  | d :: cs =>
    if d == c then
      set cs
      return true
    else return false

def takeWhile (p : Char → Bool) : Reader (List Char) := do
  let cs ← get
  let taken := cs.takeWhile p
  set (cs.drop taken.length)
  return taken

/-- Repeats a step that gives nothing at the end, at most `limit` times. -/
def repeatUpTo (step : Reader (Option α)) : Nat → Reader (List α)
  | 0 => failure
  | limit + 1 => do
    match ← step with
    | none => return []
    | some a => return a :: (← repeatUpTo step limit)

/-- Repeats a step that reads something each time until it gives nothing. -/
def many (step : Reader (Option α)) : Reader (List α) := do
  repeatUpTo step ((← get).length + 1)

def isBlank (c : Char) : Bool := c == ' ' || c == '\t'

def blanks : Reader Unit := do
  let _ ← takeWhile isBlank

/-- May a character stand in a comment or a text? -/
def isPlain (c : Char) : Bool :=
  c == '\t' || (' ' ≤ c && c != '\x7f')

/-- Reads a line break if one comes next. -/
def eatBreak : Reader Bool := do
  match ← get with
  | '\n' :: cs =>
    set cs
    return true
  | '\r' :: '\n' :: cs =>
    set cs
    return true
  | _ => return false

def eatComment : Reader Bool := do
  if ← eat '#' then
    let _ ← takeWhile isPlain
    return true
  else return false

/-- What may follow a value or a header on its line. -/
def lineEnd : Reader Unit := do
  blanks
  let _ ← eatComment
  unless ← eatBreak do
    unless (← get).isEmpty do failure

/-! ### Texts -/

def hexNumber (width : Nat) : Reader Char := do
  let cs := (← get).take width
  set ((← get).drop width)
  let isHex (c : Char) : Bool :=
    Text.isAsciiDigit c || ('a' ≤ c.toLower && c.toLower ≤ 'f')
  let n := digitNumber 16 cs
  if cs.length == width && cs.all isHex && n.isValidChar then return Char.ofNat n else failure

/-- What a backslash stands for together with what follows it. -/
def escape : Reader Char := do
  match ← next with
  | 'b' => return '\x08'
  | 't' => return '\t'
  | 'n' => return '\n'
  | 'f' => return '\x0c'
  | 'r' => return '\r'
  | '"' => return '"'
  | '\\' => return '\\'
  | 'u' => hexNumber 4
  | 'U' => hexNumber 8
  | _ => failure

/-- The rest of a text in double quotes. -/
def basicText : Reader (List Char) :=
  many do
    let c ← next
    if c == '"' then return none
    else if c == '\\' then return some (← escape)
    else if isPlain c then return some c
    else failure

/-- The rest of a text in single quotes. -/
def literalText : Reader (List Char) :=
  many do
    let c ← next
    if c == '\'' then return none
    else if isPlain c then return some c
    else failure

/-- Skips blanks and line breaks behind a backslash at the end of a line, if there is one. -/
def eatContinuation : Reader Bool := do
  let text ← get
  blanks
  if ← eatBreak then
    let _ ← many do
      if ← eatBreak then return some ()
      else
        match ← get with
        | c :: cs =>
          if isBlank c then
            set cs
            return some ()
          else return none
        | [] => return none
    return true
  else
    set text
    return false

/-- A piece of a text over several lines, where fewer than three quotes are plain. -/
def longPiece (quote : Char) (escapes : Bool) : Reader (Option (List Char)) := do
  let quotes := (← get).takeWhile (· == quote)
  if quotes.length ≥ 3 then return none
  else if !quotes.isEmpty then some <$> takeWhile (· == quote)
  else if ← eatBreak then return some ['\n']
  else
    let c ← next
    if c == '\\' && escapes then
      if ← eatContinuation then return some [] else return some [← escape]
    else if isPlain c then return some [c]
    else failure

/-- The rest of a text over several lines. A line break right at its start does not count, and up to
two quotes may precede the closing ones. -/
def longText (quote : Char) (escapes : Bool) : Reader (List Char) := do
  let _ ← eatBreak
  let pieces ← many (longPiece quote escapes)
  let quotes := (← get).takeWhile (· == quote)
  let closing := min quotes.length 5
  set ((← get).drop closing)
  return pieces.flatten ++ List.replicate (closing - 3) quote

/-- A text in quotes. -/
def quoted : Reader (List Char) := do
  match ← get with
  | '"' :: '"' :: '"' :: cs =>
    set cs
    longText '"' true
  | '\'' :: '\'' :: '\'' :: cs =>
    set cs
    longText '\'' false
  | '"' :: cs =>
    set cs
    basicText
  | '\'' :: cs =>
    set cs
    literalText
  | _ => failure

/-! ### Keys -/

def isBareKeyChar (c : Char) : Bool := Text.isAsciiAlphanumeric c || c == '_' || c == '-'

def simpleKey : Reader String := do
  match ← get with
  | '"' :: cs =>
    set cs
    String.ofList <$> basicText
  | '\'' :: cs =>
    set cs
    String.ofList <$> literalText
  | _ =>
    let cs ← takeWhile isBareKeyChar
    if cs.isEmpty then failure else return String.ofList cs

/-- The number of levels from which on nesting is refused. -/
def depthLimit : Nat := 80

/-- A key with its dots: the path before the last name, and that name. -/
def key : Reader (List String × String) := do
  let name : Reader String := do
    blanks
    let k ← simpleKey
    blanks
    return k
  let first ← name
  let more ← many do
    if ← eat '.' then some <$> name else return none
  let names := first :: more
  if names.length ≥ depthLimit then failure
  return (names.dropLast, names.getLastD first)

/-! ### Values -/

/-- Blanks, line breaks and comments between the elements of an array. -/
def gaps : Reader Unit := do
  let _ ← many do
    if ← eatBreak then return some ()
    else if ← eatComment then
      if ← eatBreak then return some () else failure
    else
      let bs ← takeWhile isBlank
      return if bs.isEmpty then none else some ()

/-- The rest of an array. -/
def array (value : Reader Value) : Reader Value := do
  let items ← many do
    gaps
    if ← eat ']' then return none
    else
      let v ← value
      gaps
      unless (← peek) == some ']' do expect ','
      return some v
  return .array false items

/-- The rest of a table in braces. -/
def inlineTable (value : Reader Value) : Reader Value := do
  blanks
  if ← eat '}' then return .table .inline []
  else
    let pair : Reader ((List String × String) × Value) := do
      let k ← key
      expect '='
      blanks
      let v ← value
      blanks
      return (k, v)
    let first ← pair
    let more ← many do
      if ← eat ',' then some <$> pair else return none
    expect '}'
    let entries ← (first :: more).foldlM (fun (entries : Entries) (k, v) =>
      (addDotted k.1 k.2 v .inline entries : Option Entries)) []
    return .table .inline entries

/-- A number, a date or time, or a truth value. A blank may separate a date from its time. -/
def scalar : Reader Value := do
  let token ← takeWhile isScalarChar
  let text ← get
  match text with
  | ' ' :: c :: cs =>
    if isDate token && Text.isAsciiDigit c then
      let time := (c :: cs).takeWhile isScalarChar
      if isZonedTime time then
        set ((c :: cs).drop time.length)
        return .moment
      else failure
    else (scalar? token : Option Value)
  | _ => (scalar? token : Option Value)

/-- A value without brackets. -/
def plainValue : Reader Value := do
  match ← get with
  | '"' :: _ => (fun cs => .text (String.ofList cs)) <$> quoted
  | '\'' :: _ => (fun cs => .text (String.ofList cs)) <$> quoted
  | _ => scalar

/-- A value with at most `depth` brackets around its innermost part. -/
def value : Nat → Reader Value
  | 0 => plainValue
  | depth + 1 => do
    match ← get with
    | '[' :: cs =>
      set cs
      array (value depth)
    | '{' :: cs =>
      set cs
      inlineTable (value depth)
    | _ => plainValue

/-! ### Documents -/

/-- A line that is not empty. -/
def line (d : Document) : Reader Document := do
  match ← get with
  | '[' :: '[' :: cs =>
    set cs
    let k ← key
    expect ']'
    expect ']'
    lineEnd
    (d.openElement k.1 k.2 : Option Document)
  | '[' :: cs =>
    set cs
    let k ← key
    expect ']'
    lineEnd
    (d.openTable k.1 k.2 : Option Document)
  | _ =>
    let k ← key
    expect '='
    blanks
    let v ← value (depthLimit - 1)
    lineEnd
    (d.add k.1 k.2 v : Option Document)

/-- All lines, at most `limit` of them. -/
def lines : Nat → Document → Reader Document
  | 0, _ => failure
  | limit + 1, d => do
    blanks
    if (← get).isEmpty then return d
    else if ← eatBreak then lines limit d
    else if ← eatComment then
      lineEnd
      lines limit d
    else
      let d ← line d
      lines limit d

end Reader

/-- The top-level entries of a document. -/
def ofText? (text : List Char) : Option Entries := do
  let body := Text.withoutMark text
  let (d, _) ← (Reader.lines (body.length + 1) {}).run body
  d.close

end PageWiring.Toml
