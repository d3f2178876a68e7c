import PageWiring.Script.Syntax
import PageWiring.Text.Basic
import PageWiring.Text.Letter

/-!
Tokens of scripts.

Every reader takes the text from some byte offset on and returns what it read together with the
text and the offset after it. A mistake in the text is known by its offset alone.
-/
namespace PageWiring.Script

inductive Tok where
  | eof
  /-- An identifier or keyword. One that starts with an escape sequence is `escaped`, and no keyword
  whatever it spells. -/
  | word (name : String) (escaped : Bool)
  | privateName (name : String)
  | punct (text : String)
  | number
  | text (value : String)
  /-- The backtick that opens a template. -/
  | template
  /-- No token can be read; the offset is that of the mistake. -/
  | bad (offset : Nat)
  deriving DecidableEq, Repr, Inhabited

structure Token where
  tok : Tok
  span : Span
  newlineBefore : Bool
  deriving DecidableEq, Repr, Inhabited

/-- The language rules that reading a token depends on. -/
structure LexMode where
  strict : Bool
  isModule : Bool
  inAsync : Bool
  inGenerator : Bool
  inStaticBlock : Bool
  deriving DecidableEq, Repr

def keywords : List String :=
  ["break", "case", "catch", "class", "const", "continue", "debugger", "default", "delete", "do",
    "else", "export", "extends", "finally", "for", "function", "if", "import", "in", "instanceof",
    "new", "return", "super", "switch", "this", "throw", "try", "typeof", "var", "void", "while",
    "with", "null", "true", "false"]

/-- Words that strict code reserves. -/
def strictWords : List String :=
  ["implements", "interface", "package", "private", "protected", "public", "static"]

/-- May a word not be read as a name? -/
def LexMode.reserves (m : LexMode) (w : String) : Bool :=
  if w == "let" then m.strict
  else if w == "await" then m.inAsync || m.inStaticBlock || m.strict
  else if w == "yield" then m.inGenerator || m.strict
  else w == "enum" || keywords.contains w || (m.strict && strictWords.contains w)

/-- Text from a byte offset on. -/
structure Cursor where
  rest : List Char
  offset : Nat
  deriving DecidableEq, Repr, Inhabited

/-- A token with the text it starts and the text after it, and the offsets of mistakes that do not
stop the reading. -/
structure Lexeme where
  token : Token
  start : Cursor
  cursor : Cursor
  faults : List Nat
  deriving DecidableEq, Repr, Inhabited

def isLineTerminator (c : Char) : Bool :=
  c == '\n' || c == '\r' || c == '\u2028' || c == '\u2029'

/-- White space between tokens, line terminators apart. -/
def isSpace (c : Char) : Bool :=
  let n := c.toNat
  n == 0x20 || n == 0x09 || n == 0x0B || n == 0x0C || n == 0xA0 || n == 0xFEFF || n == 0x1680 ||
    (0x2000 ≤ n && n ≤ 0x200A) || n == 0x202F || n == 0x205F || n == 0x3000

inductive SkipMode where
  | code | lineComment | blockComment
  deriving DecidableEq, Repr

/-- What lies between two tokens. -/
structure Gap where
  cursor : Cursor
  newline : Bool
  /-- Where the first comment in the form of HTML starts. -/
  htmlComment : Option Nat
  faults : List Nat
  deriving DecidableEq, Repr

/-- Skips white space and comments. An unclosed comment is a mistake at the end of the text; a
comment in the form of HTML is one in a module. `-->` is a comment at the start of a line only. -/
def skipGap (isModule : Bool) :
    SkipMode → Bool → Option Nat → List Nat → Nat → List Char → Gap
  | .blockComment, newline, html, faults, offset, [] =>
    ⟨⟨[], offset⟩, newline, html, offset :: faults⟩
  | .code, newline, html, faults, offset, [] => ⟨⟨[], offset⟩, newline, html, faults⟩
  | .lineComment, newline, html, faults, offset, [] => ⟨⟨[], offset⟩, newline, html, faults⟩
  | .code, newline, html, faults, offset, '/' :: '/' :: rest =>
    skipGap isModule .lineComment newline html faults (offset + 2) rest
  | .code, newline, html, faults, offset, '/' :: '*' :: rest =>
    skipGap isModule .blockComment newline html faults (offset + 2) rest
  | .code, newline, html, faults, offset, '<' :: '!' :: '-' :: '-' :: rest =>
    skipGap isModule .lineComment newline (html.or (some offset))
      (if isModule then offset :: faults else faults) (offset + 4) rest
  | .code, newline, html, faults, offset, c :: rest =>
    if isLineTerminator c then skipGap isModule .code true html faults (offset + c.utf8Size) rest
    else if isSpace c then skipGap isModule .code newline html faults (offset + c.utf8Size) rest
    else if newline && c == '-' && ['-', '>'].isPrefixOf rest then
      skipGap isModule .lineComment newline (html.or (some offset))
        (if isModule then offset :: faults else faults) (offset + 1) rest
    else ⟨⟨c :: rest, offset⟩, newline, html, faults⟩
  | .lineComment, newline, html, faults, offset, c :: rest =>
    if isLineTerminator c then skipGap isModule .code true html faults (offset + c.utf8Size) rest
    else skipGap isModule .lineComment newline html faults (offset + c.utf8Size) rest
  | .blockComment, newline, html, faults, offset, '*' :: '/' :: rest =>
    skipGap isModule .code newline html faults (offset + 2) rest
  | .blockComment, newline, html, faults, offset, c :: rest =>
    skipGap isModule .blockComment (newline || isLineTerminator c) html faults
      (offset + c.utf8Size) rest

/-- The value of a hexadecimal digit. -/
def hexValue? (c : Char) : Option Nat :=
  if '0' ≤ c && c ≤ '9' then some (c.toNat - 48)
  else if 'a' ≤ c && c ≤ 'f' then some (c.toNat - 87)
  else if 'A' ≤ c && c ≤ 'F' then some (c.toNat - 55)
  else none

def isHexDigit (c : Char) : Bool := (hexValue? c).isSome

def readHex (digits : List Char) : Nat :=
  digits.foldl (fun n d => n * 16 + (hexValue? d).getD 0) 0

/-- A run of digits in which `_` may separate them: the digits, the number of characters, and the
number of separators that no digit follows. -/
structure DigitRun where
  digits : List Char := []
  length : Nat := 0
  straySeparators : Nat := 0
  deriving DecidableEq, Repr

/-- Reads digits, at most `limit` of them if there is a limit. -/
def readDigits (isDigit : Char → Bool) (limit : Option Nat) : List Char → DigitRun
  | [] => {}
  | c :: rest =>
    if limit = some 0 then {}
    else if c == '_' then
      let run := readDigits isDigit limit rest
      { run with
        length := run.length + 1
        straySeparators := run.straySeparators + if rest.head?.any isDigit then 0 else 1 }
    else if isDigit c then
      let run := readDigits isDigit (limit.map (· - 1)) rest
      { run with digits := c :: run.digits, length := run.length + 1 }
    else {}

/-- All the digits at the start of a text. -/
def digitRun (isDigit : Char → Bool) (cs : List Char) : DigitRun := readDigits isDigit none cs

/-- What an escape sequence stands for, and the number of characters after the backslash. -/
structure Escape where
  value : List Char
  length : Nat
  isLegacyOctal : Bool := false
  /-- Mistakes in it that do not stop the reading. -/
  straySeparators : Nat := 0
  deriving DecidableEq, Repr

/-- Exactly `count` hexadecimal digits. -/
def takeHex? (count : Nat) (cs : List Char) : Option DigitRun :=
  let run := readDigits isHexDigit (some count) cs
  if run.digits.length = count then some run else none

/-- Half of a surrogate pair is no character. -/
def isSurrogate (code : Nat) : Bool := 0xD800 ≤ code && code < 0xE000

/-- Reads `\u` from the `u` on. What spells half of a surrogate pair stands for its own text. -/
def readUnicodeEscape? : List Char → Option Escape
  | 'u' :: '{' :: rest =>
    let run := digitRun isHexDigit rest
    let code := readHex run.digits
    if run.digits.isEmpty || code > 0x10FFFF then none
    else if isSurrogate code then
      let raw := (rest.take 5).takeWhile (· != '}')
      if (rest.drop raw.length).head? == some '}' then
        some { value := ['\\', 'u', '{'] ++ raw ++ ['}'], length := raw.length + 3
               straySeparators := run.straySeparators }
      else none
    else if (rest.drop run.length).head? == some '}' then
      some { value := [Char.ofNat code], length := run.length + 3
             straySeparators := run.straySeparators }
    else none
  | 'u' :: rest =>
    (takeHex? 4 rest).map fun run =>
      let code := readHex run.digits
      if isSurrogate code then
        { value := ['\\', 'u'] ++ rest.take 4, length := 5
          straySeparators := run.straySeparators }
      else
        { value := [Char.ofNat code], length := run.length + 1
          straySeparators := run.straySeparators }
  | _ => none

def isOctalDigit (c : Char) : Bool := '0' ≤ c && c ≤ '7'

/-- Reads the escape sequence that follows a backslash. -/
def readEscape? : List Char → Option Escape
  | [] => none
  | 'n' :: _ => some { value := ['\n'], length := 1 }
  | 't' :: _ => some { value := ['\t'], length := 1 }
  | 'r' :: _ => some { value := ['\r'], length := 1 }
  | 'b' :: _ => some { value := ['\x08'], length := 1 }
  | 'v' :: _ => some { value := ['\x0b'], length := 1 }
  | 'f' :: _ => some { value := ['\x0c'], length := 1 }
  | '\r' :: '\n' :: _ => some { value := [], length := 2 }
  | 'x' :: rest =>
    (takeHex? 2 rest).map fun run =>
      { value := [Char.ofNat (readHex run.digits)], length := run.length + 1
        straySeparators := run.straySeparators }
  | 'u' :: rest => readUnicodeEscape? ('u' :: rest)
  | c :: rest =>
    if isLineTerminator c then some { value := [], length := 1 }
    else if isOctalDigit c then
      let limit := if c ≤ '3' then 2 else 1
      let digits := c :: (rest.take limit).takeWhile isOctalDigit
      let value := digits.foldl (fun n d => n * 8 + (d.toNat - 48)) 0
      some { value := [Char.ofNat value], length := digits.length, isLegacyOctal := digits != ['0'] }
    else some { value := [c], length := 1 }

/-- The outcome of reading a string literal: its value (reversed), the text after it, and the
offsets of mistakes, the latest first. -/
structure StringScan where
  value : List Char
  cursor : Cursor
  faults : List Nat
  deriving DecidableEq, Repr

/-- Reads a string literal up to its closing quote; a mistake that stops the reading is given by its
offset. A string that is not closed on its line ends there. `skip` counts characters that belong
to an escape sequence already read. -/
def readString (quote : Char) (strict : Bool) (start : Nat) :
    Nat → List Char → List Nat → Nat → List Char → Except Nat StringScan
  | _, value, faults, offset, [] => .ok ⟨value, ⟨[], offset⟩, start :: faults⟩
  | skip + 1, value, faults, offset, c :: rest =>
    readString quote strict start skip value faults (offset + c.utf8Size) rest
  | 0, value, faults, offset, c :: rest =>
    if c == quote then .ok ⟨value, ⟨rest, offset + c.utf8Size⟩, faults⟩
    else if c == '\n' || c == '\r' then .ok ⟨value, ⟨c :: rest, offset⟩, start :: faults⟩
    else if c == '\\' then
      match readEscape? rest with
      | none => .error offset
      | some esc =>
        let octal := if esc.isLegacyOctal && strict then [offset] else []
        readString quote strict start esc.length (esc.value.reverse ++ value)
          (octal ++ List.replicate esc.straySeparators offset ++ faults) (offset + 1) rest
    else readString quote strict start 0 (c :: value) faults (offset + c.utf8Size) rest

/-- The outcome of reading an identifier. -/
structure WordScan where
  name : List Char
  hasEscape : Bool
  cursor : Cursor
  faults : List Nat
  deriving DecidableEq, Repr

/-- Reads the characters of an identifier; a wrong escape sequence is given by its offset, and one
that spells no identifier character is a mistake that does not stop the reading. -/
def readWordChars (start : Nat) :
    Nat → List Char → Bool → List Nat → Nat → List Char → Except Nat WordScan
  | _, name, hasEscape, faults, offset, [] => .ok ⟨name.reverse, hasEscape, ⟨[], offset⟩, faults⟩
  | skip + 1, name, hasEscape, faults, offset, c :: rest =>
    readWordChars start skip name hasEscape faults (offset + c.utf8Size) rest
  | 0, name, hasEscape, faults, offset, c :: rest =>
    if Text.isIdentifierPart c then
      readWordChars start 0 (c :: name) hasEscape faults (offset + c.utf8Size) rest
    else if c == '\\' then
      match readUnicodeEscape? rest with
      | none => .error start
      | some esc =>
        let stray := List.replicate esc.straySeparators start
        let wrong := if esc.value.head?.all Text.isIdentifierPart then [] else [start]
        readWordChars start esc.length (esc.value.reverse ++ name) true (wrong ++ stray ++ faults)
          (offset + 1) rest
    else .ok ⟨name.reverse, hasEscape, ⟨c :: rest, offset⟩, faults⟩

/-- Does an identifier start here, possibly by an escape? -/
def startsWord : List Char → Bool
  | '\\' :: _ => true
  | c :: _ => Text.isIdentifierStart c
  | [] => false

structure NumberScan where
  length : Nat
  isLegacy : Bool := false
  straySeparators : Nat := 0
  valid : Bool := true
  deriving DecidableEq, Repr

/-- The length of an exponent with its mark, and its stray separators. No digits are a mistake. -/
private def exponent? (cs : List Char) : Option NumberScan :=
  match cs with
  | e :: rest =>
    if e == 'e' || e == 'E' then
      let sign := match rest with
        | '+' :: _ => 1
        | '-' :: _ => 1
        | _ => 0
      let run := digitRun Text.isAsciiDigit (rest.drop sign)
      some { length := 1 + sign + run.length, straySeparators := run.straySeparators
             valid := !run.digits.isEmpty }
    else none
  | [] => none

/-- What follows the whole part of a number: a fraction and an exponent. -/
private def scanFraction (whole : NumberScan) (cs : List Char) : NumberScan :=
  let fraction : DigitRun := match cs with
    | '.' :: rest =>
      let run := digitRun Text.isAsciiDigit rest
      { run with length := run.length + 1 }
    | _ => {}
  let n : NumberScan := { whole with
    length := whole.length + fraction.length
    straySeparators := whole.straySeparators + fraction.straySeparators }
  match exponent? (cs.drop fraction.length) with
  | some e => { n with
      length := n.length + e.length
      straySeparators := n.straySeparators + e.straySeparators
      valid := e.valid }
  | none => n

/-- The number literal at the start of a text. A whole part that starts with a zero and goes on is a
legacy octal number, or a legacy decimal one if it has an eight or a nine. -/
def scanNumber (cs : List Char) : NumberScan :=
  let isBigint (n : Nat) : Bool := (cs.drop n).head? == some 'n'
  let ofBase (isDigit : Char → Bool) : NumberScan :=
    let run := digitRun isDigit (cs.drop 2)
    let n := 2 + run.length
    { length := if isBigint n then n + 1 else n
      straySeparators := run.straySeparators
      valid := !run.digits.isEmpty }
  let decimal : NumberScan :=
    let run := digitRun Text.isAsciiDigit cs
    let whole : NumberScan := { length := run.length, straySeparators := run.straySeparators }
    let isLegacy := run.digits.head? == some '0' && run.length > 1
    if !run.digits.isEmpty && isBigint run.length then { whole with length := run.length + 1 }
    else if isLegacy && run.digits.all isOctalDigit then { whole with isLegacy := true }
    else scanFraction { whole with isLegacy := isLegacy } (cs.drop run.length)
  match cs with
  | '0' :: c :: _ =>
    if c == 'x' || c == 'X' then ofBase isHexDigit
    else if c == 'o' || c == 'O' then ofBase isOctalDigit
    else if c == 'b' || c == 'B' then ofBase fun d => d == '0' || d == '1'
    else decimal
  | _ => decimal

/-- The punctuators, longer ones first. -/
def punctuators : List String :=
  [">>>=", "...", "===", "!==", "**=", "<<=", ">>=", ">>>", "&&=", "||=", "??=", "=>", "==", "!=",
    "<=", ">=", "&&", "||", "??", "?.", "++", "--", "+=", "-=", "*=", "/=", "%=", "&=", "|=", "^=",
    "<<", ">>", "**", "\x7b", "\x7d", "(", ")", "[", "]", ";", ",", "<", ">", "+", "-", "*", "/",
    "%", "&", "|", "^", "!", "~", "?", ":", "=", ".", "@"]

private def punctuatorChars : List (String × List Char) :=
  punctuators.map fun p => (p, p.toList)

/-- The longest punctuator at the start of a text. `?.` before a digit is only a `?`. -/
def punctuator? (cs : List Char) : Option String :=
  (punctuatorChars.find? fun p =>
    p.2.isPrefixOf cs && !(p.1 == "?." && (cs.drop 2).head?.any Text.isAsciiDigit)).map (·.1)

def Cursor.advance (c : Cursor) (count : Nat) : Cursor :=
  ⟨c.rest.drop count, c.offset + Text.byteLength (c.rest.take count)⟩

/-- An identifier or keyword. A reserved word may not be written with an escape sequence, unless it
starts with one and so is a plain name. -/
private def readWord (mode : LexMode) (c : Cursor) : Tok × Cursor × List Nat :=
  match readWordChars c.offset 0 [] false [] c.offset c.rest with
  | .error offset => (.bad offset, c.advance 1, [])
  | .ok scan =>
    let name := String.ofList scan.name
    let escaped := c.rest.head? == some '\\'
    if scan.hasEscape && !escaped && mode.reserves name then (.bad c.offset, scan.cursor, [])
    else (.word name escaped, scan.cursor, scan.faults)

private def readNumber (mode : LexMode) (c : Cursor) : Tok × Cursor × List Nat :=
  let scan := scanNumber c.rest
  let after := c.advance scan.length
  let faults := (if scan.isLegacy && mode.strict then [c.offset] else []) ++
    List.replicate scan.straySeparators c.offset
  if !scan.valid then (.bad c.offset, after, faults)
  else if startsWord after.rest then (.bad after.offset, after, faults)
  else (.number, after, faults)

/-- The token at the start of a text that starts with no gap. -/
def readTok (mode : LexMode) (c : Cursor) : Tok × Cursor × List Nat :=
  match c.rest with
  | [] => (.eof, c, [])
  | first :: rest =>
    if startsWord c.rest then readWord mode c
    else if Text.isAsciiDigit first || (first == '.' && rest.head?.any Text.isAsciiDigit) then
      readNumber mode c
    else if first == '"' || first == '\'' then
      match readString first mode.strict c.offset 0 [] [] (c.offset + 1) rest with
      | .ok scan => (.text (String.ofList scan.value.reverse), scan.cursor, scan.faults)
      | .error offset => (.bad offset, ⟨[], c.offset + Text.byteLength c.rest⟩, [])
    else if first == '`' then (.template, ⟨rest, c.offset + 1⟩, [])
    else if first == '#' && startsWord rest then
      match readWordChars c.offset 0 [] false [] (c.offset + 1) rest with
      | .ok scan => (.privateName (String.ofList scan.name), scan.cursor, scan.faults)
      | .error offset => (.bad offset, c.advance 1, [])
    else
      match punctuator? c.rest with
      | some p => (.punct p, c.advance p.length, [])
      | none => (.bad c.offset, ⟨rest, c.offset + first.utf8Size⟩, [])

/-- The next token of a text. After a comment in the form of HTML it counts from that comment on.
The start of the text is the start of a line. -/
def readToken (mode : LexMode) (c : Cursor) : Lexeme :=
  let gap := skipGap mode.isModule .code (c.offset == 0) none [] c.offset c.rest
  let (tok, after, faults) := readTok mode gap.cursor
  { token := ⟨tok, ⟨gap.htmlComment.getD gap.cursor.offset, after.offset⟩, gap.newline⟩
    start := gap.cursor
    cursor := after
    faults := faults ++ gap.faults }

/-- A piece of a template: its text as written, whether its escapes are sound, and whether a
substitution follows it. -/
structure TemplatePiece where
  raw : String
  badEscape : Option Nat
  opensSubstitution : Bool
  cursor : Cursor
  deriving DecidableEq, Repr

/-- Reads a template up to its end or to the next substitution; none when it never ends. -/
def readTemplatePiece :
    Nat → List Char → Option Nat → Nat → List Char → Option TemplatePiece
  | _, _, _, _, [] => none
  | skip + 1, raw, bad, offset, c :: rest =>
    readTemplatePiece skip (c :: raw) bad (offset + c.utf8Size) rest
  | 0, raw, bad, offset, '$' :: '{' :: rest =>
    some ⟨String.ofList raw.reverse, bad, true, ⟨rest, offset + 2⟩⟩
  | 0, raw, bad, offset, c :: rest =>
    if c == '`' then some ⟨String.ofList raw.reverse, bad, false, ⟨rest, offset + 1⟩⟩
    else if c == '\\' then
      let fault := match readEscape? rest with
        | some esc => if esc.isLegacyOctal then some offset else none
        | none => some offset
      readTemplatePiece 1 (c :: raw) (bad.or fault) (offset + 1) rest
    else readTemplatePiece 0 (c :: raw) bad (offset + c.utf8Size) rest

/-- Reads a regular expression from behind its opening slash up to its closing one. -/
def readRegexBody : Bool → Bool → Nat → List Char → Option Cursor
  | _, _, _, [] => none
  | inClass, escaped, offset, c :: rest =>
    let next := offset + c.utf8Size
    if isLineTerminator c then none
    else if escaped then readRegexBody inClass false next rest
    else if c == '\\' then readRegexBody inClass true next rest
    else if c == '[' then readRegexBody true false next rest
    else if c == ']' then readRegexBody false false next rest
    else if c == '/' && !inClass then some ⟨rest, next⟩
    else readRegexBody inClass false next rest

def isJsxNamePart (c : Char) : Bool := Text.isIdentifierPart c || c == '-'

/-- Text between JSX tags up to the next `<` or brace; a stray closing mark counts as two
mistakes. -/
def readJsxText : List Nat → Nat → List Char → Cursor × List Nat
  | faults, offset, [] => (⟨[], offset⟩, faults)
  | faults, offset, c :: rest =>
    if c == '<' || c == '{' then (⟨c :: rest, offset⟩, faults)
    else
      readJsxText (if c == '>' || c == '}' then offset :: offset :: faults else faults)
        (offset + c.utf8Size) rest

/-- A JSX attribute text up to its closing quote; it has no escapes. -/
def readJsxString (quote : Char) : Nat → List Char → Option Cursor
  | _, [] => none
  | offset, c :: rest =>
    if c == quote then some ⟨rest, offset + c.utf8Size⟩
    else readJsxString quote (offset + c.utf8Size) rest

end PageWiring.Script
