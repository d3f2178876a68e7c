import PageWiring.Fix.Basic
import PageWiring.Script.Declaration
import PageWiring.Script.Source

/-!
What a fix does to the text of a file.

A fix that does not fit the text is given up for a reason. One of them cannot even be given up: a
declaration whose stretch starts or ends inside a character stops the whole program.
-/
namespace PageWiring

/-- Why a fix does not fit a text. -/
inductive EditFault where
  | unparsable (file : String)
  | noDeclaration (name : String) (line : Nat)
  | noEventType
  | pastEnd (line : Nat)
  | noAttribute (event name : String) (line : Nat)
  deriving DecidableEq, Repr

def EditFault.message : EditFault → String
  | .unparsable file => s!"{file} no longer parses"
  | .noDeclaration name line => s!"no standalone declaration of '{name}' on line {line}"
  | .noEventType => "handler fix without an event type"
  | .pastEnd line => s!"line {line} is past the end of the file"
  | .noAttribute event name line => s!"no {event} attribute calling '{name}' at line {line}"

/-- Why a text was not edited. -/
inductive EditStop where
  /-- The fix is reported as failed. -/
  | unfit (fault : EditFault)
  /-- The stretch to be cut out does not start and end between characters. The program crashes. -/
  | torn (stretch : Script.Span)
  deriving DecidableEq, Repr

namespace Edit

open Script (Span)

/-! ### Removing a function -/

/-- Widens a stretch to full lines when nothing but blanks shares them. `before` and `after` are the
text on both sides of it. -/
def wholeLines (before after : List Char) (r : Span) : Span :=
  let lead := (before.reverse.takeWhile (· != '\n')).reverse
  let body := after.takeWhile (· != '\n')
  let trail := after.take (body.length + 1)
  if lead.all Text.isBlank && trail.all Text.isBlank then
    ⟨r.start - Text.byteLength lead, r.stop + Text.byteLength trail⟩
  else r

/-- The stretch that goes when a statement is removed: a semicolon right behind it goes too. -/
def removal (text : List Char) (r : Span) : Option Span := do
  let (before, _) ← Text.cut? text r.start
  let (_, after) ← Text.cut? text r.stop
  match after with
  | ';' :: rest => return wholeLines before rest ⟨r.start, r.stop + 1⟩
  | _ => return wholeLines before after r

/-- The text without a stretch. -/
def cutOut (text : List Char) (r : Span) : Option (List Char) := do
  let (before, _) ← Text.cut? text r.start
  let (_, after) ← Text.cut? text r.stop
  return before ++ after

/-- Cuts a declaration out, which is looked for by its name and line. -/
def removeFunction (text : List Char) (fix : Fix) : Except EditStop (List Char) :=
  match Script.Parsed.ofText (.ofFile fix.filePath) text with
  | .error _ => .error (.unfit (.unparsable fix.filePath))
  | .ok parsed =>
    match Script.findIn (Script.declares parsed.lineOf fix.functionName fix.line)
        parsed.tree.items with
    | none => .error (.unfit (.noDeclaration fix.functionName fix.line))
    | some span =>
      match (removal text (parsed.range span)).bind (cutOut text) with
      | some edited => .ok edited
      | none => .error (.torn (parsed.range span))

/-! ### Removing a handler -/

/-- The text behind a word, which may be in other case. -/
def dropFolded : List Char → List Char → Option (List Char)
  | [], cs => some cs
  | _ :: _, [] => none
  | w :: ws, c :: cs => if Text.foldCase w == Text.foldCase c then dropFolded ws cs else none

/-- The text behind an attribute value without quotes. -/
def dropBare (cs : List Char) : Option (List Char) :=
  let value := cs.takeWhile fun c => !Text.isBlank c && c != '>'
  if value.isEmpty then none else some (cs.drop value.length)

/-- The text behind an attribute value. A quote that is never closed does not count as one. -/
def dropValue : List Char → Option (List Char)
  | [] => none
  | c :: cs =>
    if c == '"' || c == '\'' then
      match cs.dropWhile (· != c) with
      | _ :: rest => some rest
      | [] => dropBare (c :: cs)
    else dropBare (c :: cs)

/-- The text behind an attribute, from its name on. -/
def dropAttribute (event cs : List Char) : Option (List Char) := do
  match (← dropFolded event cs).dropWhile Text.isBlank with
  | '=' :: rest => dropValue (rest.dropWhile Text.isBlank)
  | _ => none

/-- The text behind an attribute with at least one blank before it. -/
def attributeAt (event cs : List Char) : Option (List Char) :=
  let blanks := (cs.takeWhile Text.isBlank).length
  (List.range blanks).reverse.findSome? fun n => dropAttribute event (cs.drop (n + 1))

/-- The text before and behind the first attribute for an event that mentions a name. Attributes do
not overlap: the characters of one that does not mention it are skipped. -/
def findAttribute (event name : List Char) : Nat → List Char → Option (List Char × List Char)
  | _, [] => none
  | skip + 1, c :: cs => (findAttribute event name skip cs).map fun p => (c :: p.1, p.2)
  | 0, c :: cs =>
    match attributeAt event (c :: cs) with
    | some rest =>
      let found := (c :: cs).take (cs.length + 1 - rest.length)
      if Text.containsText name found then some ([], rest)
      else (findAttribute event name (found.length - 1) cs).map fun p => (c :: p.1, p.2)
    | none => (findAttribute event name 0 cs).map fun p => (c :: p.1, p.2)

def removeHandler (text : List Char) (fix : Fix) : Except EditFault (List Char) :=
  match fix.eventType with
  | none => .error .noEventType
  | some event =>
    match (Text.lineOffset text fix.line).bind (Text.cut? text) with
    | none => .error (.pastEnd fix.line)
    | some (before, below) =>
      match findAttribute event.toList fix.functionName.toList 0 below with
      | some (lead, rest) => .ok (before ++ lead ++ rest)
      | none => .error (.noAttribute event fix.functionName fix.line)

/-! ### Adding a function -/

/-- The text of a function that only warns. -/
def stub (name : String) : String :=
  "\nfunction " ++ name ++ "() \x7b\n  console.warn('" ++ name ++
    " is not implemented yet');\n\x7d\n"

/-- Adds a function behind the text, after an empty line. -/
def appendStub (text : List Char) (name : String) : List Char :=
  let ended := if text.isEmpty || text.getLast? == some '\n' then text else text ++ ['\n']
  ended ++ (stub name).toList

end Edit

/-- Applies a fix to a text. -/
def Fix.edit (fix : Fix) (text : List Char) : Except EditStop (List Char) :=
  match fix.kind with
  | .removeFunction => Edit.removeFunction text fix
  | .removeHandler => (Edit.removeHandler text fix).mapError .unfit
  | .addFunctionStub => .ok (Edit.appendStub text fix.functionName)

end PageWiring
