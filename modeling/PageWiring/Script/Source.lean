import PageWiring.Diagnostic
import PageWiring.Script.Facts
import PageWiring.Script.Parse
import PageWiring.Text.Line

/-!
Scripts as files: which language they are in, and what is learned from their text.

A script is read as a module, and as a classic script when it is no module. When it is neither, the
mistake in the module counts.
-/
namespace PageWiring.Script

inductive Language where
  | javascript | typescript | jsx | tsx
  deriving DecidableEq, Repr

namespace Language

def name : Language → String
  | .javascript => "JavaScript"
  | .typescript => "TypeScript"
  | .jsx => "Jsx"
  | .tsx => "Tsx"

/-- The language of a file, by what follows the last dot of its name. -/
def ofFile (file : String) : Language :=
  let last := (Text.splitAt '.' file.toList).getLastD []
  match String.ofList (last.flatMap Text.toLowercase) with
  | "ts" => .typescript
  | "mts" => .typescript
  | "cts" => .typescript
  | "tsx" => .tsx
  | "jsx" => .jsx
  | _ => .javascript

def hasTypes (l : Language) : Bool := l == .typescript || l == .tsx

/-- Plain scripts may have JSX too. -/
def hasJsx (l : Language) : Bool := l != .typescript

end Language

/-- A script that could be read. Offsets in the tree count from behind a byte order mark, and are
applied to the text with it. -/
structure Parsed where
  text : List Char
  tree : Tree

/-- Reads a text in a language; an error is the line of the mistake. -/
def Parsed.ofText (language : Language) (text : List Char) : Except Nat Parsed :=
  let body := Text.withoutMark text
  match parseModule language.hasTypes language.hasJsx body with
  | .ok tree => .ok ⟨text, tree⟩
  | .error offset =>
    match parseScript language.hasTypes language.hasJsx body with
    | .ok tree => .ok ⟨text, tree⟩
    | .error _ => .error (Text.lineAt (Text.looseLineStarts 0 body) offset)

namespace Parsed

/-- The stretch of the text that a stretch of the tree stands for. -/
def range (p : Parsed) (span : Span) : Span :=
  let size := Text.byteLength p.text
  ⟨min span.start size, min span.stop size⟩

/-- The line on which a stretch starts, in a text of a size whose lines start at the given
offsets. -/
def lineIn (starts : List Nat) (size : Nat) (span : Span) : Nat :=
  Text.lineAt starts (min span.start size)

/-- The line on which a stretch of the tree starts. -/
def lineOf (p : Parsed) (span : Span) : Nat :=
  lineIn (Text.lineStarts 0 p.text) (Text.byteLength p.text) span

/-- The lines of the mistakes that did not stop the reading. -/
def faultLines (p : Parsed) : List Nat :=
  let starts := Text.looseLineStarts 0 (Text.withoutMark p.text)
  p.tree.faults.map (Text.lineAt starts)

end Parsed

/-- What is learned from the text of one script. -/
def FileModel.ofSource (filePath : String) (text : String) : Except FileDiagnostic FileModel :=
  match Parsed.ofText (.ofFile filePath) text.toList with
  | .error line => .error ⟨filePath, .syntaxError line⟩
  | .ok parsed =>
    let starts := Text.lineStarts 0 parsed.text
    let size := Text.byteLength parsed.text
    let scope : Scope := { filePath := filePath, lineOf := Parsed.lineIn starts size }
    .ok (FileModel.ofFacts filePath parsed.faultLines (learnedFrom scope parsed.tree.items))

/-- What is learned from a set of scripts. -/
structure Scan where
  functions : Functions := {}
  diagnostics : List FileDiagnostic := []
  filesScanned : Nat := 0
  deriving DecidableEq, Repr

namespace Scan

def addModel (s : Scan) (m : FileModel) : Scan where
  functions :=
    let defined := m.definitions.foldl Functions.define s.functions
    let queried := m.queries.foldl Functions.addQuery defined
    m.calls.foldl (fun f c => f.addCall c.1 c.2) queried
  diagnostics := s.diagnostics ++ m.recoveredLines.map fun line => ⟨m.filePath, .syntaxError line⟩
  filesScanned := s.filesScanned + 1

def add (s : Scan) : Except FileDiagnostic FileModel → Scan
  | .ok m => s.addModel m
  | .error d => { s with diagnostics := s.diagnostics ++ [d] }

/-- Joins the results of single files, in their order. -/
def merge (results : List (Except FileDiagnostic FileModel)) : Scan :=
  results.foldl Scan.add {}

end Scan

end PageWiring.Script
