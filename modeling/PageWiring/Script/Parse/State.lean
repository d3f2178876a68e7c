import PageWiring.Script.Token

/-!
The state of reading a script, and the steps that every rule of the grammar is made of.

The reader looks at one token at a time and reads the next one only when asked, so that a rule can
read the same place again as a regular expression, a template or a piece of JSX. A mistake that
stops the reading is an error; one that does not is noted in `State.faults`. Both are offsets.
-/
namespace PageWiring.Script.Parse

/-- What the surroundings of a piece of text allow in it. -/
structure Ctx where
  typescript : Bool
  jsx : Bool
  isModule : Bool
  strict : Bool
  topLevel : Bool := true
  inFunction : Bool := false
  /-- Inside a function that is not an arrow function. -/
  inPlainFunction : Bool := false
  inAsync : Bool := false
  inGenerator : Bool := false
  inParams : Bool := false
  inClass : Bool := false
  inClassField : Bool := false
  inStaticBlock : Bool := false
  superAllowed : Bool := false
  breakAllowed : Bool := false
  continueAllowed : Bool := false
  /-- May `in` be an operator here? -/
  inOperator : Bool := true
  /-- Inside a TypeScript declaration without code. -/
  ambient : Bool := false
  /-- In the second or third part of a conditional expression. -/
  inConditional : Bool := false
  /-- In the second part of a conditional expression, where a colon must follow. -/
  colonFollows : Bool := false
  /-- In the second type of a conditional type. -/
  inExtends : Bool := false
  /-- In the first part of the head of a `for` loop. -/
  inLoopHead : Bool := false
  /-- In a loop that waits for its values. -/
  inAwaitLoop : Bool := false
  deriving DecidableEq, Repr

structure State where
  /-- The text from the current token on. -/
  here : Cursor
  token : Token
  /-- The text after the current token. -/
  after : Cursor
  /-- Mistakes in the current token. -/
  tokenFaults : List Nat
  /-- The token before the current one. -/
  prev : Span
  /-- Mistakes so far, the latest first. -/
  faults : List Nat
  labels : List String
  /-- Where an arrow function may start. -/
  arrowStart : Option Nat
  ctx : Ctx
  /-- The length of the text in bytes. -/
  size : Nat
  deriving DecidableEq, Repr

abbrev P := EStateM Nat State

def lexMode (ctx : Ctx) : LexMode where
  strict := ctx.strict
  isModule := ctx.isModule
  inAsync := ctx.inAsync
  inGenerator := ctx.inGenerator
  inStaticBlock := ctx.inStaticBlock

/-- Makes the token at a place the current one. -/
def State.moveTo (s : State) (c : Cursor) : State :=
  let lexeme := readToken (lexMode s.ctx) c
  { s with
    here := lexeme.start
    token := lexeme.token
    after := lexeme.cursor
    tokenFaults := lexeme.faults }

def State.init (ctx : Ctx) (text : Cursor) (size : Nat) : State :=
  State.moveTo {
    here := text
    token := ⟨.eof, ⟨0, 0⟩, false⟩
    after := text
    tokenFaults := []
    prev := ⟨0, 0⟩
    faults := []
    labels := []
    arrowStart := none
    ctx := ctx
    size := size } text

/-! ### Looking at tokens -/

def token : P Token := fun s => .ok s.token s

def ctx : P Ctx := fun s => .ok s.ctx s

/-- The offset where the current token starts. -/
def offset : P Nat := fun s => .ok s.token.span.start s

def prevSpan : P Span := fun s => .ok s.prev s

/-- The stretch from an offset to the end of the last token read. -/
def spanFrom (start : Nat) : P Span := fun s => .ok ⟨start, s.prev.stop⟩ s

/-- The token after the current one. -/
def peek : P Token := fun s => .ok (readToken (lexMode s.ctx) s.after).token s

def Tok.isPunct (t : Tok) (p : String) : Bool := t == .punct p

def Tok.isWord (t : Tok) (w : String) : Bool := t == .word w false

def Tok.isAnyWord : Tok → Bool
  | .word _ _ => true
  | _ => false

def Tok.isText : Tok → Bool
  | .text _ => true
  | _ => false

/-- Is the token a binary operator that is no word? -/
def Tok.isOperator : Tok → Bool
  | .punct p =>
    ["==", "!=", "===", "!==", "<", "<=", ">", ">=", "<<", ">>", ">>>", "+", "-", "*", "/", "%",
      "|", "^", "&", "||", "&&", "**", "??"].contains p
  | _ => false

def atPunct (p : String) : P Bool := fun s => .ok (Tok.isPunct s.token.tok p) s

def atWord (w : String) : P Bool := fun s => .ok (Tok.isWord s.token.tok w) s

def atEof : P Bool := fun s => .ok (s.token.tok == .eof) s

def newlineBefore : P Bool := fun s => .ok s.token.newlineBefore s

def isTypescript : P Bool := fun s => .ok s.ctx.typescript s

/-! ### Mistakes -/

/-- Where a mistake in the current token is reported: at the end of the text, the last token. -/
def State.faultOffset (s : State) : Nat :=
  match s.token.tok with
  | .eof => s.prev.start
  | _ => s.token.span.start

/-- Stops the reading. Where no token could be read, that mistake comes first. -/
def failAt (at_ : Nat) : P α := fun s =>
  match s.token.tok with
  | .bad offset => .error offset s
  | _ => .error at_ s

def fail : P α := fun s => failAt s.faultOffset s

/-- Stops the reading where the text ends too early. -/
def failOnEof : P Unit := fun s =>
  match s.token.tok with
  | .eof => .error s.size s
  | _ => .ok () s

/-- Notes a mistake and goes on. -/
def noteAt (at_ : Nat) : P Unit := fun s => .ok () { s with faults := at_ :: s.faults }

def note : P Unit := fun s => noteAt s.faultOffset s

/-- Notes a mistake that is one in strict code only. -/
def noteStrictAt (at_ : Nat) : P Unit := fun s => if s.ctx.strict then noteAt at_ s else .ok () s

/-! ### Consuming tokens -/

/-- Goes on at a place in the text; the current token ends there. -/
def continueAt (c : Cursor) : P Unit := fun s =>
  .ok () (State.moveTo { s with prev := ⟨s.token.span.start, c.offset⟩ } c)

def advance : P Unit := fun s =>
  continueAt s.after { s with faults := s.tokenFaults ++ s.faults }

def eat (p : String) : P Bool := do
  if ← atPunct p then advance; return true else return false

def eatWord (w : String) : P Bool := do
  if ← atWord w then advance; return true else return false

/-- Reads a mark that only TypeScript has here. -/
def eatTyped (p : String) : P Bool := do
  if ← isTypescript then eat p else return false

/-- Reads one of two marks. -/
def eatEither (p q : String) : P Bool := do
  if ← eat p then return true else eat q

def expect (p : String) : P Unit := do
  unless ← eat p do fail

def expectWord (w : String) : P Unit := do
  unless ← eatWord w do fail

/-- Reads a name or a keyword. -/
def expectAnyWord : P Unit := do
  match (← token).tok with
  | .word _ _ => advance
  | _ => fail

/-- Does a statement end here? A line break, a closing brace or the end of the text will do. -/
def atSemi : P Bool := fun s =>
  let t := s.token
  .ok (t.newlineBefore || t.tok == .eof || Tok.isPunct t.tok ";" || Tok.isPunct t.tok "\x7d") s

def eatSemi : P Bool := do
  if ← eat ";" then return true else atSemi

def expectSemi : P Unit := do
  unless ← eatSemi do fail

/-! ### Control -/

/-- Runs a rule in other surroundings. -/
def withCtx (f : Ctx → Ctx) (p : P α) : P α := fun s =>
  let old := s.ctx
  match p { s with ctx := f old } with
  | .ok a s => .ok a { s with ctx := old }
  | .error e s => .error e { s with ctx := old }

/-- Runs a rule with a set of labels of its own. -/
def withLabels (labels : List String) (p : P α) : P α := fun s =>
  let old := s.labels
  match p { s with labels := labels } with
  | .ok a s => .ok a { s with labels := old }
  | .error e s => .error e { s with labels := old }

/-- Runs a rule; when it fails nothing has been read. Mistakes that do not stop the rule count for
nothing, those in the token after it included. -/
def attempt (p : P α) : P (Option α) := fun s =>
  match p s with
  | .ok a after => .ok (some a) { after with faults := s.faults, tokenFaults := [] }
  | .error _ _ => .ok none s

/-- Would a rule succeed here? Nothing is read. -/
def wouldRead (p : P α) : P Bool := fun s =>
  match p s with
  | .ok _ _ => .ok true s
  | .error _ _ => .ok false s

/-- Runs a rule; when it fails the reading goes on where it stopped. -/
def recover (p : P α) : P (Except Nat α) := fun s =>
  match p s with
  | .ok a s => .ok (.ok a) s
  | .error e s => .ok (.error e) s

def iterateFor (step : α → P (Option α)) : Nat → α → P α
  | 0, a => pure a
  | n + 1, a => do
    match ← step a with
    | some b => iterateFor step n b
    | none => return a

/-- Repeats a step until it gives nothing. A step that goes on reads at least one character. -/
def iterate (step : α → P (Option α)) (a : α) : P α := fun s =>
  iterateFor step (s.size + 2 - s.token.span.start) a s

/-- The results of a step, repeated until it gives nothing. -/
def many (step : P (Option α)) : P (List α) := do
  let found ← iterate (fun acc => return (← step).map (· :: acc)) []
  return found.reverse

end PageWiring.Script.Parse
