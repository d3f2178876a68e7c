import PageWiring.Script.Parse.Class
import PageWiring.Script.Parse.Target

/-!
Declarations of variables, functions and classes.
-/
namespace PageWiring.Script.Parse

inductive VarKind where
  | constant | block | function
  deriving DecidableEq, Repr

def VarKind.ofWord? : String → Option VarKind
  | "const" => some .constant
  | "let" => some .block
  | "var" => some .function
  | _ => none

private def isName : Node → Bool
  | .binding _ _ => true
  | _ => false

/-- A declared variable, or the pattern of several. -/
structure Declared where
  node : Node
  /-- Does it have a type? -/
  isAnnotated : Bool

/-- One variable with its initial value. In the head of a loop the value may come later. -/
private def varDeclarator (r : Rules) (kind : VarKind) (inLoop : Bool) : P Declared := do
  let start ← offset
  let name ← r.pattern (kind != .function)
  if (← isTypescript) && isName name then
    let _ ← eat "!"
  let isAnnotated := (← isTypescript) && (← atPunct ":")
  let name := annotate name (← annotation r)
  let loopsOver := inLoop && ((← atWord "in") || (← atWord "of"))
  if loopsOver then return ⟨.declarator (← spanFrom start) name [], isAnnotated⟩
  if ← eat "=" then
    let value ← r.assign
    return ⟨.declarator (← spanFrom start) name [value], isAnnotated⟩
  unless (← ctx).ambient do
    if kind == .constant && !inLoop then noteAt start
    else unless isName name do failAt start
  return ⟨.declarator (← spanFrom start) name [], isAnnotated⟩

/-- Declarations with commas between them. A comma that nothing follows is noted. -/
private def declaratorList (declareOne : P Declared) : P (List Declared) := do
  let (found, _) ← iterate (fun (acc, more) => do
    if !more then return none
    if ← atPunct ";" then
      noteAt (← prevSpan).start
      return some (acc, false)
    let d ← declareOne
    return some (d :: acc, ← eat ",")) (([] : List Declared), true)
  return found.reverse

/-- The variables after `var`, `let` or `const`. -/
def varDeclarators (r : Rules) (kind : VarKind) (inLoop : Bool) : P (List Declared) :=
  declaratorList <|
    withCtx (fun c => { c with inOperator := c.inOperator || kind != .function || !inLoop })
      (varDeclarator r kind inLoop)

/-- Skips the rest of a declaration that does not end where it should. -/
private def skipDeclaration (r : Rules) : P Unit := do
  note
  let _ ← recover r.expr
  iterate (fun _ => do
    if ← eatSemi then return none
    advance
    match (← token).tok with
    | .bad _ => return none
    | _ => return some ()) ()

/-- A variable statement; the current token is its first word. -/
def varStatement (r : Rules) (kind : VarKind) : P Node := do
  let start ← offset
  advance
  let declared ← withIn (varDeclarators r kind false)
  unless ← eatSemi do skipDeclaration r
  return .vars (← spanFrom start) (declared.map (·.node))

/-- Does `using` stand here, with the name of a variable after it on the same line? -/
def atUsing : P Bool := do
  return (← atWord "using") && !(← peek).newlineBefore && (← peekName)

/-- Is the declarator one of a name, with a value? -/
private def isPlainUse : Node → Bool × Bool
  | .declarator _ name value => (isName name, !value.isEmpty)
  | _ => (true, true)

/-- Variables whose values are given back at the end of their block. The current token is `using`.
Only TypeScript has them; elsewhere that is noted. -/
def usingStatement (r : Rules) (start : Nat) : P Node := do
  advance
  let declared ← withIn (declaratorList (varDeclarator r .function false))
  unless ← isTypescript do noteAt start
  for d in declared do
    let (isNamed, hasValue) := isPlainUse d.node
    unless isNamed do noteAt start
    unless hasValue do noteAt start
  expectSemi
  return .compound (← spanFrom start) .forVars (declared.map (·.node))

/-- Can the token after `let` only be what it declares? -/
def followsLet (c : Ctx) (t : Token) : Bool :=
  match t.tok with
  | .punct "[" => true
  | .punct "\x7b" => true
  | .word w _ =>
    ["let", "yield", "await", "enum"].contains w || !c.reserves w || strictWords.contains w
  | _ => false

def classDecl (r : Rules) (start : Nat) (isAbstract : Bool) : P Node := do
  let c ← classParts r true isAbstract
  return .classNode (← spanFrom start) c.name c.members c.superClass c.types

/-- Does `async function` stand here, on one line? -/
def atAsyncFunction : P Bool := do
  if !(← atWord "async") then return false
  let next ← peek
  return Tok.isWord next.tok "function" && !next.newlineBefore

def asyncFunctionDecl (r : Rules) : P Node := do
  let start ← offset
  advance
  functionDecl r start true

end PageWiring.Script.Parse
