import PageWiring.Script.Parse.Variable

/-!
Statements.
-/
namespace PageWiring.Script.Parse

private def statementNode (start : Nat) (parts : List Node) : P Node := do
  return .compound (← spanFrom start) .statement parts

/-- An expression in parentheses, as after `if`. -/
private def condition (r : Rules) : P Node := do
  expect "("
  let test ← r.inner
  expect ")"
  return test

def blockStatement (r : Rules) : P Node := do
  let start ← offset
  statementNode start (← block r)

private def inLoopBody (c : Ctx) : Ctx := { c with breakAllowed := true, continueAllowed := true }

private def breakStatement : P Node := do
  let start ← offset
  let isBreak ← atWord "break"
  advance
  let label ← if ← eatSemi then pure none
    else do
      let id ← parseIdent
      expectSemi
      pure (some id.name)
  let s ← get
  let known := label.all s.labels.contains
  if isBreak then
    unless known && s.ctx.breakAllowed do noteAt start
  else
    unless known && s.ctx.continueAllowed do noteAt start
  statementNode start []

private def doStatement (r : Rules) : P Node := do
  let start ← offset
  advance
  let body ← withCtx inLoopBody (r.statement .single)
  expectWord "while"
  let test ← condition r
  let _ ← eatSemi
  statementNode start [test, body]

private def whileStatement (r : Rules) : P Node := do
  let start ← offset
  advance
  let test ← condition r
  let body ← withCtx inLoopBody (r.statement .single)
  statementNode start [test, body]

private def ifStatement (r : Rules) : P Node := do
  let start ← offset
  advance
  let test ← condition r
  let yes ← r.statement .single
  let no ← if ← eatWord "else" then do pure [← r.statement .single] else pure []
  statementNode start (test :: yes :: no)

private def returnStatement (r : Rules) : P Node := do
  let start ← offset
  advance
  let value ← if ← atSemi then pure [] else pure [← r.inner]
  expectSemi
  unless (← ctx).inFunction do noteAt start
  statementNode start value

private def throwStatement (r : Rules) : P Node := do
  let start ← offset
  advance
  if ← newlineBefore then fail
  let value ← r.inner
  expectSemi
  statementNode start [value]

/-- The cases of a `switch`, of which one may be the default. -/
private def switchCases (r : Rules) : P (List Node) := do
  let (found, _) ← iterate (fun (acc, hasDefault) => do
    let isDefault ← atWord "default"
    unless isDefault || (← atWord "case") do return none
    advance
    if isDefault && hasDefault then fail
    let test ← if isDefault then pure [] else pure [← r.inner]
    expect ":"
    let body ← many do
      if (← atEof) || (← atPunct "\x7d") || (← atWord "case") || (← atWord "default") then
        return none
      return some (← r.statement .list)
    return some (acc ++ test ++ body, hasDefault || isDefault)) (([] : List Node), false)
  return found

private def switchStatement (r : Rules) : P Node := do
  let start ← offset
  advance
  let subject ← condition r
  expect "\x7b"
  let cases ← withCtx (fun c => { c with breakAllowed := true }) (switchCases r)
  expect "\x7d"
  statementNode start (subject :: cases)

private def catchClause (r : Rules) : P (Option (List Node)) := do
  unless ← eatWord "catch" do return none
  let param ← if ← eat "(" then do
      let target ← r.pattern false
      let target := annotate target (← annotation r)
      expect ")"
      pure [target]
    else pure []
  let body ← block r
  return some (param ++ body)

private def finallyClause (r : Rules) : P (Option (List Node)) := do
  unless ← eatWord "finally" do return none
  return some (← block r)

private def tryStatement (r : Rules) : P Node := do
  let start ← offset
  advance
  let body ← block r
  let here ← offset
  let handler ← catchClause r
  let finalizer ← finallyClause r
  if handler.isNone && finalizer.isNone then noteAt here
  statementNode start (body ++ handler.getD [] ++ finalizer.getD [])

/-- A `catch` or `finally` that follows no `try`. -/
private def strayClause (r : Rules) : P Node := do
  let start ← offset
  note
  let _ ← recover (catchClause r)
  let _ ← recover (finallyClause r)
  statementNode start []

private def withStatement (r : Rules) : P Node := do
  let start ← offset
  if ← isTypescript then noteAt start
  noteStrictAt start
  advance
  let subject ← condition r
  let body ← r.statement .single
  statementNode start [subject, body]

/-- The rest of a loop head after `of` or `in`, with that word. -/
private def loopSubject (r : Rules) : P Node := do
  let isOf ← atWord "of"
  advance
  if isOf then r.innerAssign else r.inner

/-- The rest of a loop head after its first semicolon. The second one may be missing. -/
private def loopClauses (r : Rules) : P (List Node) := do
  let test ← if ← eat ";" then pure []
    else do
      let e ← r.inner
      let _ ← eat ";"
      pure [e]
  let update ← if ← atPunct ")" then pure [] else pure [← r.inner]
  return test ++ update

private def hasValue : Node → Bool
  | .declarator _ _ (_ :: _) => true
  | _ => false

/-- Does `of` or `in` follow at once where a variable of the loop should be declared? -/
private def lacksVariable (r : Rules) : P Bool := do
  if !(← isTypescript) || !((← atWord "of") || (← atWord "in")) then return false
  wouldRead do
    advance
    let _ ← r.assign
    expect ")"

/-- The head of a loop that declares variables, after the word that does. -/
private def declaredHead (r : Rules) (kind : VarKind) (start : Nat) : P (List Node × Bool) := do
  let strict := (← ctx).strict
  let declared ← if ← lacksVariable r then do
      noteAt start
      pure []
    else withCtx (fun c => { c with inOperator := false }) (varDeclarators r kind true)
  let vars : Node := .compound (← spanFrom start) .forVars (declared.map (·.node))
  let isOf ← atWord "of"
  if isOf || (← atWord "in") then
    match declared with
    | [d] =>
      if (strict || isOf) && hasValue d.node then noteAt d.node.span.start
      if d.isAnnotated then noteAt d.node.span.start
    | ds => for d in ds do noteAt d.node.span.start
    return ([vars, ← loopSubject r], isOf)
  expect ";"
  return (vars :: (← loopClauses r), false)

/-- Is the first part of a loop head the word `using`, or `await using`, before a variable? -/
private def isUsing : Node → Bool
  | .ident id => id.name == "using"
  | .compound _ .await [.ident id] => id.name == "using"
  | _ => false

/-- The head of a loop that declares nothing, or a variable with `using`. -/
private def plainHead (r : Rules) : P (List Node × Bool) := do
  let start ← offset
  let init ← withCtx (fun c => { c with inOperator := false, inLoopHead := true }) r.expr
  let next := (← peek).tok
  if (← isTypescript) && isUsing init && !(← atWord "of") &&
      (Tok.isWord next "of" || Tok.isWord next "in") then
    let id ← parseBindingIdent false
    let isOf ← atWord "of"
    unless isOf do noteAt start
    let vars : Node := .compound (← spanFrom start) .forVars
      [.declarator (← spanFrom start) (.binding id []) []]
    return ([vars, ← loopSubject r], isOf)
  let isOf ← atWord "of"
  if isOf || (← atWord "in") then
    let target ← loopTarget init
    if !isOf && (← isTypescript) then
      if let .compound span kind _ := target then
        if kind == .objectPattern || kind == .arrayPattern then noteAt span.start
    return ([target, ← loopSubject r], isOf)
  expect ";"
  return (init :: (← loopClauses r), false)

/-- The head of a `for` loop: its parts, and whether it is one with `of`. -/
private def loopHead (r : Rules) : P (List Node × Bool) := do
  let start ← offset
  let kind? : Option VarKind := match (← token).tok with
    | .word w false => VarKind.ofWord? w
    | _ => none
  let declares := kind? != some .block || followsLet { (← ctx) with strict := false } (← peek)
  match kind?, declares with
  | some kind, true => do
    advance
    declaredHead r kind start
  | _, _ => if ← eat ";" then return (← loopClauses r, false) else plainHead r

private def forStatement (r : Rules) : P Node := do
  let start ← offset
  advance
  let awaitAt ← offset
  let isAwait ← eatWord "await"
  expect "("
  let (head, isOf) ← withCtx (fun c => { c with inAwaitLoop := isAwait }) (loopHead r)
  expect ")"
  let body ← withCtx inLoopBody (r.statement .single)
  if isAwait && !isOf then failAt awaitAt
  statementNode start (head ++ [body])

/-- The statement that a label names. -/
private def labelledStatement (r : Rules) (label : Ident) : P Node := do
  let outer := (← get).labels
  let body ← withCtx (fun c => { c with breakAllowed := true }) do
    withLabels (label.name :: outer) do
      if ← atWord "function" then
        let start ← offset
        let isGenerator := Tok.isPunct (← peek).tok "*"
        let f ← functionDecl r start false
        noteStrictAt start
        if isGenerator then noteAt start
        return f
      else r.statement .single
  if outer.contains label.name then noteAt label.span.start
  return body

/-- An expression as a statement, or a label. -/
private def expressionStatement (r : Rules) : P Node := do
  let start ← offset
  let e ← r.inner
  if let .ident id := e then
    if ← eat ":" then
      let body ← labelledStatement r id
      return ← statementNode start [body]
  if ← eatSemi then return ← statementNode start [e]
  -- an operator can follow only where the expression could not go on, as after an arrow function
  if Tok.isOperator (← token).tok then
    note
    let e ← r.operators 0 e
    statementNode start [e]
  else fail

/-- `import(…)` or `import.meta` at the start of a statement. -/
def importStatement (r : Rules) : P Node := do
  let start ← offset
  let next := (← peek).tok
  unless Tok.isPunct next "(" || Tok.isPunct next "." do fail
  let e ← r.inner
  let _ ← eatSemi
  statementNode start [e]

/-- A statement that is no declaration of TypeScript. -/
def plainStatement (r : Rules) (place : Place) : P Node := do
  failOnEof
  let start ← offset
  let t ← token
  let declares := place != .single
  match t.tok with
  | .punct "\x7b" => blockStatement r
  | .punct ";" => advance; statementNode start []
  | .word w false =>
    match w with
    | "break" => breakStatement
    | "continue" => breakStatement
    | "debugger" => do
      advance
      expectSemi
      statementNode start []
    | "do" => doStatement r
    | "for" => forStatement r
    | "function" => do
      unless declares do note
      functionDecl r start false
    | "class" => do
      unless declares do note
      classDecl r start false
    | "if" => ifStatement r
    | "return" => returnStatement r
    | "switch" => switchStatement r
    | "throw" => throwStatement r
    | "catch" => strayClause r
    | "finally" => strayClause r
    | "try" => tryStatement r
    | "with" => withStatement r
    | "while" => whileStatement r
    | "var" => varStatement r .function
    | "import" => importStatement r
    | "export" => fail
    | "const" => if declares then varStatement r .constant else expressionStatement r
    | "let" => do
      if declares && followsLet (← ctx) (← peek) then varStatement r .block
      else expressionStatement r
    | "using" => do
      if declares && (← atUsing) then usingStatement r start else expressionStatement r
    | "await" => do
      let c ← ctx
      if c.topLevel && !c.isModule then note
      let isUsing ← if declares then wouldRead do
          advance
          unless ← atUsing do fail
        else pure false
      if isUsing then
        advance
        usingStatement r start
      else expressionStatement r
    | "async" => do
      if ← atAsyncFunction then asyncFunctionDecl r else expressionStatement r
    | _ => expressionStatement r
  | _ => expressionStatement r

end PageWiring.Script.Parse
