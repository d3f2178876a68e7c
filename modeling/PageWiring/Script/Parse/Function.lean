import PageWiring.Script.Parse.TypeSyntax

/-!
Parameters and bodies of functions.
-/
namespace PageWiring.Script.Parse

/-- The statement that asks for strictness. It has to be written without escapes, so its text is
twelve bytes long with its quotes. -/
def isUseStrict (text : Span) (value : String) : Bool :=
  value == "use strict" && text.stop == text.start + 12

/-- Where a body asks for strictness among the strings it starts with. -/
private def useStrict? : List Node → Option Nat
  | .compound span .statement [.text text value] :: rest =>
    if text.start != span.start then none
    else if isUseStrict text value then some span.start
    else useStrict? rest
  | _ => none

/-- Makes the code from here on strict when it starts with the text that asks for it. What follows
that text does not matter. -/
def readDirective : P Unit := do
  let t ← token
  match t.tok with
  | .text value =>
    if isUseStrict t.span value then
      modify fun s => { s with ctx := { s.ctx with strict := true } }
  | _ => return

/-- Statements up to a closing brace, which is read too. A brace that is missing at the end of the
text is only noted. `directives` says whether the code may ask for strictness. -/
def blockBody (r : Rules) (directives : Bool) : P (List Node) := do
  let statements ← withCtx id do
    if directives then readDirective
    many do
      if ← atEof then note; return none
      if ← atPunct "\x7d" then return none
      return some (← r.statement .list)
  let _ ← eat "\x7d"
  return statements

/-- A block with its braces. -/
def block (r : Rules) : P (List Node) := do
  expect "\x7b"
  blockBody r false

/-- The parts of a function after its name. -/
structure FunctionParts where
  params : List Node
  body : List Node
  /-- In TypeScript the body may be missing. -/
  hasBody : Bool
  generics : List Node
  result : List Node

def FunctionParts.types (f : FunctionParts) : List Node := f.generics ++ f.result

def insideFunction (isAsync isGenerator isArrow : Bool) (c : Ctx) : Ctx :=
  { c with
    inAsync := isAsync
    inGenerator := isGenerator
    inStaticBlock := false
    breakAllowed := false
    continueAllowed := false
    topLevel := false
    inFunction := true
    inPlainFunction := c.inPlainFunction || !isArrow
    inParams := false
    inClassField := c.inClassField && isArrow
    inLoopHead := false
    inAwaitLoop := false
    colonFollows := false }

/-- The body of a function in braces. Parameters that do more than name something rule out a body
that asks for strictness; the body of an arrow function asks in vain. -/
def functionBody (r : Rules) (isAsync isGenerator isArrow simple : Bool) : P (List Node) := do
  if (← ctx).ambient && (← atPunct "\x7b") then note
  withCtx (insideFunction isAsync isGenerator isArrow) do
    withLabels [] do
      expect "\x7b"
      let body ← withIn (blockBody r (!isArrow))
      unless simple do
        if let some at_ := useStrict? body then noteAt at_
      return body

/-- The body of an arrow function: a block or an expression. -/
def arrowBody (r : Rules) (isAsync simple : Bool) : P (List Node) := do
  if ← atPunct "\x7b" then functionBody r isAsync false true simple
  else
    withCtx (fun c =>
        { insideFunction isAsync false true c with colonFollows := c.colonFollows }) do
      withLabels [] do
        return [← r.assign]

/-- The body of a function, or in TypeScript the end of a statement in its place. -/
def optionalBody (r : Rules) (isAsync isGenerator : Bool) (params : Params) :
    P (Option (List Node)) := do
  let noBody ← if (← isTypescript) && !(← atPunct "\x7b") then eatSemi else pure false
  if noBody then return none
  else return some (← functionBody r isAsync isGenerator false params.simple)

/-- Parameters, result type and body. Without a body no parameter has a default value. -/
def functionParts (r : Rules) (isAsync isGenerator : Bool) (check : Params → P Unit) :
    P FunctionParts := do
  withCtx (fun c => { c with
      inAsync := isAsync
      inGenerator := isGenerator
      colonFollows := false }) do
    let generics ← optionalTypeParams r
    expect "("
    let params ← withCtx (fun c => { c with inParams := true, inFunction := false })
      (withIn (parseParams r))
    check params
    expect ")"
    let result ← returnType r
    let body ← optionalBody r isAsync isGenerator params
    if body.isNone then
      for p in params.nodes do
        if let .compound span .withDefault _ := p then noteAt span.start
    return ⟨params.nodes, body.getD [], body.isSome, generics, result⟩

def anyParams (_ : Params) : P Unit := pure ()

/-- A getter has no parameters; a mistake is noted at a place of its own. -/
def getterParams (at_ : Nat) (params : Params) : P Unit := do
  unless params.arity = 0 do noteAt at_

/-- A setter has one parameter, which is no rest parameter. -/
def setterParams (at_ : Nat) (params : Params) : P Unit := do
  unless params.arity = 1 do noteAt at_
  if let .compound span .rest _ :: _ := params.nodes then noteAt span.start

/-- What a plain function does not take over from around it. -/
def plainFunctionCtx (c : Ctx) : Ctx :=
  { c with superAllowed := false, inClassField := false, colonFollows := false }

/-- `function` and what follows; `start` is that of `async` if there is one. A declaration gives
`none` for the name only where the name may be missing. -/
def functionAfter (r : Rules) (isAsync isExpr nameRequired : Bool) :
    P (Option Ident × FunctionParts) := do
  expectWord "function"
  let isGenerator ← eat "*"
  let nameCtx (c : Ctx) : Ctx :=
    if isExpr then { c with inAsync := isAsync, inGenerator := isGenerator, inClassField := false }
    else { c with inClassField := false }
  let name ← withCtx nameCtx do
    if nameRequired || (← atName) then some <$> parseBindingIdent false else pure none
  let parts ← withCtx plainFunctionCtx (functionParts r isAsync isGenerator anyParams)
  if isExpr && !parts.hasBody then fail
  return (name, parts)

def functionExpr (r : Rules) (start : Nat) (isAsync : Bool) : P Node := do
  let (name, parts) ← functionAfter r isAsync true false
  return .function (← spanFrom start) name parts.params parts.body parts.types

def functionDecl (r : Rules) (start : Nat) (isAsync : Bool) : P Node := do
  let (name, parts) ← functionAfter r isAsync false true
  return .functionDecl (← spanFrom start) (name.getD ⟨"", ⟨start, start⟩⟩) parts.params parts.body
    parts.types

end PageWiring.Script.Parse
