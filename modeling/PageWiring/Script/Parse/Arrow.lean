import PageWiring.Script.Parse.Function
import PageWiring.Script.Parse.Target

/-!
Parentheses and arrow functions.

Whether a parenthesis opens the parameters of an arrow function is only known at the arrow. What is
in it is read once, as expressions, and becomes parameters when an arrow follows.
-/
namespace PageWiring.Script.Parse

/-- An expression, or `...` and one. -/
def spreadOrExpr (r : Rules) : P Node := do
  let start ← offset
  if ← eat "..." then
    let value ← r.innerAssign
    return .compound (← spanFrom start) .spread [value]
  else r.innerAssign

/-- What stands between two commas in parentheses. -/
structure ParenItem where
  /-- An expression, one after `...`, or a pattern. -/
  node : Node
  /-- Only a parameter can be written like this. -/
  isPattern : Bool := false

private def isIdent : Node → Bool
  | .ident _ => true
  | _ => false

/-- An operand in TypeScript that may also be a parameter with a question mark or a type. -/
private def operandOrParam (r : Rules) : P Node := do
  let start ← offset
  if ← eat "..." then
    let value ← r.binary
    return .compound (← spanFrom start) .spread [value]
  finishAssign r (← r.binary)

/-- The question mark of an optional parameter, or the rest of a conditional expression. -/
private def optionalMark (r : Rules) (arg : Node) : P (Node × Bool) := do
  if !(← atPunct "?") then return (arg, false)
  let marks := match (← peek).tok with
    | .punct p => [",", ":", ")", "="].contains p
    | _ => false
  let isSpread := match arg with
    | .compound _ .spread _ => true
    | _ => false
  if marks then
    advance
    if isSpread then noteAt (← prevSpan).start
    let inner := match arg with
      | .compound _ .spread [value] => value
      | other => other
    unless isIdent inner do failAt arg.span.start
    return (arg, true)
  else if isSpread then return (arg, false)
  else
    advance
    let yes ← withCtx (fun c =>
      { c with inOperator := true, inConditional := true, colonFollows := true }) r.assign
    expect ":"
    let no ← withCtx (fun c => { c with inConditional := true, colonFollows := false }) r.assign
    return (.compound (← spanFrom arg.span.start) .conditional [arg, yes, no], false)

/-- A parameter that shows as one by its question mark or type. -/
private def typedParam (r : Rules) (start : Nat) (arg : Node) : P Node := do
  let (inner, isSpread) := match arg with
    | .compound _ .spread [value] => (value, true)
    | other => (other, false)
  let target ← toElement .binding inner
  let target ← if isSpread then pure (Node.compound (← spanFrom start) .rest [target])
    else pure target
  let target ← match target with
    | .compound _ .invalid _ => pure target
    | .compound span .withDefault parts => do
      let types ← annotation r
      unless types.isEmpty do noteAt span.start
      pure (Node.compound span .withDefault (parts ++ types))
    | other => do pure (annotate other (← annotation r))
  if ← eat "=" then
    let value ← r.assign
    return .compound (← spanFrom start) .withDefault [target, value]
  else return target

private def parenItem (r : Rules) : P ParenItem := do
  let start ← offset
  modify fun s => { s with arrowStart := some start }
  let hasModifier ← eatParamModifier
  let patternAt ← offset
  let ts ← isTypescript
  let named ← if ← atPunct "..." then peekName else atName
  let arg ← if ts && named then operandOrParam r else spreadOrExpr r
  let (arg, isOptional) ← if ts then optionalMark r arg else pure (arg, false)
  let item ← if isOptional || (ts && (← atPunct ":")) then do
      pure { node := ← typedParam r patternAt arg, isPattern := true : ParenItem }
    else pure { node := arg }
  if hasModifier then noteAt start
  return item

private def noteInvalidNames : Node → P Unit
  | .binding id _ => do
    if id.name == "eval" || id.name == "arguments" then noteStrictAt id.span.start
  | .compound _ kind parts => do
    if [Compound.arrayPattern, .objectPattern, .rest].contains kind then inParts parts
    else if kind == .withDefault then inFirst parts
  | _ => return
where
  inParts : List Node → P Unit
    | [] => return
    | n :: rest => do
      noteInvalidNames n
      inParts rest
  inFirst : List Node → P Unit
    | [] => return
    | n :: _ => noteInvalidNames n

private def isRestParam : Node → Bool
  | .compound _ .spread _ => true
  | .compound _ .rest _ => true
  | _ => false

/-- Items as the parameters of an arrow function. Only the last may be a rest parameter, which no
comma follows. -/
private def itemsAsParams (comma : Option Nat) : List ParenItem → P (List Node)
  | [] => return []
  | [item] => do
    if isRestParam item.node then
      if let some at_ := comma then noteAt at_
    match item.node with
    | .compound span .spread [value] => do
      if let .assign _ _ _ _ := value then noteAt span.start
      return [.compound span .rest [← toElement .binding value]]
    | node => if item.isPattern then return [node] else return [← toElement .binding node]
  | item :: rest => do
    if isRestParam item.node then
      noteAt item.node.span.start
      itemsAsParams comma rest
    else
      let param ← if item.isPattern then pure item.node else toElement .binding item.node
      return param :: (← itemsAsParams comma rest)

private def arrowParams (comma : Option Nat) (items : List ParenItem) : P Params := do
  let nodes ← itemsAsParams comma items
  for n in nodes do noteInvalidNames n
  let simple := nodes.all fun
    | .binding _ _ => true
    | _ => false
  return { nodes := nodes, simple := simple }

private def arrowAfter (r : Rules) (start : Nat) (isAsync : Bool) (params : Params)
    (types : List Node) : P Node := do
  let body ← arrowBody r isAsync params.simple
  return .arrow (← spanFrom start) params.nodes body types

/-- An arrow after a name that the line break before it has kept apart. -/
private def lateArrow (r : Rules) (start : Nat) (items : List ParenItem) :
    P (Option ParenItem) := do
  if !(← eat "=>") then return none
  match items.head? with
  | some { node := .ident _, .. } =>
    return some { node := ← arrowAfter r start false (← arrowParams none items) [] }
  | some { node := .binding _ _, .. } =>
    return some { node := ← arrowAfter r start false (← arrowParams none items) [] }
  | _ => return none

/-- The items between parentheses, and the place of a comma before the closing one. -/
private def parenItems (r : Rules) : P (List ParenItem × Option Nat) :=
  withCtx (fun c => { c with inOperator := true, colonFollows := false }) do
    expect "("
    let (items, comma) ← iterate (fun (acc : List ParenItem × Option Nat) => do
      if (← atEof) || (← atPunct ")") then return none
      let start ← offset
      let item ← parenItem r
      let items := acc.1 ++ [item]
      let items := items ++ (← lateArrow r start items).toList
      unless ← atPunct ")" do
        expect ","
        if ← atPunct ")" then return some (items, some (← prevSpan).start)
      return some (items, none)) ([], none)
    expect ")"
    return (items, comma)

/-- Notes the default values in an object literal that is no pattern. -/
private def noteDefaults (item : ParenItem) : P Unit := do
  if let .object _ props := item.node then
    for p in props do
      if let .compound span .shorthandDefault _ := p then noteAt span.start

/-- Expressions in parentheses that no arrow follows. -/
private def parenthesized (start : Nat) (isAsync : Bool) (asyncSpan : Span)
    (items : List ParenItem) : P Node := do
  for item in items do noteDefaults item
  let nodes := items.map (·.node)
  if isAsync then
    return .call (← spanFrom start) false (.ident ⟨"async", asyncSpan⟩) nodes
  if nodes.isEmpty then failAt start
  for n in nodes do
    if let .compound _ .spread [value] := n then failAt value.span.start
  let inner := match nodes with
    | [one] => one
    | _ =>
      let first := (nodes.head?.map (·.span.start)).getD start
      let last := (nodes.getLast?.map (·.span.stop)).getD start
      .compound ⟨first, last⟩ .sequence nodes
  return .paren (← spanFrom start) inner

/-- The rest of an arrow function with a result type, before the colon of a conditional expression.
The first colon belongs to the arrow function only if another one follows it. -/
private def arrowInConditional (r : Rules) (start : Nat) (isAsync : Bool)
    (items : List ParenItem) (comma : Option Nat) : P Node := do
  let types ← returnType r
  expect "=>"
  let f ← arrowAfter r start isAsync (← arrowParams comma items) types
  if (← ctx).colonFollows && !(← atPunct ":") then fail
  return f

/-- The operators after the block of an arrow function, where none may follow. -/
private def operatorsAfter (r : Rules) (f : Node) : P Node := do
  note
  let e ← r.operators 0 f
  unless ← atSemi do note
  return e

/-- Parentheses, and the arrow function whose parameters they may hold. After `async` they may also
hold arguments. -/
def parenOrArrow (r : Rules) (start : Nat) (canBeArrow isAsync : Bool) : P Node := do
  let asyncSpan ← prevSpan
  let (items, comma) ← parenItems r
  let c ← ctx
  let atType := c.typescript && (← atPunct ":")
  if c.inConditional && atType then
    if let some f ← attempt (arrowInConditional r start isAsync items comma) then return f
  let result ← if !c.colonFollows && atType then
      attempt do
        let types ← returnType r
        unless ← atPunct "=>" do fail
        return types
    else pure none
  let hasPattern := items.any (·.isPattern)
  if hasPattern || result.isSome || (← atPunct "=>") then
    if (← newlineBefore) || !canBeArrow then failAt (← prevSpan).start
    expect "=>"
    let params ← arrowParams comma items
    let hasBlock ← atPunct "\x7b"
    let f ← arrowAfter r start isAsync params (result.getD [])
    if hasBlock && Tok.isOperator (← token).tok then operatorsAfter r f else return f
  else parenthesized start isAsync asyncSpan items

/-- `async <T>(x) =>`, up to and with the arrow. -/
private def genericAsyncHead (r : Rules) : P (List Node × Params × List Node) := do
  let generics ← typeParams r
  expect "("
  let params ← parseParams r
  expect ")"
  let result ← returnType r
  expect "=>"
  return (generics, params, result)

/-- The rest of an asynchronous arrow function with type parameters, if it is one. -/
def genericAsyncArrow? (r : Rules) (start : Nat) : P (Option Node) := do
  match ← attempt (genericAsyncHead r) with
  | some (generics, params, result) =>
    return some (← arrowAfter r start true params (generics ++ result))
  | none => return none

/-- The arrow after a single name. -/
def arrowAfterName (r : Rules) (start : Nat) (isAsync : Bool) (id : Ident) : P Node := do
  expect "=>"
  arrowAfter r start isAsync { nodes := [.binding id []], simple := true } []

/-- Is the expression an arrow function, after which no operator can follow? -/
def isArrow : Node → Bool
  | .arrow _ _ _ _ => true
  | _ => false

end PageWiring.Script.Parse
