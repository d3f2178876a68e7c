import PageWiring.Script.Parse.Class
import PageWiring.Script.Parse.Literal

/-!
Expressions.
-/
namespace PageWiring.Script.Parse

/-! ### Operands -/

private def literal : P Node := do
  let t ← token
  advance
  return .compound t.span .literal []

/-- A regular expression; the current token is the slash that opens it. -/
private def regex : P Node := do
  let start ← offset
  let s ← get
  match readRegexBody false false (s.here.offset + 1) (s.here.rest.drop 1) with
  | none => fun s => .error start s
  | some body =>
    let flags := body.rest.takeWhile Text.isIdentifierPart
    continueAt (body.advance flags.length)
    let known := flags.filter "dgimsuvy".toList.contains
    unless known.length = flags.length do noteAt start
    unless known.eraseDups.length = known.length do noteAt start
    return .compound (← spanFrom start) .literal []

private def template (r : Rules) (isTagged : Bool) : P Node := do
  let start ← offset
  let (raw, parts) ← templateParts isTagged do return [← r.expr]
  return .template (← spanFrom start) raw parts

def classExpr (r : Rules) : P Node := do
  let start ← offset
  let c ← classParts r false false
  return .classNode (← spanFrom start) c.name c.members c.superClass c.types

/-- May an arrow function start at this offset? -/
private def arrowMayStart (start : Nat) : P Bool := fun s => .ok (s.arrowStart == some start) s

/-- What follows `async` where it is the first word of an arrow function with one parameter. -/
private def asyncAfter (r : Rules) (id : Ident) : P Node := do
  let c ← ctx
  if c.inLoopHead && (← atWord "of") && !Tok.isPunct (← peek).tok "=>" then
    unless c.inAwaitLoop do noteAt id.span.start
    return .ident id
  let param ← parseBindingIdent false
  if (← isTypescript) && param.name == "as" && !(← atPunct "=>") then
    let types ← r.type
    return .compound (← spanFrom id.span.start) .ascription (.ident id :: types)
  arrowAfterName r id.span.start true param

/-- A name, or the arrow function that it is the parameter of. -/
private def nameOrArrow (r : Rules) (start : Nat) : P Node := do
  let canBeArrow ← arrowMayStart start
  let id ← parseIdent
  if !canBeArrow || (← newlineBefore) then return .ident id
  if id.name == "async" then
    if ← atName then return ← asyncAfter r id
    if (← isTypescript) && (← atPunct "<") then
      if let some f ← genericAsyncArrow? r start then return f
  if ← atPunct "=>" then
    if id.name == "eval" || id.name == "arguments" then noteStrictAt id.span.start
    arrowAfterName r start false id
  else return .ident id

private def primary (r : Rules) : P Node := do
  failOnEof
  let t ← token
  let start := t.span.start
  match t.tok with
  | .number => literal
  | .text value => advance; return .text t.span value
  | .template => template r false
  | .punct "[" => arrayLiteral r
  | .punct "\x7b" => objectLiteral r
  | .punct "(" => parenOrArrow r start (← arrowMayStart start) false
  | .punct "/" => regex
  | .punct "/=" => regex
  | .privateName _ => advance; return .compound t.span .privateName []
  | .word w escaped =>
    if !escaped then
      match w with
      | "this" => advance; return .compound t.span .this []
      | "null" => return ← literal
      | "true" => return ← literal
      | "false" => return ← literal
      | "function" => return ← functionExpr r start false
      | "class" => return ← classExpr r
      | "async" =>
        let next ← peek
        if Tok.isWord next.tok "function" && !next.newlineBefore then
          advance
          return ← functionExpr r start true
        if Tok.isPunct next.tok "(" && !next.newlineBefore && (← arrowMayStart start) then
          advance
          return ← parenOrArrow r start true true
      | _ => pure ()
    if w == "let" || (← atName) then nameOrArrow r start else fail
  | _ => fail

/-! ### Members and calls -/

/-- An operand with type arguments that nothing else claims. -/
private def instantiation (target : Node) (types : List Node) : P Node := do
  return .compound (← spanFrom target.span.start) .assertion (target :: types)

/-- Can a token start an expression? -/
private def startsExpression (c : Ctx) : Tok → Bool
  | .number => true
  | .text _ => true
  | .template => true
  | .privateName _ => true
  | .punct p => ["(", "[", "\x7b", "+", "-", "~", "!", "++", "--", "<", "/", "/="].contains p
  | .word w escaped =>
    escaped || !c.reserves w ||
      ["this", "super", "null", "true", "false", "function", "class", "new", "delete", "typeof",
        "void", "await", "yield", "import", "let"].contains w
  | _ => false

/-- The precedence of a binary operator. -/
def precedence? : Tok → Option Nat
  | .punct p =>
    match p with
    | "??" => some 1
    | "||" => some 1
    | "&&" => some 2
    | "|" => some 3
    | "^" => some 4
    | "&" => some 5
    | "==" => some 6
    | "!=" => some 6
    | "===" => some 6
    | "!==" => some 6
    | "<" => some 7
    | "<=" => some 7
    | ">" => some 7
    | ">=" => some 7
    | "<<" => some 8
    | ">>" => some 8
    | ">>>" => some 8
    | "+" => some 9
    | "-" => some 9
    | "*" => some 10
    | "/" => some 10
    | "%" => some 10
    | "**" => some 11
    | _ => none
  | .word "in" false => some 7
  | .word "instanceof" false => some 7
  | _ => none

/-- Type arguments right after an operand that neither a call nor a comparison claims. -/
private def looseTypeArgs (r : Rules) : P (List Node) := do
  let types ← typeArgs r
  let t ← token
  let isClaimed := t.tok == .template || (match t.tok with
    | .punct p => ["<", ">", "+", "-", "("].contains p
    | _ => false)
  if isClaimed then fail
  if t.newlineBefore || (precedence? t.tok).isSome || !startsExpression (← ctx) t.tok then
    return types
  else fail

private def looseTypeArgs? (r : Rules) : P (Option (List Node)) := do
  if (← isTypescript) && (← atPunct "<") then attempt (looseTypeArgs r) else return none

/-- `super` and the access or call that has to follow it. -/
private def superExpression (r : Rules) (calls : Bool) : P Node := do
  let start ← offset
  let c ← ctx
  advance
  if calls && (← atPunct "(") then
    let args ← arguments r
    return .compound (← spanFrom start) .superCall args
  let isOptional ← eat "?."
  let index ← if ← eat "[" then do
      let e ← r.inner
      expect "]"
      pure [e]
    else do
      unless isOptional do expect "."
      failOnEof
      expectAnyWord
      let _ ← looseTypeArgs? r
      pure []
  unless c.superAllowed || c.typescript do failAt start
  return .compound (← spanFrom start) .superMember index

/-- `import(…)`, also with a phase, and `import.meta`. A classic script has nothing after the
dot. -/
private def importExpression (r : Rules) (calls : Bool) : P Node := do
  let start ← offset
  advance
  if ← eat "." then
    let isMeta ← atWord "meta"
    unless isMeta || (← atWord "defer") || (← atWord "source") do fail
    advance
    unless (← ctx).isModule do noteAt start
    if isMeta then return .compound (← spanFrom start) .metaProperty []
  unless calls && (← atPunct "(") do fail
  let args ← arguments r
  return .compound (← spanFrom start) .importCall args

/-- What stands after a dot, with type arguments that nothing else claims. -/
private def memberAfterDot (r : Rules) (target : Node) (inChain : Bool) : P Node := do
  failOnEof
  let t ← token
  let member ← match t.tok with
    | .word w _ => do
      advance
      pure (Node.member (← spanFrom target.span.start) inChain target ⟨w, t.span⟩)
    | .privateName _ => do
      advance
      pure (Node.compound (← spanFrom target.span.start)
        (if inChain then .chainIndex else .privateMember) [target])
    | _ => fail
  match ← looseTypeArgs? r with
  | some types => instantiation member types
  | none => return member

private def indexAfterBracket (r : Rules) (target : Node) (inChain : Bool) : P Node := do
  let index ← withCtx (fun c => { c with colonFollows := false }) r.inner
  expect "]"
  return .compound (← spanFrom target.span.start) (if inChain then .chainIndex else .index)
    [target, index]

private def callOf (r : Rules) (target : Node) (inChain : Bool) : P Node := do
  let args ← arguments r
  return .call (← spanFrom target.span.start) inChain target args

/-- A template after a tag, which may be no optional chain. -/
private def taggedTemplate (r : Rules) (tag : Node) (types : List Node) : P Node := do
  let text ← template r true
  if isChain tag && !(tag matches .compound _ .nonNull _) then noteAt tag.span.start
  return .compound (← spanFrom tag.span.start) .tagged (tag :: types ++ [text])

/-- An operand with type arguments, and the call, template or assignment they belong to. -/
private def typedSubscript (r : Rules) (calls : Bool) (target : Node) : P Node := do
  let types ← typeArgs r
  if calls && (← atPunct "(") then return ← callOf r target (isChain target)
  if (← token).tok == .template then return ← taggedTemplate r target types
  if (← atPunct "=") || (← atWord "as") || (← atWord "satisfies") then
    return ← instantiation target types
  fail

/-- One member access, call or template after an operand. -/
private def subscript (r : Rules) (calls : Bool) (target : Node) : P (Option Node) := do
  let inChain := isChain target
  let ts ← isTypescript
  if ts && !(← newlineBefore) && (← atPunct "!") then
    advance
    return some (.compound (← spanFrom target.span.start) .nonNull [target])
  if ts && (← atLess) then
    if let some e ← attempt (typedSubscript r calls target) then return some e
  if ← eat "?." then
    if ← eat "[" then return some (← indexAfterBracket r target true)
    if ← atPunct "(" then return some (← callOf r target true)
    return some (← memberAfterDot r target true)
  if ← eat "[" then return some (← indexAfterBracket r target inChain)
  if calls && (← atPunct "(") then return some (← callOf r target inChain)
  if ← eat "." then return some (← memberAfterDot r target inChain)
  if (← token).tok == .template then return some (← taggedTemplate r target [])
  return none

private def subscripts (r : Rules) (calls : Bool) (target : Node) : P Node :=
  iterate (subscript r calls) target

/-- `new.target`, which only a function or a class has. -/
private def newTargetProperty (r : Rules) (start : Nat) : P Node := do
  unless ← eatWord "target" do fail
  let c ← ctx
  unless c.inPlainFunction || c.inParams || c.inClass do noteAt start
  let n : Node := .compound (← spanFrom start) .metaProperty []
  subscripts r false n

/-- An operand with its members. -/
private def memberOperand (r : Rules) : P Node := do
  let first ← primary r
  if isArrow first then return first
  match ← looseTypeArgs? r with
  | some types => subscripts r false (← instantiation first types)
  | none => subscripts r false first

/-- What `new` may be applied to: an operand with members, or another `new`. -/
def parseNewTarget (r : Rules) : P Node := do
  let start ← offset
  if ← atWord "new" then
    advance
    if ← eat "." then return ← newTargetProperty r start
    let callee ← r.newTarget
    if isArrow callee then return callee
    if isChain callee then failAt callee.span.start
    if (← isTypescript) && (← atLess) then
      let _ ← attempt do
        let _ ← typeArgs r
        unless ← atPunct "(" do fail
    if ← atPunct "(" then
      let args ← arguments r
      let n : Node := .construct (← spanFrom start) callee args
      subscripts r false n
    else return .construct (← spanFrom start) callee []
  else if ← atWord "super" then
    let base ← superExpression r false
    subscripts r false base
  else if ← atWord "import" then
    let base ← importExpression r false
    subscripts r false base
  else memberOperand r

/-- An operand with its members and calls. -/
def parseOperand (r : Rules) : P Node := do
  failOnEof
  if (← ctx).jsx && (← atPunct "<") then
    let (element, _) ← r.jsx
    return element
  if ← atWord "super" then
    let base ← superExpression r true
    return ← subscripts r true base
  if ← atWord "import" then
    let base ← importExpression r true
    return ← subscripts r true base
  let operand ← parseNewTarget r
  if isArrow operand then return operand
  subscripts r true operand

/-! ### Operators -/

/-- `await`, which is only a name where no operand can follow. -/
private def awaitExpression (r : Rules) : P Node := do
  let start ← offset
  let t ← token
  let c ← ctx
  advance
  if ← atPunct "*" then fail
  let atEnd ← if (← atPunct ")") || (← atPunct "]") || (← atPunct ",") then pure true else atSemi
  if !c.inAsync && atEnd then
    if c.isModule || c.inStaticBlock then noteAt start
    return .ident ⟨"await", t.span⟩
  if c.topLevel && !c.isModule then note
  if c.inFunction && !c.inAsync then note
  if c.inParams && !c.inFunction then noteAt start
  let value ← r.unary
  return .compound (← spanFrom start) .await [value]

private def unaryOperators : List Tok :=
  [.word "delete" false, .word "void" false, .word "typeof" false, .punct "+", .punct "-",
    .punct "~", .punct "!"]

/-- An operator before its operand. A mistake in the operand is only noted. -/
private def operatorBefore (r : Rules) : P Node := do
  let start ← offset
  let isDelete ← atWord "delete"
  advance
  let operandAt ← offset
  let operand ← match ← recover r.unary with
    | .ok e => pure e
    | .error at_ => do
      noteAt at_
      pure (Node.compound ⟨operandAt, operandAt⟩ .invalid [])
  if isDelete then
    if let .ident id := operand then noteStrictAt id.span.start
  return .compound (← spanFrom start) (if isDelete then .delete else .unary) [operand]

/-- `<T>x` -/
private def typeAssertion (r : Rules) : P Node := do
  let start ← offset
  unless ← eatLess do fail
  if ← eatWord "const" then
    expectGreater
    let value ← r.unary
    return .compound (← spanFrom start) .constAssertion [value]
  let types ← plainType r
  expectGreater
  let value ← r.unary
  return .compound (← spanFrom start) .assertion (value :: types)

/-- An operand with the operators that bind closest to it. -/
def parseUnary (r : Rules) : P Node := do
  let start ← offset
  let c ← ctx
  if c.typescript && !c.jsx && (← atLess) then return ← typeAssertion r
  if (← atPunct "++") || (← atPunct "--") then
    advance
    let operand ← r.unary
    checkTarget false operand
    return .compound (← spanFrom start) .update [operand]
  if unaryOperators.contains (← token).tok then return ← operatorBefore r
  if ← atWord "await" then return ← awaitExpression r
  let operand ← r.operand
  if isArrow operand || (← newlineBefore) then return operand
  if (← atPunct "++") || (← atPunct "--") then
    checkTarget false operand
    advance
    return .compound (← spanFrom start) .update [operand]
  return operand

private def operatorKind : Tok → Compound
  | .punct "??" => .coalesce
  | .punct "||" => .logical
  | .punct "&&" => .logical
  | _ => .binary

/-- The binary operator at the current token, if one may stand here. -/
private def operator? : P (Option (Tok × Nat)) := do
  let t := (← token).tok
  if t == .word "in" false && !(← ctx).inOperator then return none
  return (precedence? t).map fun p => (t, p)

/-- Does the operand have an operator before it, so that `**` may not follow? -/
private def isUnary : Node → Bool
  | .compound _ kind _ => [Compound.unary, .delete, .await].contains kind
  | _ => false

private def isLogical : Node → Bool
  | .compound _ .logical _ => true
  | _ => false

private def isCoalesce : Node → Bool
  | .compound _ .coalesce _ => true
  | _ => false

/-- `as T` and `satisfies T` after an operand. -/
private def assertionAfter (r : Rules) (left : Node) : P Node := do
  let isAs ← atWord "as"
  advance
  if isAs && (← eatWord "const") then
    return .compound (← spanFrom left.span.start) .constAssertion [left]
  let types ← r.type
  return .compound (← spanFrom left.span.start) (if isAs then .ascription else .assertion)
    (left :: types)

private def operatorStep (r : Rules) (least : Nat) (left : Node) : P (Option Node) := do
  if (← isTypescript) && !(← newlineBefore) && least < 7 &&
      ((← atWord "as") || (← atWord "satisfies")) then
    return some (← assertionAfter r left)
  match ← operator? with
  | none => return none
  | some (op, precedence) =>
    if precedence ≤ least then return none
    advance
    let isPower := op == .punct "**"
    if isPower && isUnary left then fail
    let operand ← r.unary
    let right ← r.operators (if isPower then precedence - 1 else precedence) operand
    if op == .punct "??" then
      if isLogical left then noteAt left.span.start
      if isLogical right then noteAt right.span.start
    return some (.compound ⟨left.span.start, right.span.stop⟩ (operatorKind op) [left, right])

/-- Notes `||` or `&&` right after `??`. -/
private def noteMixed (e : Node) : P Unit := do
  if let .compound span .logical (left :: _) := e then
    if isCoalesce left then noteAt span.start

/-- The binary operators above a precedence that follow an operand. What comes last is checked
once more. -/
def parseOperators (r : Rules) (least : Nat) (left : Node) : P Node := do
  let e ← iterate (fun left => do
    let next ← operatorStep r least left
    if let some e := next then noteMixed e
    return next) left
  noteMixed e
  return e

/-- An operand and the binary operators after it. Where an operator has no left operand, that is
only noted. -/
def parseBinary (r : Rules) : P Node := do
  let left ← match ← recover r.unary with
    | .ok e => pure e
    | .error at_ => do
      -- a slash where an operand should be starts a regular expression
      let t := (← token).tok
      let isOperator ← if t == .word "in" false then pure (← ctx).inOperator
        else pure ((precedence? t).isSome && t != .punct "/")
      if isOperator then
        let here ← offset
        noteAt here
        pure (Node.compound ⟨here, here⟩ .invalid [])
      else fun s => .error at_ s
  if isArrow left then return left
  r.operators 0 left

private def conditional (r : Rules) : P Node := do
  let test ← r.binary
  if isArrow test then return test
  if ← eat "?" then
    let yes ← withCtx (fun c =>
      { c with inOperator := true, inConditional := true, colonFollows := true }) r.assign
    expect ":"
    let no ← withCtx (fun c => { c with inConditional := true, colonFollows := false }) r.assign
    return .compound (← spanFrom test.span.start) .conditional [test, yes, no]
  else return test

private def yieldExpression (r : Rules) : P Node := do
  let start ← offset
  let c ← ctx
  advance
  if c.inParams && !c.inFunction then failAt start
  let hasOperand := (← atPunct "*") || startsExpression c (← token).tok
  if (← atSemi) || !hasOperand then return .compound (← spanFrom start) .yield []
  let _ ← eat "*"
  let value ← r.assign
  return .compound (← spanFrom start) .yield [value]

/-- Can this expression not be assigned to by its form, so that no assignment is looked for? -/
private def isOperation : Node → Bool
  | .compound _ kind _ =>
    [Compound.conditional, .binary, .logical, .coalesce, .unary, .delete, .update].contains kind
  | .arrow _ _ _ _ => true
  | _ => false

/-- An expression without a comma operator that starts with no type parameters. -/
private def plainAssign (r : Rules) : P Node := do
  let c ← ctx
  if c.inGenerator && (← atWord "yield") then return ← yieldExpression r
  let t ← token
  let arrowStart := match t.tok with
    | .word _ _ => some t.span.start
    | .punct "(" => some t.span.start
    | _ => none
  modify fun s => { s with arrowStart := arrowStart }
  let left ← conditional r
  if isOperation left then return left
  finishAssign r left

/-- An arrow function with type parameters. -/
private def genericArrow (r : Rules) : P Node := do
  let start ← offset
  let generics ← typeParams r
  match ← plainAssign r with
  | .arrow span params body types =>
    return .arrow ⟨start, span.stop⟩ params body (generics ++ types)
  | _ => fail

/-- An expression without a comma operator. What starts with `<` in TypeScript may be an element of
JSX, where there is such, or else an arrow function with type parameters. -/
def parseAssign (r : Rules) : P Node := do
  let c ← ctx
  if c.typescript && (← atPunct "<") then
    if c.jsx then
      if let some e ← attempt (plainAssign r) then return e
    if Tok.isAnyWord (← peek).tok then
      if let some f ← attempt (genericArrow r) then return f
  plainAssign r

end PageWiring.Script.Parse
