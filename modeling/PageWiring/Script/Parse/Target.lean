import PageWiring.Script.Parse.Rules

/-!
Expressions that turn out to be patterns.

What stands left of `=` and between the parentheses of an arrow function is first read as an
expression. Object and array literals there are patterns; anything else has to be a place that can
hold a value, or a name. What cannot be a pattern is noted, and leaves nothing behind.
-/
namespace PageWiring.Script.Parse

/-- Is the expression part of an optional chain? -/
def isChain : Node → Bool
  | .member _ optional _ _ => optional
  | .call _ optional _ _ => optional
  | .compound _ .chainIndex _ => true
  | .compound _ .nonNull [inner] => isChain inner
  | _ => false

private def isEvalOrArguments (id : Ident) : Bool := id.name == "eval" || id.name == "arguments"

/-- A place that can simply be assigned to. -/
def isSimpleTarget (strict : Bool) : Node → Bool
  | .ident id => !(strict && isEvalOrArguments id)
  | .paren _ inner => isSimpleTarget strict inner
  | .member _ optional _ _ => !optional
  | .compound _ .index _ => true
  | .compound _ .privateMember _ => true
  | .compound _ .superMember _ => true
  | .compound _ .ascription (inner :: _) => isSimpleTarget strict inner
  | .compound _ .assertion (inner :: _) => isSimpleTarget strict inner
  | .compound _ .nonNull [inner] => isSimpleTarget strict inner
  | _ => false

/-- Can the expression stand on the left at all? -/
def isTarget : Node → Bool
  | .ident _ => true
  | .paren _ _ => true
  | .member _ _ _ _ => true
  | .compound _ kind _ =>
    [Compound.index, .privateMember, .chainIndex, .superMember, .ascription, .assertion,
      .nonNull, .invalid].contains kind
  | _ => false

/-- TypeScript leaves some wrong targets to be reported by their types. -/
private def isDeniedTarget (denyCalls : Bool) : Node → Bool
  | .text _ _ => false
  | .compound _ .literal _ => false
  | .compound _ .binary _ => false
  | .compound _ .logical _ => false
  | .compound _ .coalesce _ => false
  | .call _ false _ _ => denyCalls
  | .paren _ inner => isDeniedTarget denyCalls inner
  | _ => true

/-- Notes a target that cannot simply be assigned to. -/
def checkTarget (denyCalls : Bool) (n : Node) : P Unit := do
  let c ← ctx
  let isWrong := !isSimpleTarget c.strict n
  if c.typescript then
    let isWord := match n with
      | .ident id => isEvalOrArguments id
      | _ => false
    if isWrong && (isWord || isDeniedTarget denyCalls n) then noteAt n.span.start
  else if isWrong then noteAt n.span.start

/-- What a pattern is for. -/
inductive PatternUse where
  /-- Its names are declared. -/
  | binding
  /-- Its places are assigned to. -/
  | assignment
  deriving DecidableEq, Repr

/-- Expressions that an assignment pattern keeps when they are no target, with one mistake noted. -/
private def isKeptElement : Node → Bool
  | .ident _ => true
  | .text _ _ => true
  | .template _ _ _ => true
  | .paren _ _ => true
  | .function _ _ _ _ _ => true
  | .classNode _ _ _ _ _ => true
  | .member _ optional _ _ => !optional
  | .call _ optional _ _ => !optional
  | .construct _ _ _ => true
  | .compound _ kind _ =>
    [Compound.literal, .index, .privateMember, .superMember, .superCall, .importCall,
      .ascription].contains kind
  | _ => false

private def invalidNode (n : Node) : Node := .compound n.span .invalid []

/-- An element of a pattern that is no literal of any kind. -/
private def plainElement (use : PatternUse) (n : Node) : P Node := do
  match use with
  | .binding =>
    match n with
    | .ident id => return .binding id []
    | _ =>
      noteAt n.span.start
      return invalidNode n
  | .assignment =>
    if isKeptElement n then
      unless isSimpleTarget (← ctx).strict n do noteAt n.span.start
      match n with
      | .ident id => return .binding id []
      | _ => return n
    else
      noteAt n.span.start
      noteAt n.span.start
      return invalidNode n

private def isDefault : Node → Bool
  | .compound _ .withDefault _ => true
  | _ => false

private def isPlainAssign : Node → Bool
  | .assign _ _ _ _ => true
  | _ => false

/-- The comma that ends a literal, if one does. -/
private def lastComma : List Node → Option Nat
  | [] => none
  | [.compound span .comma _] => some span.start
  | _ :: rest => lastComma rest

/-- Is nothing but a comma left? -/
private def isLast : List Node → Bool
  | [] => true
  | [.compound _ .comma _] => true
  | _ => false

mutual

/-- An expression as a pattern, or as an element of one. -/
def toElement (use : PatternUse) : Node → P Node
  | .compound span .invalid parts => return .compound span .invalid parts
  | .object span props => do
    return .compound span .objectPattern (← toProps use props)
  | .compound span .array elements => do
    return .compound span .arrayPattern (← toElements use elements)
  | .assign span true target value => return .compound span .withDefault [target, value]
  | .assign span false _ _ => do
    noteAt span.start
    return .compound span .invalid []
  | n => plainElement use n

/-- The members of an object literal as those of a pattern. -/
def toProps (use : PatternUse) : List Node → P (List Node)
  | [] => return []
  | prop :: rest => do
    let parts ← match prop with
      | .shorthand id => pure [Node.binding id []]
      | .keyValue _ keyParts value => do pure (keyParts ++ [← toElement use value])
      | .compound _ .shorthandDefault parts => pure parts
      | .compound _ .comma _ => pure []
      | .compound span .spread [value] => do
        if !isLast rest then noteAt span.start
        else if let some comma := lastComma rest then noteAt comma
        match use, value with
        | .binding, .ident id => pure [.binding id []]
        | .binding, _ =>
          noteAt span.start
          pure []
        | .assignment, _ =>
          let element ← toElement use value
          if isDefault element then noteAt span.start
          pure [element]
      | other => failAt other.span.start
    return parts ++ (← toProps use rest)

/-- The elements of an array literal as those of a pattern. -/
def toElements (use : PatternUse) : List Node → P (List Node)
  | [] => return []
  | element :: rest => do
    let part ← match element with
      | .compound _ .inert _ => pure element
      | .compound _ .comma _ => pure element
      | .compound span .spread [value] => do
        if isLast rest then
          if isPlainAssign value then noteAt span.start
          if let some comma := lastComma rest then noteAt comma
          pure (Node.compound span .rest [← toElement use value])
        else
          noteAt span.start
          pure (Node.compound span .inert [])
      | other => toElement use other
    return part :: (← toElements use rest)

end

/-- What a loop with `of` or `in` assigns to. -/
def loopTarget (left : Node) : P Node :=
  match left with
  | .object _ _ => toElement .assignment left
  | .compound _ .array _ => toElement .assignment left
  | .compound _ .invalid _ => return left
  | .ident id => do
    checkTarget true left
    return .binding id []
  | _ => do
    checkTarget true left
    return left

/-- The left side of `=`. -/
def assignTarget (left : Node) : P Node :=
  match left with
  | .object _ _ => toElement .assignment left
  | .compound _ .array _ => toElement .assignment left
  | .compound _ .invalid _ => return left
  | .ident id => do
    checkTarget true left
    return .binding id []
  | _ => do
    checkTarget true left
    if isTarget left then return left else failAt left.span.start

/-- The left side of an operator such as `+=`, which cannot be a pattern. -/
private def updateTarget (left : Node) : P Node := do
  unless isSimpleTarget (← ctx).strict left do noteAt left.span.start
  if ← isTypescript then
    if let .ident id := left then
      if isEvalOrArguments id then noteStrictAt id.span.start
  match left with
  | .ident id => return .binding id []
  | _ => if isTarget left then return left else failAt left.span.start

def assignmentOperators : List String :=
  ["=", "+=", "-=", "*=", "/=", "%=", "**=", "<<=", ">>=", ">>>=", "&=", "|=", "^=", "&&=", "||=",
    "??="]

/-- The assignment that an expression is the left side of, or the expression itself. -/
def finishAssign (r : Rules) (left : Node) : P Node := do
  match (← token).tok with
  | .punct p =>
    if assignmentOperators.contains p then
      let isPlain := p == "="
      let target ← if isPlain then assignTarget left else updateTarget left
      advance
      let value ← r.assign
      return .assign (← spanFrom left.span.start) isPlain target value
    else return left
  | _ => return left

end PageWiring.Script.Parse
