import PageWiring.Script.Parse.Name

/-!
Patterns that bind names, and parameter lists.
-/
namespace PageWiring.Script.Parse

/-- A type annotation, where the language has them. -/
def annotation (r : Rules) : P (List Node) := do
  if ← eatTyped ":" then withCtx (fun c => { c with colonFollows := false }) r.type
  else return []

/-- A pattern with its default value. -/
def bindingElement (r : Rules) : P Node := do
  let start ← offset
  let target ← r.pattern false
  if ← eat "=" then
    let value ← r.innerAssign
    if (← ctx).ambient then noteAt start
    return .compound (← spanFrom start) .withDefault [target, value]
  else return target

/-- A rest element: `...` and what it binds. -/
private def restElement (r : Rules) : P Node := do
  let start ← offset
  advance
  let target ← r.pattern false
  return .compound (← spanFrom start) .rest [target]

/-- Items of a list in brackets, the last first, and where a rest element stands among them. -/
private structure RestList where
  items : List Node := []
  restAt : Option Nat := none

/-- Adds an item and reads the comma after it. Each item after a rest element is noted, and so is a
comma between a rest element and the closing bracket. -/
private def restListStep (close : String) (item : P Node) (acc : RestList) : P RestList := do
  if let some at_ := acc.restAt then noteAt at_
  let start ← offset
  let isRest ← atPunct "..."
  let element ← item
  unless ← atPunct close do
    expect ","
    if isRest && (← atPunct close) then noteAt (← prevSpan).start
  return { items := element :: acc.items, restAt := if isRest then some start else acc.restAt }

/-- In a declaration without code a pattern may be marked as optional. -/
private def eatAmbientMark : P Unit := do
  if (← ctx).ambient then
    let _ ← eatTyped "?"

def arrayPattern (r : Rules) : P Node := do
  let start ← offset
  advance
  let elements ← iterate (fun (acc : RestList) => do
    if (← atEof) || (← atPunct "]") then return none
    if ← eat "," then
      let hole : Node := .compound (← spanFrom start) .inert []
      return some { acc with items := hole :: acc.items }
    let element : P Node := do
      if ← atPunct "..." then restElement r else bindingElement r
    return some (← restListStep "]" element acc)) {}
  expect "]"
  eatAmbientMark
  return .compound (← spanFrom start) .arrayPattern elements.items.reverse

/-- A property of an object pattern: the parts to read, and the place of a rest element. -/
private structure PatternProp where
  parts : List Node
  restAt : Option Nat := none
  restIsName : Bool := true

private def objectPatternProp (r : Rules) : P PatternProp := do
  let start ← offset
  if ← atPunct "..." then
    advance
    let target ← r.pattern false
    let isName := match target with
      | .binding _ _ => true
      | _ => false
    return { parts := [target], restAt := some start, restIsName := isName }
  let (key, keyParts) ← parseKey r
  if ← eat ":" then
    return { parts := keyParts ++ [← bindingElement r] }
  match key with
  | .name id =>
    if ← eat "=" then
      return { parts := [.binding id [], ← r.innerAssign] }
    else return { parts := [.binding id []] }
  | _ => fail

/-- The properties of an object pattern up to the closing brace, the last first, and the place of a
comma before the brace. -/
private def objectPatternProps (r : Rules) : P (List PatternProp × Option Nat) :=
  iterate (fun (acc, comma) => do
    if ← eat "\x7d" then return none
    let prop ← objectPatternProp r
    unless ← atPunct "\x7d" do
      expect ","
      if ← atPunct "\x7d" then return some (prop :: acc, some (← prevSpan).start)
    return some (prop :: acc, comma)) ([], none)

def objectPattern (r : Rules) : P Node := do
  let start ← offset
  advance
  let (props, comma) ← objectPatternProps r
  for p in props.tail.reverse do
    if let some at_ := p.restAt then noteAt at_
  if let some { restAt := some at_, restIsName, .. } := props.head? then
    unless restIsName do failAt at_
    if let some c := comma then noteAt c
  eatAmbientMark
  return .compound (← spanFrom start) .objectPattern (props.reverse.flatMap (·.parts))

/-- A name or a destructuring pattern. -/
def parsePattern (r : Rules) (disallowLet : Bool) : P Node := do
  failOnEof
  match (← token).tok with
  | .word _ _ => return .binding (← parseBindingIdent disallowLet) []
  | .punct "[" => arrayPattern r
  | .punct "\x7b" => objectPattern r
  | _ => fail

/-- Adds the annotation of a pattern to it. -/
def annotate (target : Node) (types : List Node) : Node :=
  match target with
  | .binding id old => .binding id (old ++ types)
  | .compound span kind parts => .compound span kind (parts ++ types)
  | other => other

/-- Can this token start a member or a parameter, so that the word before it was a modifier? -/
def followsModifier (t : Token) : Bool :=
  !t.newlineBefore &&
    match t.tok with
    | .word _ _ => true
    | .text _ => true
    | .number => true
    | .privateName _ => true
    | .punct p => ["[", "\x7b", "*", "..."].contains p
    | _ => false

/-- Reads one TypeScript modifier of the given ones, if it is one here. -/
def eatModifier? (words : List String) : P (Option String) := do
  if !(← isTypescript) then return none
  match (← token).tok with
  | .word w false =>
    if words.contains w && followsModifier (← peek) then
      advance
      return some w
    else return none
  | _ => return none

def eatModifier (words : List String) : P Bool := do return (← eatModifier? words).isSome

/-- A modifier before a parameter, which only the parameters of a constructor may have. -/
def eatParamModifier : P Bool := do
  if !(← isTypescript) then return false
  let words := ["public", "protected", "private", "readonly"]
  match (← token).tok, (← peek).tok with
  | .word w false, .word _ _ => if words.contains w then eatParamWord words else return false
  | .word w false, .punct p =>
    if words.contains w && (p == "\x7b" || p == "[") then eatParamWord words else return false
  | _, _ => return false
where
  eatParamWord (words : List String) : P Bool := do
    let _ ← eatModifier words
    return true

/-- A parameter list without its parentheses. -/
structure Params where
  nodes : List Node
  /-- Does every parameter only name something? -/
  simple : Bool
  /-- Where the parameters start that are properties too. -/
  properties : List Nat := []
  deriving Inhabited

private def isThisParam : Node → Bool
  | .binding id _ => id.name == "this"
  | _ => false

/-- The parameters that a caller passes. -/
def Params.arity (p : Params) : Nat := (p.nodes.filter fun n => !isThisParam n).length

private def restParam (r : Rules) : P Node := do
  let start ← offset
  advance
  let target ← r.pattern false
  let withDefault ← if ← eat "=" then
      let value ← r.assign
      noteAt target.span.start
      pure [target, value]
    else pure [target]
  let types ← annotation r
  let node : Node := .compound (← spanFrom start) .rest (withDefault ++ types)
  if ← eatTyped "?" then noteAt (← prevSpan).start
  return node

private def plainParam (r : Rules) : P Node := do
  let start ← offset
  let hasModifier ← eatParamModifier
  let patternAt ← offset
  let target ← r.pattern false
  let isOptional ← eatTyped "?"
  let target := annotate target (← annotation r)
  let param ← if ← eat "=" then
      if isOptional then noteAt target.span.start
      let value ← r.assign
      if (← ctx).ambient then noteAt start
      pure (Node.compound (← spanFrom patternAt) .withDefault [target, value])
    else pure target
  if hasModifier then noteAt start
  return param

/-- The modifiers that make a parameter of a constructor a property too. -/
private def eatPropertyModifiers : P Bool := do
  let hasAccess ← eatModifier ["public", "protected", "private"]
  let isOverride ← eatModifier ["override"]
  let isReadonly ← eatModifier ["readonly"]
  return hasAccess || isOverride || isReadonly

/-- A parameter that is also a property has to be a name. -/
private def propertyParam (r : Rules) : P Node := do
  let param ← plainParam r
  match param with
  | .binding _ _ => return param
  | .compound _ .withDefault _ => return param
  | _ => failAt param.span.start

private def constructorRest (r : Rules) : P Node := do
  let rest ← restElement r
  return annotate rest (← annotation r)

private def isBinding : Node → Bool
  | .binding _ _ => true
  | _ => false

/-- The parameters of a function, up to the closing parenthesis. -/
def parseParams (r : Rules) : P Params := do
  let found ← iterate (fun (acc : RestList) => do
    if (← atEof) || (← atPunct ")") then return none
    let param : P Node := do
      if ← atPunct "..." then restParam r else plainParam r
    return some (← restListStep ")" param acc)) {}
  let nodes := found.items.reverse
  return { nodes := nodes, simple := nodes.all isBinding }

/-- The parameters of a constructor, up to the closing parenthesis. One that is a property too
counts as a plain name. -/
def constructorParams (r : Rules) : P Params := do
  let (found, properties) ← iterate (fun (acc : RestList × List (Option Nat)) => do
    if (← atEof) || (← atPunct ")") then return none
    let start ← offset
    let isProperty ← wouldRead do
      unless ← eatPropertyModifiers do fail
    let param : P Node := do
      if ← atPunct "..." then constructorRest r
      else if ← eatPropertyModifiers then propertyParam r
      else plainParam r
    let list ← restListStep ")" param acc.1
    return some (list, (if isProperty then some start else none) :: acc.2)) ({}, [])
  return {
    nodes := found.items.reverse
    simple := (found.items.zip properties).all fun (param, property) =>
      property.isSome || isBinding param
    properties := (properties.filterMap id).reverse }

end PageWiring.Script.Parse
