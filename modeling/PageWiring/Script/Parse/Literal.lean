import PageWiring.Script.Parse.Arrow

/-!
Lists of expressions: arguments, array literals and object literals.
-/
namespace PageWiring.Script.Parse

/-- Arguments in parentheses. -/
def arguments (r : Rules) : P (List Node) :=
  withCtx (fun c => { c with colonFollows := false }) do
    expect "("
    let args ← iterate (fun (acc : List Node) => do
      if (← atEof) || (← atPunct ")") then return none
      unless acc.isEmpty do
        expect ","
      if !acc.isEmpty && (← atPunct ")") then return none
      return some ((← spreadOrExpr r) :: acc)) []
    expect ")"
    return args.reverse

/-- The comma between two items of a literal. One that stands before the closing bracket is kept. -/
private def itemComma (close : String) : P (List Node) := do
  if ← atPunct close then return []
  expect ","
  if ← atPunct close then return [.compound (← prevSpan) .comma []] else return []

def arrayLiteral (r : Rules) : P Node := do
  let start ← offset
  advance
  let elements ← withCtx (fun c => { c with colonFollows := false }) do
    many do
      if (← atEof) || (← atPunct "]") then return none
      if ← eat "," then return some [.compound (← spanFrom start) .inert []]
      let element ← spreadOrExpr r
      return some (element :: (← itemComma "]"))
  expect "]"
  return .compound (← spanFrom start) .array elements.flatten

/-- What the functions in an object literal may do. -/
private def memberCtx (c : Ctx) : Ctx := { c with superAllowed := true, inClassField := false }

private def objectMethod (r : Rules) (key : Key) (keyParts : List Node)
    (isAsync isGenerator : Bool) : P Node := do
  let f ← withCtx memberCtx (functionParts r isAsync isGenerator anyParams)
  return .method key keyParts f.params f.body f.types

/-- A getter leaves its result type and body; its parameters are a mistake. -/
private def objectGetter (r : Rules) (start : Nat) (key : Key) (keyParts : List Node) : P Node := do
  let f ← withCtx memberCtx (functionParts r false false (getterParams key.span.start))
  return .compound (← spanFrom start) .accessor (keyParts ++ f.result ++ f.body)

/-- A setter leaves its first two parameters, of which one may stand for `this`, and its body. -/
private def objectSetter (r : Rules) (start : Nat) (key : Key) (keyParts : List Node) : P Node := do
  let f ← withCtx memberCtx (functionParts r false false (setterParams key.span.start))
  if f.params.isEmpty then noteAt key.span.start
  return .compound (← spanFrom start) .accessor (keyParts ++ f.params.take 2 ++ f.body)

/-- A member after its first word, which may be `get`, `set` or `async`. -/
private def memberAfterWord (r : Rules) (start : Nat) (word : String) : P Node := do
  match word with
  | "async" =>
    let isGenerator ← eat "*"
    let (key, keyParts) ← parseKey r
    objectMethod r key keyParts true isGenerator
  | "get" =>
    let (key, keyParts) ← parseKey r
    objectGetter r start key keyParts
  | "set" =>
    let (key, keyParts) ← parseKey r
    objectSetter r start key keyParts
  | _ => fail

/-- Does a token after a key tell that the value of the member is missing? -/
private def lacksValue (key : Key) : Tok → Bool
  | .punct p =>
    if p == "\x7d" then !(key matches .name _)
    else !(["(", "[", ":", ",", "?", "=", "*", "<"].contains p)
  | .word _ _ => false
  | .text _ => false
  | .number => false
  | _ => true

def objectMember (r : Rules) : P Node := do
  failOnEof
  let start ← offset
  if ← eat "..." then
    let value ← r.innerAssign
    return .compound (← spanFrom start) .spread [value]
  if ← eat "*" then
    let (key, keyParts) ← parseKey r
    return ← objectMethod r key keyParts false true
  let hasModifier ← eatParamModifier
  let modifierAt := (← prevSpan).start
  let (key, keyParts) ← parseKey r
  if (← isTypescript) && lacksValue key (← token).tok then
    note
    return .keyValue key keyParts (.compound (← spanFrom start) .invalid [])
  if ← eat ":" then
    return .keyValue key keyParts (← r.innerAssign)
  if (← atPunct "(") || ((← isTypescript) && (← atPunct "<")) then
    return ← objectMethod r key keyParts false false
  match key with
  | .name id =>
    if ← eat "?" then noteAt (← prevSpan).start
    if (← atPunct "=") || (← atPunct ",") || (← atPunct "\x7d") then
      if ← eat "=" then
        let value ← r.innerAssign
        return .compound (← spanFrom start) .shorthandDefault [value]
      else return .shorthand id
    else
      if hasModifier && ["get", "set", "async"].contains id.name then noteAt modifierAt
      memberAfterWord r start id.name
  | _ => fail

def objectLiteral (r : Rules) : P Node := do
  let start ← offset
  advance
  let members ← withCtx (fun c => { c with colonFollows := false }) do
    many do
      if ← eat "\x7d" then return none
      let m ← objectMember r
      return some (m :: (← itemComma "\x7d"))
  return .object (← spanFrom start) members.flatten

end PageWiring.Script.Parse
