import PageWiring.Script.Parse.TypeSyntax

/-!
Elements of JSX in expressions.

Between tags the text is not read as tokens, so an element also gives the text right after it.
-/
namespace PageWiring.Script.Parse

/-- A name in a tag, which may have dashes. -/
private def jsxWord : P String := do
  unless Tok.isAnyWord (← token).tok do fail
  let s ← get
  let name := s.here.rest.takeWhile isJsxNamePart
  if name.isEmpty then fail
  continueAt (s.here.advance name.length)
  return String.ofList name

/-- The name of an element: `a`, `a:b` or `a.b.c`. -/
private def jsxElementName : P String := do
  let first ← jsxWord
  if ← eat ":" then
    return first ++ ":" ++ (← jsxWord)
  iterate (fun name => do
    if ← eat "." then return some (name ++ "." ++ (← jsxWord)) else return none) first

/-- The name of an attribute: `a` or `a:b`. -/
private def jsxAttributeName : P Unit := do
  let _ ← jsxWord
  if ← eat ":" then
    let _ ← jsxWord

/-- The inside of braces between tags after the opening one, up to but without the closing one. -/
private def jsxInner (r : Rules) : P (List Node) := do
  let parts ← if ← atPunct "\x7d" then pure []
    else do
      let _ ← eat "..."
      pure [← r.inner]
  unless ← atPunct "\x7d" do fail
  return parts

private def jsxAttributeValue (r : Rules) : P (List Node) := do
  failOnEof
  let s ← get
  match s.here.rest with
  | '{' :: _ =>
    let start ← offset
    advance
    if ← atPunct "\x7d" then failAt start
    let value ← r.inner
    expect "\x7d"
    return [value]
  | '<' :: _ =>
    let (element, _) ← r.jsx
    return [element]
  | quote :: rest =>
    if quote != '"' && quote != '\'' then fail
    match readJsxString quote (s.here.offset + 1) rest with
    | some after => continueAt after; return []
    | none => fun s => .error s.here.offset s
  | [] => fail

private def jsxAttribute (r : Rules) : P (List Node) := do
  if ← eat "\x7b" then
    expect "..."
    let e ← r.innerAssign
    expect "\x7d"
    return [e]
  jsxAttributeName
  if ← eat "=" then jsxAttributeValue r else return []

/-- Reads the `>` that ends a tag and gives the text after it. -/
private def jsxTagEnd : P Cursor := do
  let s ← get
  match s.here.rest with
  | '>' :: _ =>
    let after := s.here.advance 1
    continueAt after
    return after
  | _ => fail

/-- The rest of a closing tag after its slash. -/
private def jsxClosing (name : String) (start : Nat) : P Cursor := do
  let closing ← if Tok.isAnyWord (← token).tok then jsxElementName else pure ""
  let after ← jsxTagEnd
  unless closing == name do failAt start
  return after

/-- Children up to the closing tag: what was found (the last first) and the text to go on with. -/
private structure Children where
  found : List Node
  cursor : Cursor
  closed : Bool := false

private def jsxChild (r : Rules) (name : String) (c : Children) : P (Option Children) := do
  if c.closed then return none
  let (at_, faults) := readJsxText [] c.cursor.offset c.cursor.rest
  for f in faults.reverse do noteAt f
  match at_.rest with
  | '<' :: '/' :: _ =>
    let start := at_.offset
    continueAt (at_.advance 2)
    let after ← jsxClosing name start
    return some { c with cursor := after, closed := true }
  | '<' :: _ =>
    continueAt at_
    let (element, after) ← r.jsx
    return some { found := element :: c.found, cursor := after }
  | '{' :: _ =>
    continueAt (at_.advance 1)
    let parts ← jsxInner r
    return some { found := parts.reverse ++ c.found, cursor := (← get).after }
  | _ =>
    continueAt at_
    failOnEof
    fail

/-- An element from its `<` on. -/
def parseJsx (r : Rules) : P (Node × Cursor) := do
  let start ← offset
  let s ← get
  continueAt (s.here.advance 1)
  let isFragment := (← get).here.rest.head? == some '>'
  let name ← if isFragment then pure "" else jsxElementName
  let types ← if !isFragment && (← isTypescript) && (← atPunct "<") then attempt (typeArgs r)
    else pure none
  let attributes ← many do
    let rest := (← get).here.rest
    if rest.head? == some '>' || rest.head? == some '/' || rest.isEmpty then return none
    return some (← jsxAttribute r)
  let attributes := attributes.flatten ++ types.getD []
  failOnEof
  let s ← get
  if s.here.rest.head? == some '/' then
    continueAt (s.here.advance 1)
    let after ← jsxTagEnd
    return (.jsx (← spanFrom start) name attributes [], after)
  let after ← jsxTagEnd
  let children ← iterate (jsxChild r name) { found := [], cursor := after }
  return (.jsx (← spanFrom start) name attributes children.found.reverse,
    children.cursor)

end PageWiring.Script.Parse
