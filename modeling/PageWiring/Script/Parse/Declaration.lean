import PageWiring.Script.Parse.Statement

/-!
Declarations that only TypeScript has.

An interface, a type or an enumeration leaves the expressions it mentions; a namespace has items of
its own.
-/
namespace PageWiring.Script.Parse

private def typeOnly (start : Nat) (parts : List Node) : P Node := do
  return .compound (← spanFrom start) .typeOnly parts

/-- Skips what a second `extends` of an interface names, with one mistake noted. -/
private def skipSecondExtends : P Unit := do
  if ← atWord "extends" then
    note
    let _ ← many do
      if (← atEof) || (← atPunct "\x7b") then return none
      advance
      return some ()

/-- An interface from its name on. -/
def interfaceAfter (r : Rules) (start : Nat) : P Node := do
  let name ← anyName
  if builtinTypes.contains name.name then noteAt name.span.start
  let generics ← declaredTypeParams r ⟨true, false⟩
  let bases ← if ← eatWord "extends" then heritage r else pure []
  skipSecondExtends
  let members ← typeMembers r
  typeOnly start (generics ++ bases ++ members)

/-- A type alias from its name on. -/
private def aliasAfter (r : Rules) (start : Nat) : P Node := do
  let _ ← anyName
  let generics ← declaredTypeParams r ⟨true, false⟩
  expect "="
  let types ← r.type
  expectSemi
  typeOnly start (generics ++ types)

/-- The name of a member of an enumeration. One that is no name or text is noted. -/
private def enumMemberName (r : Rules) : P Unit := do
  failOnEof
  let t ← token
  match t.tok with
  | .text _ => advance
  | .number =>
    advance
    noteAt t.span.start
  | .punct "[" =>
    advance
    let _ ← r.expr
    noteAt t.span.start
    expect "]"
  | _ => expectAnyWord

/-- A member of an enumeration with the comma after it. Any other mark in its place is noted. -/
private def enumMember (r : Rules) : P (List Node) := do
  enumMemberName r
  let value ← if ← eat "=" then do pure [← r.assign] else pure []
  if ← atPunct "\x7d" then return value
  if value.isEmpty && !(← atPunct ",") then
    failOnEof
    note
    advance
  else expect ","
  return value

/-- An enumeration from its name on. -/
def enumAfter (r : Rules) (start : Nat) : P Node := do
  let _ ← anyName
  expect "\x7b"
  let values ← many do
    if ← atPunct "\x7d" then return none
    return some (← enumMember r)
  expect "\x7d"
  typeOnly start values.flatten

/-- The items of a namespace in braces. -/
private def spaceBody (r : Rules) (start : Nat) : P Node := do
  expect "\x7b"
  let items ← withCtx (fun c => { c with topLevel := true }) do
    many do
      if (← atEof) || (← atPunct "\x7d") then return none
      return some (← r.statement .module)
  if ← atEof then note else expect "\x7d"
  return .compound (← spanFrom start) .space items

/-- The items of a module, which may have none. -/
private def optionalSpaceBody (r : Rules) (start : Nat) : P Node := do
  if ← atPunct "\x7b" then spaceBody r start
  else
    expectSemi
    return .compound (← spanFrom start) .space []

/-- A namespace from its name on. -/
private def spaceAfter (r : Rules) (start : Nat) : P Node := do
  let _ ← anyName
  let _ ← many do
    if ← eat "." then return some (← anyName) else return none
  spaceBody r start

/-- A module from its name on, which may be a text. -/
private def moduleAfter (r : Rules) (start : Nat) : P Node := do
  if Tok.isText (← token).tok then
    advance
    optionalSpaceBody r start
  else spaceAfter r start

/-- A declaration after `declare` or `export`, where its first word can be nothing else. -/
def committedDeclaration? (r : Rules) (start : Nat) : P (Option Node) := do
  match (← token).tok with
  | .word "abstract" false => advance; some <$> classDecl r start true
  | .word "enum" false => advance; some <$> enumAfter r start
  | .word "interface" false => advance; some <$> interfaceAfter r start
  | .word "namespace" false => advance; some <$> spaceAfter r start
  | .word "type" false => advance; some <$> aliasAfter r start
  | .word "module" false =>
    if ← newlineBefore then return none
    advance
    some <$> moduleAfter r start
  | _ => return none

/-- `const enum`, and the enumeration. -/
def constEnum? (r : Rules) (start : Nat) : P (Option Node) := do
  if (← atWord "const") && Tok.isWord (← peek).tok "enum" then
    advance
    advance
    some <$> enumAfter r start
  else return none

/-- What follows `declare`, if that makes a declaration. A `declare` inside another one is noted. -/
def ambient? (r : Rules) (start : Nat) : P (Option Node) := do
  if (← ctx).ambient then noteAt start
  withCtx (fun c => { c with ambient := true }) do
    if let some d ← constEnum? r start then return some d
    match (← token).tok with
    | .word "function" false => some <$> functionDecl r start false
    | .word "class" false => some <$> classDecl r start false
    | .word "var" false => some <$> varStatement r .function
    | .word "let" false => some <$> varStatement r .block
    | .word "const" false => some <$> varStatement r .constant
    | .word "global" false => advance; some <$> optionalSpaceBody r start
    | _ => committedDeclaration? r start

private def declarable : List String :=
  ["function", "class", "var", "let", "const", "abstract", "enum", "interface", "type",
    "namespace", "module", "global"]

/-- A declaration of TypeScript, if one starts here. -/
def typescriptDeclaration? (r : Rules) : P (Option Node) := do
  if !(← isTypescript) then return none
  let start ← offset
  let next ← peek
  let named ← peekName
  let sameLine := !next.newlineBefore
  let isOperand := sameLine && (Tok.isWord next.tok "as" || Tok.isWord next.tok "satisfies")
  let declares : Bool := match (← token).tok with
    | .word "abstract" false => Tok.isWord next.tok "class" && sameLine
    | .word "enum" false => named || (sameLine && Tok.isAnyWord next.tok)
    | .word "interface" false => sameLine && Tok.isAnyWord next.tok
    | .word "type" false => sameLine && Tok.isAnyWord next.tok
    | .word "namespace" false => named && !isOperand
    | .word "module" false => (named || Tok.isText next.tok) && sameLine && !isOperand
    | _ => false
  match (← token).tok with
  | .word "const" false => constEnum? r start
  | .word "declare" false =>
    let follows := match next.tok with
      | .word w false => declarable.contains w && (sameLine || w != "module")
      | _ => false
    if follows then
      advance
      ambient? r start
    else return none
  | .word "global" false =>
    if Tok.isPunct next.tok "\x7b" then
      advance
      some <$> spaceBody r start
    else return none
  | .word "module" false =>
    if declares then
      advance
      some <$> moduleAfter r start
    else return none
  | .word w false =>
    if ["public", "static", "abstract"].contains w && Tok.isWord next.tok "interface" then
      -- none of these words can stand before an interface
      noteAt start
      advance
      committedDeclaration? r start
    else if declares then committedDeclaration? r start
    else return none
  | _ => return none

end PageWiring.Script.Parse
