import PageWiring.Script.Parse.Declaration
import PageWiring.Script.Parse.Literal

/-!
Imports, exports, and statements where they stand.
-/
namespace PageWiring.Script.Parse

private def inert (start : Nat) : P Node := do
  return .compound (← spanFrom start) .inert []

/-- A string that names a module, and what may follow it: attributes on the same line. -/
private def moduleText (r : Rules) : P (List Node) := do
  failOnEof
  unless Tok.isText (← token).tok do fail
  advance
  let hasAttributes := !(← newlineBefore) && ((← atWord "with") || (← atWord "assert"))
  let attributes ← if hasAttributes then do
      advance
      unless ← atPunct "\x7b" do fail
      pure [← objectLiteral r]
    else pure []
  expectSemi
  return attributes

/-- The module that something is imported or exported from, as a statement. -/
private def fromClause (r : Rules) (start : Nat) : P Node := do
  expectWord "from"
  let attributes ← moduleText r
  return .compound (← spanFrom start) .statement attributes

/-- A name or a string that stands for an imported or exported name. -/
private def exportedName : P (Option Ident) := do
  failOnEof
  let t ← token
  match t.tok with
  | .word w _ => advance; return some ⟨w, t.span⟩
  | .text _ => advance; return none
  | _ => fail

/-- What a specifier says before the name in this module. -/
private inductive SpecifierStart where
  /-- The name that is imported or exported, after which `as` may follow; none if it is a string. -/
  | name (id : Option Ident)
  /-- Nothing more follows. -/
  | whole (id : Ident)

/-- The start of a specifier. In TypeScript `type` may stand before the name, and then `as` may be
the name itself. `other` reads the name after `as`. -/
private def specifierStart (other : P Ident) : P SpecifierStart := do
  let first ← exportedName
  let isMarked := (← isTypescript) && (first.map (·.name)) == some "type" &&
    Tok.isAnyWord (← token).tok
  match first, isMarked with
  | some first, true =>
    let name ← anyName
    if name.name != "as" then return .name name
    if !Tok.isAnyWord (← token).tok then return .whole name
    let second ← other
    if second.name == "as" && Tok.isAnyWord (← token).tok then
      let _ ← other
      return .whole name
    else return .whole first
  | first, _ => return .name first

/-- One import in braces: `a`, `a as b` or `'a' as b`. -/
private def importSpecifier : P Unit := do
  let start ← offset
  match ← specifierStart (parseBindingIdent false) with
  | .whole _ => return
  | .name id =>
    if ← eatWord "as" then
      let _ ← parseBindingIdent false
    else if id.isNone then failAt start

private def importList : P Unit := do
  let _ ← many do
    if (← atEof) || (← atPunct "\x7d") then return none
    importSpecifier
    unless ← atPunct "\x7d" do expect ","
    return some ()
  expect "\x7d"

/-- The rest of `import a = …` after the name. -/
private def importEquals (start : Nat) : P Node := do
  expect "="
  if (← atWord "require") && Tok.isPunct (← peek).tok "(" then
    advance
    advance
    unless Tok.isText (← token).tok do fail
    advance
    expect ")"
  else
    let _ ← anyName
    let _ ← many do
      if ← eat "." then return some (← anyName) else return none
  expectSemi
  inert start

/-- What the name after `import` is. -/
private inductive DefaultImport where
  /-- A name, after which more may follow. -/
  | named
  /-- A word that says how the import is done, or that only types are imported. -/
  | marker
  /-- `a = …`, read to its end. -/
  | alias (node : Node)

/-- May the word be followed by the name of a default import? -/
private def marksDefault : P Bool := do
  return (← atName) && (!(← atWord "from") || Tok.isWord (← peek).tok "from")

/-- The name after `import`, and the marker before it. -/
private def defaultImport (start : Nat) : P DefaultImport := do
  let ts ← isTypescript
  let first ← parseBindingIdent false
  if ts && first.name == "type" then
    if (← atPunct "*") || (← atPunct "\x7b") then return .marker
    if ← marksDefault then
      let _ ← parseBindingIdent false
    else if (← atName) && Tok.isPunct (← peek).tok "=" then
      let _ ← anyName
  if ts && (← atPunct "=") then return .alias (← importEquals start)
  if first.name == "source" || first.name == "defer" then
    if ← marksDefault then
      let _ ← parseBindingIdent false
    else if first.name == "defer" && (← atPunct "*") then return .marker
  unless ← atWord "from" do expect ","
  return .named

def importDeclaration (r : Rules) : P Node := do
  let start ← offset
  let next ← peek
  if Tok.isPunct next.tok "(" || Tok.isPunct next.tok "." then return ← importStatement r
  advance
  if Tok.isText (← token).tok then
    let attributes ← moduleText r
    return .compound (← spanFrom start) .statement attributes
  if ← atName then
    if let .alias n ← defaultImport start then return n
  if ← eat "*" then
    expectWord "as"
    let _ ← parseBindingIdent false
  else if ← eat "\x7b" then importList
  fromClause r start

/-- One export in braces: `a`, `a as b` or `a as 'b'`. -/
private def exportSpecifier : P (Option Ident × Nat) := do
  let start ← offset
  match ← specifierStart anyName with
  | .whole id => return (some id, start)
  | .name id =>
    if ← eatWord "as" then
      let _ ← exportedName
    return (id, start)

/-- Names that can be exported from another module only. -/
private def isReserved (w : String) : Bool :=
  keywords.contains w || w == "enum" || w == "package"

/-- Names exported in braces, here or from another module. -/
private def exportList (r : Rules) (start : Nat) : P Node := do
  expect "\x7b"
  let names ← many do
    if (← atEof) || (← atPunct "\x7d") then return none
    let s ← exportSpecifier
    unless ← atPunct "\x7d" do expect ","
    return some s
  expect "\x7d"
  if ← atWord "from" then fromClause r start
  else
    for (name, at_) in names do
      match name with
      | some id => if isReserved id.name then noteAt at_
      | none => noteAt at_
    let _ ← eatSemi
    return .exportNames (names.filterMap (·.1))

private def exportDefaultClause (r : Rules) : P Node := do
  let start ← offset
  if ← isTypescript then
    let next ← peek
    if (← atWord "abstract") && Tok.isWord next.tok "class" && !next.newlineBefore then
      advance
      return ← defaultClass true
    if (← atWord "abstract") && Tok.isWord next.tok "interface" then
      note
      advance
    if ← eatWord "interface" then return .exportDecl (← interfaceAfter r start)
  if ← atWord "class" then return ← defaultClass false
  let isAsync ← atAsyncFunction
  if isAsync then advance
  if ← atWord "function" then
    let (name, f) ← functionAfter r isAsync false false
    return .exportDefaultFunction name f.params f.body f.types
  let value ← r.innerAssign
  expectSemi
  return .exportDefault value
where
  defaultClass (isAbstract : Bool) : P Node := do
    let c ← classParts r false isAbstract
    return .exportDefaultClass c.members c.superClass c.types

/-- The forms of `export` that only TypeScript has. -/
private def typescriptExport? (r : Rules) (start : Nat) : P (Option Node) := do
  if !(← isTypescript) then return none
  if ← eatWord "declare" then
    if let some d ← ambient? r start then return some (.exportDecl d)
  let here ← offset
  let declaration ← attempt do
    match ← committedDeclaration? r here with
    | some d => return d
    | none => fail
  if let some d := declaration then return some (.exportDecl d)
  if ← eatWord "import" then
    if (← atWord "type") && (← peekName) then advance
    let _ ← anyName
    return some (← importEquals start)
  if ← eat "=" then
    let value ← r.inner
    expectSemi
    return some (.compound (← spanFrom start) .statement [value])
  if ← eatWord "as" then
    expectWord "namespace"
    let _ ← parseIdent
    expectSemi
    return some (← inert start)
  return none

/-- What is exported by its name alone, or from another module. -/
private def exportNamed (r : Rules) (start : Nat) : P Node := do
  if ← eat "*" then
    if ← eatWord "as" then
      let _ ← exportedName
    fromClause r start
  else exportList r start

def exportDeclaration (r : Rules) : P Node := do
  let start ← offset
  advance
  failOnEof
  if let some n ← typescriptExport? r start then return n
  if (← isTypescript) && (← eatWord "type") then return ← exportNamed r start
  if ← eatWord "default" then return ← exportDefaultClause r
  let here ← offset
  if ← atWord "class" then return .exportDecl (← classDecl r here false)
  if ← atAsyncFunction then return .exportDecl (← asyncFunctionDecl r)
  if ← atWord "function" then return .exportDecl (← functionDecl r here false)
  if ← isTypescript then
    if let some d ← constEnum? r here then return .exportDecl d
  if ← atWord "var" then return .exportDecl (← varStatement r .function)
  if ← atWord "const" then return .exportDecl (← varStatement r .constant)
  if (← atWord "let") && followsLet (← ctx) (← peek) then
    return .exportDecl (← varStatement r .block)
  exportNamed r start

/-- Is a statement in this place not inside another one? -/
private def Place.isTop : Place → Bool
  | .module => true
  | .script => true
  | .list => false
  | .single => false

/-- A statement, where it stands. -/
def parseStatement (r : Rules) (place : Place) : P Node :=
  withCtx (fun c => { c with topLevel := c.topLevel && place.isTop }) do
    if let some d ← typescriptDeclaration? r then return d
    if place == .module then
      if ← atWord "import" then return ← importDeclaration r
      if ← atWord "export" then return ← exportDeclaration r
    plainStatement r place

end PageWiring.Script.Parse
