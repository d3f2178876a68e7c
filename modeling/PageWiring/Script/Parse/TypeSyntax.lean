import PageWiring.Script.Parse.Pattern
import PageWiring.Script.Parse.Template

/-!
Types of TypeScript.

Only the expressions that a type mentions are kept: keys of members, and what interfaces extend.
-/
namespace PageWiring.Script.Parse

/-- Reads one `>`, which may be the start of a longer token. -/
def eatGreater : P Bool := do
  let isGreater := match (← token).tok with
    | .punct p => p.startsWith ">"
    | _ => false
  if isGreater then
    let s ← get
    continueAt (s.here.advance 1)
  return isGreater

def expectGreater : P Unit := do
  unless ← eatGreater do fail

/-- Reads one `<`, which may be the start of `<<`. -/
def eatLess : P Bool := do
  if (← atPunct "<") || (← atPunct "<<") then
    let s ← get
    continueAt (s.here.advance 1)
    return true
  else return false

def atLess : P Bool := do return (← atPunct "<") || (← atPunct "<<")

/-- Items with commas between them, up to a closing mark that `atEnd` sees. -/
def commaList (atEnd : P Bool) (item : P α) : P (List α) :=
  many do
    if ← atEnd then return none
    let found ← item
    unless ← atEnd do expect ","
    return some found

private def atGreater : P Bool := do
  match (← token).tok with
  | .punct p => return p.startsWith ">"
  | _ => return false

/-- `<A, B>` -/
def typeArgs (r : Rules) : P (List Node) := do
  unless ← eatLess do fail
  let parts ← commaList atGreater r.type
  expectGreater
  return parts.flatten

/-- Which modifiers the type parameters of a declaration may have. -/
structure ParamModifiers where
  /-- `in` and `out` -/
  variance : Bool
  /-- `const` -/
  constant : Bool

/-- Adds a modifier of a type parameter to those before it and notes one that is out of place. -/
private def paramModifier (allowed : ParamModifiers) (before : List String) (w : String)
    (at_ : Nat) : P (List String) := do
  let isMistake := match w with
    | "const" => !allowed.constant
    | "in" => !allowed.variance || before.contains "in" || before.contains "out"
    | "out" => !allowed.variance || before.contains "out"
    | _ => true
  if isMistake then noteAt at_
  return w :: before

/-- A type parameter: where it starts, and the types that it mentions. -/
private def typeParam (r : Rules) (allowed : ParamModifiers) : P (Nat × List Node) := do
  let start ← offset
  let words := ["public", "private", "protected", "readonly", "abstract", "const", "override", "in",
    "out"]
  let _ ← iterate (fun before => do
    let at_ ← offset
    match ← eatModifier? words with
    | some w => return some (← paramModifier allowed before w at_)
    | none => return none) []
  expectAnyWord
  let bound ← if ← eatWord "extends" then r.type else pure []
  let other ← if ← eat "=" then r.type else pure []
  return (start, bound ++ other)

/-- `<A extends B = C>`, with the place where each parameter starts. -/
private def typeParamList (r : Rules) (allowed : ParamModifiers) : P (List (Nat × List Node)) := do
  unless ← eatLess do fail
  let found ← commaList atGreater (typeParam r allowed)
  expectGreater
  return found

/-- The type parameters of a function or a method. -/
def typeParams (r : Rules) : P (List Node) := do
  return (← typeParamList r ⟨false, true⟩).flatMap (·.2)

/-- Where type parameters start that mean nothing. -/
def typeParamStarts (r : Rules) : P (List Nat) := do
  return (← typeParamList r ⟨false, true⟩).map (·.1)

def optionalTypeParams (r : Rules) : P (List Node) := do
  if (← isTypescript) && (← atPunct "<") then typeParams r else return []

/-- The type parameters of a declared type, if it has some. -/
def declaredTypeParams (r : Rules) (allowed : ParamModifiers) : P (List Node) := do
  if (← isTypescript) && (← atPunct "<") then
    return (← typeParamList r allowed).flatMap (·.2)
  else return []

def optionalTypeArgs (r : Rules) : P (List Node) := do
  if (← isTypescript) && !(← newlineBefore) && (← atLess) then typeArgs r else return []

/-- A type after a colon that may also say what a call makes sure of (`x is T`, `asserts x`). -/
def predicateType (r : Rules) : P (List Node) := do
  let next ← peek
  let asserts := (← atWord "asserts") && (← peekName) && !next.newlineBefore
  if asserts then advance
  let next ← peek
  let isPredicate := (← atName) && Tok.isWord next.tok "is" && !next.newlineBefore
  if asserts || isPredicate then
    expectAnyWord
    if isPredicate then advance; r.type else return []
  else r.type

/-- The type after the parameters of a function. -/
def returnType (r : Rules) : P (List Node) := do
  if ← eatTyped ":" then predicateType r else return []

/-- The parameters of a signature with the closing parenthesis. None may have a default value. -/
private def signatureParams (r : Rules) : P (List Node) := do
  let params ← parseParams r
  for p in params.nodes do
    if let .compound _ .withDefault _ := p then fail
  expect ")"
  return params.nodes

/-- `(a: T): U` -/
private def signature (r : Rules) : P (List Node) := do
  let generics ← optionalTypeParams r
  expect "("
  let params ← signatureParams r
  return params ++ (← returnType r) ++ generics

private def endMember : P Unit := do
  if ← eat "," then return
  expectSemi

/-- Is this bracket the start of an index signature? A comma may stand for the colon. -/
private def atIndexSignature : P Bool := do
  if !(← atPunct "[") then return false
  wouldRead do
    advance
    unless ← atName do fail
    advance
    unless (← atPunct ":") || (← atPunct ",") do fail

/-- `[key: string]: T`, if it is one, with the mark that ends it. -/
def indexSignature? (r : Rules) : P (Option (List Node)) := do
  if !(← atIndexSignature) then return none
  advance
  let name ← offset
  advance
  if ← eat "," then noteAt name else expect ":"
  let keyType ← r.type
  expect "]"
  let valueType ← annotation r
  endMember
  return some (keyType ++ valueType)

/-- The key of a member, and what it mentions. A private name is noted. -/
private def typeMemberKey (r : Rules) : P (List Node) := do
  failOnEof
  let t ← token
  if ← eat "[" then
    let key ← r.assign
    expect "]"
    return [key]
  match t.tok with
  | .number => return [← r.newTarget]
  | .text _ => return [← r.newTarget]
  | .privateName _ => advance; noteAt t.span.start; return []
  | .word w _ => advance; return [.ident ⟨w, t.span⟩]
  | _ => fail

/-- `get a(): T` and `set a(b: T)` among the members of a type. -/
private def typeAccessor (r : Rules) : P (List Node) := do
  if ← eatWord "get" then
    let key ← typeMemberKey r
    expect "("
    expect ")"
    let types ← annotation r
    endMember
    return key ++ types
  else
    expectWord "set"
    let key ← typeMemberKey r
    expect "("
    match ← signatureParams r with
    | [] => fail
    | param :: _ =>
      endMember
      return key ++ [param]

/-- One member of an interface or of an object type. -/
private def typeMember (r : Rules) : P (List Node) := do
  if (← atPunct "(") || (← atPunct "<") then
    let parts ← signature r
    endMember
    return parts
  let next := (← peek).tok
  if (← atWord "new") && (Tok.isPunct next "(" || Tok.isPunct next "<") then
    advance
    let parts ← signature r
    endMember
    return parts
  let isReadonly ← eatModifier ["readonly"]
  if let some parts ← indexSignature? r then return parts
  if !isReadonly then
    if let some parts ← attempt (typeAccessor r) then return parts
  let key ← typeMemberKey r
  let _ ← eat "?"
  let isMethod := (← atPunct "(") || (← atPunct "<")
  if isMethod && isReadonly then fail
  let parts ← if isMethod then signature r else annotation r
  endMember
  return key ++ parts

/-- The members of an interface, with the braces. -/
def typeMembers (r : Rules) : P (List Node) := do
  expect "\x7b"
  let members ← many do
    if (← atEof) || (← atPunct "\x7d") then return none
    return some (← typeMember r)
  expect "\x7d"
  return members.flatten

/-- Is this brace the start of a mapped type? -/
private def atMappedType : P Bool :=
  wouldRead do
    expect "\x7b"
    if ← eatEither "+" "-" then
      expectWord "readonly"
    else
      let _ ← eatWord "readonly"
      expect "["
      unless ← atName do fail
      advance
      expectWord "in"

/-- `{ [K in T]?: U }` -/
private def mappedType (r : Rules) : P (List Node) := do
  expect "\x7b"
  if ← eatEither "+" "-" then expectWord "readonly" else let _ ← eatWord "readonly"
  expect "["
  expectAnyWord
  expectWord "in"
  let keys ← r.type
  let names ← if ← eatWord "as" then r.type else pure []
  expect "]"
  if ← eatEither "+" "-" then expect "?" else let _ ← eat "?"
  let value ← annotation r
  expectSemi
  expect "\x7d"
  return keys ++ names ++ value

/-- The kinds of elements that a tuple tells apart by their place. -/
private inductive TupleElement where
  | required | optional | rest
  deriving DecidableEq

private def tupleElement (r : Rules) : P (TupleElement × List Node) := do
  let _ ← attempt do
    let _ ← eat "..."
    expectAnyWord
    let _ ← eat "?"
    expect ":"
  if ← eat "..." then return (.rest, ← r.type)
  let parts ← r.type
  return (if ← eat "?" then .optional else .required, parts)

/-- Does a required element come after an optional one? -/
private def isMisordered (kinds : List TupleElement) : Bool :=
  (kinds.dropWhile (· != .optional)).contains .required

private def tupleType (r : Rules) : P (List Node) := do
  let start ← offset
  advance
  let elements ← commaList (atPunct "]") (tupleElement r)
  expect "]"
  if isMisordered (elements.map (·.1)) then failAt start
  return elements.flatMap (·.2)

/-- The rest of a dotted name. A dot that no name follows is noted. -/
private def entityTail : P Unit :=
  iterate (fun _ => do
    if ← eat "." then
      match (← token).tok with
      | .word _ _ => advance; return some ()
      | .privateName _ => fail
      | _ => note; return none
    else return none) ()

/-- `import('m', { with: {…} }).A`. An argument that is no text is noted. -/
private def importType (r : Rules) : P (List Node) := do
  expect "("
  failOnEof
  unless Tok.isText (← token).tok do note
  advance
  let attributes ← if ← eat "," then do
      expect "\x7b"
      expectWord "with"
      expect ":"
      unless ← atPunct "\x7b" do fail
      let attributes ← r.operand
      let _ ← eat ","
      expect "\x7d"
      pure [attributes]
    else pure []
  expect ")"
  if ← eat "." then
    expectAnyWord
    entityTail
  let types ← optionalTypeArgs r
  return types ++ attributes

/-- Keywords that a type may start with. -/
private def typeKeywords : List String := ["void", "null", "true", "false", "this", "break"]

/-- A type that is a name. A modifier before it is noted. -/
private def namedType (r : Rules) : P (List Node) := do
  let start ← offset
  let hasModifier ← eatParamModifier
  let isVoid := (← atWord "void") && Tok.isPunct (← peek).tok "."
  expectAnyWord
  if isVoid then note
  entityTail
  let types ← optionalTypeArgs r
  if hasModifier then noteAt start
  return types

private def primaryType (r : Rules) : P (List Node) := do
  failOnEof
  match (← token).tok with
  | .punct "(" =>
    advance
    let parts ← r.type
    expect ")"
    return parts
  | .punct "[" => tupleType r
  | .punct "\x7b" => if ← atMappedType then mappedType r else typeMembers r
  | .punct "-" =>
    advance
    unless (← token).tok == .number do fail
    advance
    return []
  | .number => advance; return []
  | .text _ => advance; return []
  | .template => return (← templateParts true r.type).2
  | .word "typeof" false =>
    advance
    if ← eatWord "import" then return ← importType r
    expectAnyWord
    entityTail
    optionalTypeArgs r
  | .word "import" false => advance; importType r
  | .word "this" false =>
    advance
    if (← atWord "is") && !(← newlineBefore) then
      advance
      r.type
    else return []
  | .word "asserts" false =>
    if Tok.isWord (← peek).tok "this" then
      advance
      advance
      if ← eatWord "is" then r.type else return []
    else namedType r
  | .word w escaped =>
    if !escaped && keywords.contains w && !typeKeywords.contains w then fail
    if w == "true" || w == "false" then advance; return [] else namedType r
  | _ => fail

/-- A type with `[]` and `[K]` after it. -/
private def arrayType (r : Rules) : P (List Node) := do
  let first ← primaryType r
  iterate (fun parts => do
    if (← atPunct "[") && !(← newlineBefore) then
      advance
      if ← eat "]" then return some parts
      let index ← r.type
      expect "]"
      return some (parts ++ index)
    else return none) first

private def operatorList (mark : String) (operand : P (List Node)) : P (List Node) := do
  let _ ← eat mark
  let first ← operand
  iterate (fun parts => do
    if ← eat mark then return some (parts ++ (← operand)) else return none) first

/-- `(a: T) => U` -/
private def functionType (r : Rules) : P (List Node) := do
  let generics ← optionalTypeParams r
  expect "("
  let params ← signatureParams r
  expect "=>"
  return params ++ generics ++ (← predicateType r)

/-- Is this parenthesis the start of a function type? -/
private def atFunctionType (r : Rules) : P Bool := do
  if ← atPunct "<" then return true
  if !(← atPunct "(") then return false
  wouldRead do
    advance
    if (← atPunct ")") || (← atPunct "...") then return
    let _ ← eatParamModifier
    if (← atName) || (← atWord "this") then advance
    else if (← atPunct "\x7b") || (← atPunct "[") then
      let _ ← r.pattern false
    else fail
    let startsNext := [Tok.punct ":", .punct ",", .punct "?", .punct "="].contains (← token).tok
    unless startsNext do
      expect ")"
      unless ← atPunct "=>" do fail

mutual

/-- A type with operators before it. -/
private def operatorType (r : Rules) : Nat → P (List Node)
  | 0 => fail
  | fuel + 1 => do
    if (← eatWord "keyof") || (← eatWord "unique") || (← eatWord "readonly") then
      operatorType r fuel
    else if ← eatWord "infer" then
      expectAnyWord
      let inExtends := (← ctx).inExtends
      let bound ← attempt do
        expectWord "extends"
        let parts ← plainTypeFor r fuel
        if !inExtends && (← atPunct "?") then fail
        return parts
      return bound.getD []
    else arrayType r

/-- A type that is no conditional type. -/
private def plainTypeFor (r : Rules) : Nat → P (List Node)
  | 0 => fail
  | fuel + 1 => do
    if ← atFunctionType r then return ← functionType r
    if (← atWord "abstract") && Tok.isWord (← peek).tok "new" then advance
    if ← eatWord "new" then return ← functionType r
    operatorList "|" (operatorList "&" (operatorType r fuel))

end

/-- A type that is no conditional type. -/
def plainType (r : Rules) : P (List Node) := fun s =>
  plainTypeFor r (s.size + 2 - s.token.span.start) s

/-- A type; conditional types are read up to their last branch. -/
def parseType (r : Rules) : P (List Node) := do
  let checked ← withCtx (fun c => { c with inExtends := false }) (plainType r)
  if !(← newlineBefore) && (← eatWord "extends") then
    let bound ← withCtx (fun c => { c with inExtends := true }) (plainType r)
    expect "?"
    let yes ← r.type
    expect ":"
    let no ← r.type
    return checked ++ bound ++ yes ++ no
  else return checked

end PageWiring.Script.Parse
