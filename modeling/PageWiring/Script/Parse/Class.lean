import PageWiring.Script.Parse.Function

/-!
Classes.
-/
namespace PageWiring.Script.Parse

/-- The key of a class member: a private name, or a key as in an object. -/
private inductive MemberKey where
  | hidden (id : Ident)
  | shown (key : Key) (parts : List Node)

private def MemberKey.start : MemberKey → Nat
  | .hidden id => id.span.start
  | .shown key _ => key.span.start

/-- Is the member the constructor of its class? -/
private def MemberKey.isConstructor : MemberKey → Bool
  | .hidden _ => false
  | .shown key _ => key.name? == some "constructor"

/-- Is the key this word, unquoted? -/
private def MemberKey.isWord (k : MemberKey) (w : String) : Bool :=
  match k with
  | .shown (.name id) _ => id.name == w
  | _ => false

private def MemberKey.ofWord (t : Token) (w : String) : MemberKey := .shown (.name ⟨w, t.span⟩) []

private def memberKey (r : Rules) : P MemberKey := do
  let t ← token
  match t.tok with
  | .privateName name =>
    if name == "constructor" then noteAt t.span.start
    advance
    return .hidden ⟨name, t.span⟩
  | _ =>
    let (key, parts) ← parseKey r
    return .shown key parts

/-- What stands before the key of a member. -/
private structure Modifiers where
  /-- Where the member starts. -/
  start : Nat
  declareAt : Option Nat := none
  hasAccess : Bool := false
  staticAt : Option Nat := none
  isStatic : Bool := false
  isAccessor : Bool := false
  isAbstract : Bool := false
  isOverride : Bool := false
  readonlyAt : Option Span := none
  /-- Where the last of the modifiers after `static` stands. -/
  lastModifier : Option Nat := none

private structure Member where
  node : Node
  /-- Where it starts, if it is abstract and has a key that others can see. -/
  abstractAt : Option Nat := none
  /-- Is it a constructor with code? -/
  isConstructor : Bool := false

private def plainMember (node : Node) : Member := { node := node }

/-- Does a method's parameter list follow? -/
private def atMethod : P Bool := do
  return (← atPunct "(") || ((← isTypescript) && (← atPunct "<"))

/-- Is the member a property that ends or gets a value here? -/
private def atProperty (lineBreakEnds : Bool) : P Bool := do
  if (← isTypescript) && ((← atPunct "!") || (← atPunct ":")) then return true
  if (← atPunct "=") || (← atPunct "\x7d") then return true
  if lineBreakEnds then atSemi else atPunct ";"

private def method (r : Rules) (m : Modifiers) (kind : MethodKind) (key : MemberKey)
    (isAsync isGenerator : Bool) (check : Params → P Unit) : P Member := do
  let f ← withCtx (fun c => { c with inClassField := false, superAllowed := true })
    (functionParts r isAsync isGenerator check)
  match key with
  | .hidden id =>
    if m.hasAccess then noteAt m.start
    return plainMember (.privateMethod id f.params f.body f.types)
  | .shown k parts =>
    if m.isAbstract && f.hasBody then noteAt m.start
    return {
      node := .classMethod kind k parts f.params f.body f.types
      abstractAt := if m.isAbstract then some m.start else none }

private def property (r : Rules) (m : Modifiers) (key : MemberKey) (isOptional : Bool) :
    P Member := do
  if key.isConstructor then failAt key.start
  if let .hidden id := key then
    if m.declareAt.isSome then noteAt id.span.start
    if m.isAbstract then noteAt id.span.start
  if (← isTypescript) && !isOptional then
    let _ ← eat "!"
  let types ← annotation r
  let value ← withCtx (fun c => { c with inOperator := true, inClassField := true }) do
    if ← eat "=" then return [← r.assign] else return []
  unless ← eatSemi do note
  let span ← spanFrom m.start
  if m.isAccessor then
    let parts := match key with
      | .hidden _ => []
      | .shown _ parts => parts
    return plainMember (.compound span .accessor (parts ++ value ++ types))
  match key with
  | .hidden id =>
    if m.hasAccess then noteAt m.start
    return plainMember (.compound id.span .privateProperty (value ++ types))
  | .shown k parts =>
    if m.isAbstract && !value.isEmpty then noteAt m.start
    return {
      node := .classProperty k parts value types
      abstractAt := if m.isAbstract then some m.start else none }

/-- The type parameters of a constructor, which are a mistake each. -/
private def constructorTypeParams (r : Rules) : P Unit := do
  if !((← isTypescript) && (← atPunct "<")) then return
  let start ← offset
  if Tok.isPunct (← peek).tok ">" then
    advance
    advance
    noteAt start
    noteAt (← prevSpan).start
  else
    for at_ in ← typeParamStarts r do noteAt at_

private def constructorMember (r : Rules) (m : Modifiers) : P Member := do
  if m.isOverride then noteAt m.start
  constructorTypeParams r
  expect "("
  let params ← withCtx (fun c => { c with inParams := true, inFunction := false })
    (constructorParams r)
  expect ")"
  if (← isTypescript) && (← atPunct ":") then
    advance
    let at_ ← offset
    let _ ← r.type
    noteAt at_
  let body ← withCtx (fun c => { c with inClassField := false })
    (optionalBody r false false params)
  if body.isNone then
    for at_ in params.properties do noteAt at_
    for p in params.nodes do
      if let .compound span .withDefault _ := p then noteAt span.start
  if let some at_ := m.staticAt then noteAt at_
  if m.isAbstract then noteAt (m.lastModifier.getD m.start)
  return {
    node := .constructor (← spanFrom m.start) params.nodes (body.getD []) []
    isConstructor := body.isSome }

private def staticBlock (r : Rules) (m : Modifiers) : P Member := do
  if let some at_ := m.declareAt then noteAt at_
  if m.hasAccess then note
  let body ← withCtx (fun c => { c with
      inStaticBlock := true
      inClassField := true }) (block r)
  return plainMember (.compound (← spanFrom m.start) .staticBlock body)

/-- Adds a modifier after `static`, noting one that is repeated or out of place. -/
private def addModifier (hasSuper : Bool) (m : Modifiers) (w : String) (span : Span) :
    P Modifiers := do
  match w with
  | "abstract" =>
    if m.isAbstract || m.isOverride then noteAt span.start
    return { m with isAbstract := true }
  | "override" =>
    if m.isOverride || m.readonlyAt.isSome || m.declareAt.isSome || !hasSuper then
      noteAt span.start
    return { m with isOverride := true }
  | "readonly" =>
    if m.readonlyAt.isSome then noteAt span.start
    return { m with readonlyAt := m.readonlyAt.or (some span) }
  | _ =>
    if m.isOverride then noteAt span.start
    return { m with isStatic := true }

private def laterModifiers (hasSuper : Bool) (m : Modifiers) : P Modifiers :=
  iterate (fun m => do
    if (← atWord "static") && Tok.isPunct (← peek).tok "\x7b" then return none
    let t ← token
    match ← eatModifier? ["abstract", "readonly", "override", "static"] with
    | some w =>
      let m ← addModifier hasSuper m w t.span
      return some { m with lastModifier := some t.span.start }
    | none => return none) m

/-- A method or property after its key. -/
private def memberAfterKey (r : Rules) (m : Modifiers) (key : MemberKey) (isOptional : Bool) :
    P Member := do
  if ← atMethod then
    if let some at_ := m.declareAt then noteAt at_
    if m.readonlyAt.isSome then failAt m.start
    if key.isConstructor then return ← constructorMember r m
    return ← method r m .method key false false anyParams
  let generatorOnNextLine := (← newlineBefore) && (← atPunct "*")
  let isAccessor := (key.isWord "get" || key.isWord "set") && !(← atProperty false) &&
    !generatorOnNextLine
  if !isAccessor && (← atProperty true) then return ← property r m key isOptional
  if key.isWord "async" && !(← newlineBefore) then
    if ← eatModifier ["override"] then noteAt (← prevSpan).start
    let isGenerator ← eat "*"
    let key ← memberKey r
    if key.isConstructor then failAt key.start
    if m.readonlyAt.isSome then noteAt m.start
    if !isOptional then
      let _ ← eatTyped "?"
    return ← method r m .method key true isGenerator anyParams
  if isAccessor then
    let isGetter := key.isWord "get"
    let kind := if isGetter then MethodKind.getter else MethodKind.setter
    let keyAt := key.start
    let check := if isGetter then getterParams keyAt else setterParams keyAt
    let key ← memberKey r
    if m.readonlyAt.isSome then noteAt keyAt
    if key.isConstructor then noteAt keyAt
    return ← method r m kind key false false check
  fail

/-- The word before a member in a class of TypeScript that makes a property out of two methods. -/
private def eatAccessorWord : P Bool := do
  if ← isTypescript then eatWord "accessor" else return false

/-- A member after `static` and what stands before it. -/
private def memberAfterStatic (r : Rules) (hasSuper : Bool) (m : Modifiers) : P Member := do
  let m ← laterModifiers hasSuper m
  let m ← if m.isAccessor then pure m else do pure { m with isAccessor := ← eatAccessorWord }
  if m.isStatic && (← atPunct "\x7b") then return ← staticBlock r m
  if (← atWord "static") && Tok.isPunct (← peek).tok "\x7b" then
    if let some at_ := m.lastModifier then noteAt at_
    if let some at_ := m.staticAt then noteAt at_
    advance
    return ← staticBlock r { m with declareAt := none, hasAccess := false }
  if (← isTypescript) && !m.isAbstract && !m.isOverride && !m.hasAccess then
    if let some parts ← indexSignature? r then
      return plainMember (.compound (← spanFrom m.start) .typeOnly parts)
  if ← eat "*" then
    let key ← memberKey r
    if m.readonlyAt.isSome then noteAt m.start
    if key.isConstructor then noteAt m.start
    return ← method r m .method key false true anyParams
  let key ← match m.readonlyAt with
    | some span =>
      if (← atPunct "!") || (← atPunct ":") then
        pure (MemberKey.shown (.name ⟨"readonly", span⟩) [])
      else memberKey r
    | none => memberKey r
  let isOptional ← eatTyped "?"
  memberAfterKey r m key isOptional

/-- A member whose key is a word that could also have been a modifier, if it is one. -/
private def memberNamed? (r : Rules) (m : Modifiers) (word : Token) (name : String)
    (lineBreakEnds : Bool) : P (Option Member) := do
  let key := MemberKey.ofWord word name
  if ← atMethod then return some (← method r m .method key false false anyParams)
  if ← atProperty lineBreakEnds then return some (← property r m key false)
  return none

private def classMember (r : Rules) (hasSuper : Bool) : P Member := do
  let start ← offset
  let ts ← isTypescript
  let m : Modifiers := { start := start }
  let first ← token
  let isDeclared ← if ts then eatWord "declare" else pure false
  let hasAccess ← eatModifier ["public", "protected", "private"]
  let second ← token
  let isDeclaredLater ← if ts && !isDeclared then eatWord "declare" else pure false
  let m := { m with hasAccess := hasAccess }
  if isDeclared || isDeclaredLater then
    let word := if isDeclaredLater then second else first
    if let some member ← memberNamed? r m word "declare" true then return member
  let m := { m with declareAt := if isDeclared || isDeclaredLater then some start else none }
  let staticWord ← token
  let isStatic ← eatWord "static"
  let m := { m with
    staticAt := if isStatic then some staticWord.span.start else none
    isStatic := isStatic }
  let accessorWord ← token
  if ← eatAccessorWord then
    if let some member ← memberNamed? r m accessorWord "accessor" true then return member
    return ← memberAfterStatic r hasSuper { m with isAccessor := true }
  if isStatic && !(← atPunct "\x7b") then
    let unmarked := { m with staticAt := none, isStatic := false }
    if let some member ← memberNamed? r unmarked staticWord "static" false then return member
  memberAfterStatic r hasSuper m

/-- The members between the braces of a class. A second constructor is noted. -/
private def classMembers (r : Rules) (hasSuper : Bool) : P (List Member) := do
  let isAmbient := (← ctx).ambient
  let members ← iterate (fun (acc : List Member) => do
    if (← atEof) || (← atPunct "\x7d") then return none
    if ← eat ";" then return some acc
    let start ← offset
    let m ← classMember r hasSuper
    if !isAmbient && m.isConstructor && acc.any (·.isConstructor) then noteAt start
    return some (m :: acc)) []
  return members.reverse

/-- An expression with type arguments, which are kept apart from it. -/
private def splitTypeArgs (r : Rules) (e : Node) : P (Node × List Node) := do
  match e with
  | .compound _ .assertion (target :: types@(_ :: _)) => return (target, types)
  | _ => if (← isTypescript) && (← atPunct "<") then return (e, ← typeArgs r) else return (e, [])

private def superClassOf (r : Rules) : P (Node × List Node) := do splitTypeArgs r (← r.operand)

/-- What a class implements or an interface extends: names with type arguments. -/
def heritage (r : Rules) : P (List Node) := do
  let atEnd : P Bool := do
    return (← atPunct "\x7b") || (← atWord "implements") || (← atWord "extends")
  let items ← commaList atEnd do
    let e ← r.operand
    let isNamed := match e with
      | .ident _ => true
      | .member _ optional _ _ => !optional
      | .compound _ kind _ => [Compound.index, .privateMember, .assertion].contains kind
      | _ => false
    unless isNamed do noteAt (← prevSpan).start
    let (e, types) ← splitTypeArgs r e
    return e :: types
  return items.flatten

structure ClassParts where
  name : Option Ident
  members : List Node
  superClass : List Node
  types : List Node

/-- What a class extends: the class, and its type arguments. Further ones are mistakes. -/
private def extendsClause (r : Rules) : P (Option (Node × List Node)) := do
  let base ← if ← eatWord "extends" then
      let base ← superClassOf r
      if ← eatTyped "," then
        for e in ← heritage r do noteAt e.span.start
      pure (some base)
    else pure none
  if ← eatWord "extends" then
    noteAt (← prevSpan).start
    let _ ← superClassOf r
  return base

/-- What a class implements, where a late `extends` is a mistake that counts if it is the first. -/
private def implementsClause (r : Rules) (base : Option (Node × List Node)) :
    P (List Node × Option (Node × List Node)) := do
  if !(← isTypescript) then return ([], base)
  let interfaces ← if ← eatWord "implements" then heritage r else pure []
  if ← eatWord "implements" then
    noteAt (← prevSpan).start
    let _ ← heritage r
  if ← eatWord "extends" then
    noteAt (← prevSpan).start
    let late ← superClassOf r
    return (interfaces, base.or (some late))
  return (interfaces, base)

/-- A class from `class` on. All of it is strict code. -/
def classParts (r : Rules) (nameRequired isAbstract : Bool) : P ClassParts := do
  let (parts, members) ← withCtx (fun c => { c with strict := true, inClass := true }) do
    expectWord "class"
    let hasName ← if nameRequired then pure true else atName
    let name ← if hasName then some <$> parseBindingIdent true else pure none
    if ← isTypescript then
      if let some id := name then
        if builtinTypes.contains id.name then noteAt id.span.start
    let generics ← declaredTypeParams r ⟨true, true⟩
    let base ← extendsClause r
    let (interfaces, base) ← implementsClause r base
    expect "\x7b"
    let members ← withCtx (fun c => { c with superAllowed := true })
      (classMembers r base.isSome)
    let superTypes := (base.map (·.2)).getD []
    return ((⟨name, members.map (·.node), (base.map (·.1)).toList,
      generics ++ superTypes ++ interfaces⟩ : ClassParts), members)
  if ← atEof then note else expect "\x7d"
  unless isAbstract do
    for m in members do
      if let some at_ := m.abstractAt then noteAt at_
  return parts

end PageWiring.Script.Parse
