import PageWiring.Script.Parse.Rules

/-!
Names in scripts: which words may be names, and the keys of members.
-/
namespace PageWiring.Script.Parse

/-- May a word not be read as a name here? -/
def Ctx.reserves (c : Ctx) (w : String) : Bool := (lexMode c).reserves w

/-- Can a token be read as a name? -/
def Ctx.isName (c : Ctx) : Tok → Bool
  | .word w escaped => escaped || !c.reserves w
  | _ => false

/-- Is the current token a word that can be read as a name? -/
def atName : P Bool := fun s => .ok (s.ctx.isName s.token.tok) s

/-- Is the next token a word that can be read as a name? -/
def peekName : P Bool := do return (← ctx).isName (← peek).tok

/-- A name that is read or bound. Some reserved words are only noted. -/
def parseIdent : P Ident := do
  failOnEof
  let t ← token
  match t.tok with
  | .word w escaped =>
    let c ← ctx
    let at_ := t.span.start
    unless escaped do
      if w == "enum" then noteAt at_
      else if strictWords.contains w || w == "let" || w == "yield" then noteStrictAt at_
      if w == "await" && !c.ambient && (c.inStaticBlock || c.isModule || c.inAsync) then failAt at_
      if keywords.contains w && !(w == "this" && c.typescript) then failAt at_
    if w == "arguments" && c.inClassField then noteAt at_
    advance
    return ⟨w, t.span⟩
  | _ => fail

/-- A name that is bound; `let` may not be bound by a `let`. -/
def parseBindingIdent (disallowLet : Bool) : P Ident := do
  if disallowLet && (← atWord "let") then fail
  let id ← parseIdent
  let c ← ctx
  if id.name == "eval" || id.name == "arguments" then noteStrictAt id.span.start
  if (c.inAsync || c.inStaticBlock) && id.name == "await" then noteAt id.span.start
  if c.inGenerator && id.name == "yield" then noteAt id.span.start
  return id

/-- A key of a member, with the expression of a computed one. -/
def parseKey (r : Rules) : P (Key × List Node) := do
  failOnEof
  let t ← token
  match t.tok with
  | .word w _ => advance; return (.name ⟨w, t.span⟩, [])
  | .text v => advance; return (.text t.span v, [])
  | .number => advance; return (.number t.span, [])
  | .punct "[" =>
    advance
    let first ← r.innerAssign
    let more ← if (← isTypescript) && (← atPunct ",") then do
        let found ← many do
          if ← eat "," then return some (← r.innerAssign) else return none
        noteAt first.span.start
        pure found
      else pure []
    expect "]"
    return (.computed (← spanFrom t.span.start), first :: more)
  | _ => fail

/-- A name where keywords are names too. -/
def anyName : P Ident := do
  failOnEof
  let t ← token
  match t.tok with
  | .word w _ => advance; return ⟨w, t.span⟩
  | _ => fail

/-- Names of types that no class and no interface may have. -/
def builtinTypes : List String :=
  ["string", "null", "number", "object", "any", "unknown", "boolean", "bigint", "symbol", "void",
    "never", "intrinsic"]

end PageWiring.Script.Parse
