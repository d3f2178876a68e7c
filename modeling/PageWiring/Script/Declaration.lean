import PageWiring.Script.Syntax

/-!
Finding the statement that declares a function.

Only whole statements count: an exported declaration, or a declaration in the head of a loop or by
`using`, is none.
-/
namespace PageWiring.Script

/-- Does a statement declare just this function, with its name on this line? -/
def declares (lineOf : Span → Nat) (name : String) (line : Nat) : Node → Bool
  | .functionDecl _ id _ _ _ => id.name == name && lineOf id.span == line
  | .vars _ [.declarator _ (.binding id _) [value]] =>
    value.isFunctionValue && id.name == name && lineOf id.span == line
  | _ => false

mutual

/-- The first statement in a tree that satisfies a test, in the order of reading. -/
def findStatement (p : Node → Bool) : Node → Option Span
  | .ident _ => none
  | .text _ _ => none
  | .template _ _ parts => findIn p parts
  | .paren _ inner => findStatement p inner
  | .function _ _ params body types =>
    findIn p params <|> findIn p body <|> findIn p types
  | .arrow _ params body types => findIn p params <|> findIn p body <|> findIn p types
  | .classNode _ _ members superClass types =>
    findIn p members <|> findIn p superClass <|> findIn p types
  | .object _ props => findIn p props
  | .member _ _ object _ => findStatement p object
  | .call _ _ callee args => findStatement p callee <|> findIn p args
  | .construct _ callee args => findStatement p callee <|> findIn p args
  | .assign _ _ target value => findStatement p target <|> findStatement p value
  | .jsx _ _ attributes children => findIn p attributes <|> findIn p children
  | .compound _ _ parts => findIn p parts
  | .shorthand _ => none
  | .keyValue _ keyParts value => findIn p keyParts <|> findStatement p value
  | .method _ keyParts params body types =>
    findIn p keyParts <|> findIn p params <|> findIn p body <|> findIn p types
  | .constructor _ params body types => findIn p params <|> findIn p body <|> findIn p types
  | .classMethod _ _ keyParts params body types =>
    findIn p keyParts <|> findIn p params <|> findIn p body <|> findIn p types
  | .privateMethod _ params body types =>
    findIn p params <|> findIn p body <|> findIn p types
  | .classProperty _ keyParts value types =>
    findIn p keyParts <|> findIn p value <|> findIn p types
  | .binding _ types => findIn p types
  | .functionDecl span id params body types =>
    if p (.functionDecl span id params body types) then some span
    else findIn p params <|> findIn p body <|> findIn p types
  | .vars span declarators =>
    if p (.vars span declarators) then some span else findIn p declarators
  | .declarator _ target value => findStatement p target <|> findIn p value
  | .exportDecl (.functionDecl _ _ params body types) =>
    findIn p params <|> findIn p body <|> findIn p types
  | .exportDecl (.vars _ declarators) => findIn p declarators
  | .exportDecl decl => findStatement p decl
  | .exportDefaultFunction _ params body types =>
    findIn p params <|> findIn p body <|> findIn p types
  | .exportDefaultClass members superClass types =>
    findIn p members <|> findIn p superClass <|> findIn p types
  | .exportDefault value => findStatement p value
  | .exportNames _ => none

def findIn (p : Node → Bool) : List Node → Option Span
  | [] => none
  | n :: ns => findStatement p n <|> findIn p ns

end

end PageWiring.Script
