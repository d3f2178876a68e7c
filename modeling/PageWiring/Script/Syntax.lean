/-!
Syntax trees of scripts.

One type, `Node`, holds expressions, patterns, statements and module items, since they nest in each
other freely. A constructor of its own has only what bears on function definitions, element
look-ups, calls and exports. Everything else is `compound`: a tag, and the parts in the order in
which they are read. Types leave behind only the expressions they mention, such as the keys of an
interface.
-/
namespace PageWiring.Script

/-- A stretch of the source text in byte offsets, the end excluded. -/
structure Span where
  start : Nat
  stop : Nat
  deriving DecidableEq, Repr, Inhabited

structure Ident where
  name : String
  span : Span
  deriving DecidableEq, Repr, Inhabited

/-- The tag of a compound node. -/
inductive Compound where
  -- expressions
  | this | literal | metaProperty | privateName | invalid
  | array | spread | index | privateMember | chainIndex
  | delete | unary | update | binary | logical | coalesce | conditional | sequence
  | tagged | await | yield | superCall | superMember | importCall
  | ascription | assertion | constAssertion | nonNull
  -- parts of object literals and classes
  | accessor | shorthandDefault | privateProperty | staticBlock
  /-- A comma before the closing bracket of an array or object literal. -/
  | comma
  -- patterns
  | arrayPattern | objectPattern | rest | withDefault
  -- statements and module items
  | statement | space | typeOnly | inert
  /-- Variables that are declared in the head of a loop or by `using`. -/
  | forVars
  deriving DecidableEq, Repr

/-- How the key of an object or class member is written. -/
inductive Key where
  | name (id : Ident)
  | text (span : Span) (value : String)
  | number (span : Span)
  | computed (span : Span)
  deriving DecidableEq, Repr

/-- The name that a key spells out; numbers and computed keys have none. -/
def Key.name? : Key → Option String
  | .name id => some id.name
  | .text _ value => some value
  | .number _ => none
  | .computed _ => none

def Key.span : Key → Span
  | .name id => id.span
  | .text span _ => span
  | .number span => span
  | .computed span => span

inductive MethodKind where
  | method | getter | setter
  deriving DecidableEq, Repr

/-- A `keyParts` field holds the expression of a computed key, and is empty for any other key. A
`types` field holds the expressions that type annotations mention. -/
inductive Node where
  /-- The value of a name is read. -/
  | ident (id : Ident)
  | text (span : Span) (value : String)
  | template (span : Span) (raw : List String) (parts : List Node)
  | paren (span : Span) (inner : Node)
  | function (span : Span) (name : Option Ident) (params body types : List Node)
  /-- The expression after `=>` is a body of one node. -/
  | arrow (span : Span) (params body types : List Node)
  /-- A class, as an expression or as a statement. -/
  | classNode (span : Span) (name : Option Ident) (members superClass types : List Node)
  | object (span : Span) (props : List Node)
  | member (span : Span) (optional : Bool) (object : Node) (key : Ident)
  | call (span : Span) (optional : Bool) (callee : Node) (args : List Node)
  | construct (span : Span) (callee : Node) (args : List Node)
  | assign (span : Span) (plain : Bool) (target value : Node)
  /-- An element; a fragment has an empty name. -/
  | jsx (span : Span) (name : String) (attributes children : List Node)
  | compound (span : Span) (kind : Compound) (parts : List Node)
  -- members of object literals
  | shorthand (id : Ident)
  | keyValue (key : Key) (keyParts : List Node) (value : Node)
  | method (key : Key) (keyParts params body types : List Node)
  -- members of classes
  | constructor (span : Span) (params body types : List Node)
  | classMethod (kind : MethodKind) (key : Key) (keyParts params body types : List Node)
  | privateMethod (name : Ident) (params body types : List Node)
  | classProperty (key : Key) (keyParts value types : List Node)
  -- declarations
  /-- A name is bound or assigned to, and not read. -/
  | binding (id : Ident) (types : List Node)
  | functionDecl (span : Span) (name : Ident) (params body types : List Node)
  | vars (span : Span) (declarators : List Node)
  | declarator (span : Span) (target : Node) (value : List Node)
  -- exports
  | exportDecl (decl : Node)
  | exportDefaultFunction (name : Option Ident) (params body types : List Node)
  | exportDefaultClass (members superClass types : List Node)
  | exportDefault (value : Node)
  | exportNames (names : List Ident)

instance : Inhabited Node := ⟨.exportNames []⟩

def Node.span : Node → Span
  | .ident id => id.span
  | .text span _ => span
  | .template span _ _ => span
  | .paren span _ => span
  | .function span _ _ _ _ => span
  | .arrow span _ _ _ => span
  | .classNode span _ _ _ _ => span
  | .object span _ => span
  | .member span _ _ _ => span
  | .call span _ _ _ => span
  | .construct span _ _ => span
  | .assign span _ _ _ => span
  | .jsx span _ _ _ => span
  | .compound span _ _ => span
  | .shorthand id => id.span
  | .keyValue key _ _ => key.span
  | .method key _ _ _ _ => key.span
  | .constructor span _ _ _ => span
  | .classMethod _ key _ _ _ _ => key.span
  | .privateMethod name _ _ _ => name.span
  | .classProperty key _ _ _ => key.span
  | .binding id _ => id.span
  | .functionDecl span _ _ _ _ => span
  | .vars span _ => span
  | .declarator span _ _ => span
  | .exportDecl decl => decl.span
  | .exportDefaultFunction _ _ _ _ => default
  | .exportDefaultClass _ _ _ => default
  | .exportDefault value => value.span
  | .exportNames _ => default

/-- The expression inside any number of parentheses. -/
def Node.unwrapParen : Node → Node
  | .paren _ inner => inner.unwrapParen
  | n => n

/-- The shape of a value that may be a function. -/
inductive ValueShape where
  | function | arrow | other
  deriving DecidableEq, Repr

def Node.shape : Node → ValueShape
  | .paren _ inner => inner.shape
  | .function _ _ _ _ _ => .function
  | .arrow _ _ _ _ => .arrow
  | _ => .other

def Node.isFunctionValue (n : Node) : Bool := n.shape != .other

end PageWiring.Script
