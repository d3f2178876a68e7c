import PageWiring.Functions
import PageWiring.Handler
import PageWiring.Script.Syntax

/-!
What one script says about functions: definitions, element look-ups, calls and exports.

A tree is read from front to back. The functions and the classes around the place that the reader
has come to are on two stacks: each goes onto its stack before its inside is read, and is taken off
behind it.
-/
namespace PageWiring.Script

/-- One thing learned from a script. -/
inductive Fact where
  | define (d : FunctionDef)
  | query (q : DomQuery)
  | call (name : String) (site : CallSite)
  | exported (name : String)
  deriving DecidableEq, Repr

/-- Where in a script the reader is. -/
structure Scope where
  filePath : String
  lineOf : Span → Nat
  /-- The enclosing functions, innermost first; an anonymous one has no name. -/
  contexts : List (Option String) := []
  /-- Whether each of the enclosing classes is exported, innermost first. -/
  exportedClasses : List Bool := []

namespace Scope

/-- The name of the innermost enclosing function that has one. -/
def context (s : Scope) : Option String := s.contexts.findSome? id

/-- Is the innermost enclosing class exported? -/
def inExportedClass (s : Scope) : Bool := s.exportedClasses.headD false

def define (s : Scope) (name : String) (span : Span) (kind : FunctionKind) (isExported : Bool) :
    Fact :=
  .define {
    name := name
    filePath := s.filePath
    line := s.lineOf span
    isExported := isExported
    kind := kind }

def call (s : Scope) (name : String) (span : Span) (kind : CallKind) (viaGlobal : Bool) : Fact :=
  .call name {
    filePath := s.filePath
    line := s.lineOf span
    context := s.context
    kind := kind
    viaGlobal := viaGlobal }

def reference (s : Scope) (id : Ident) : Fact := s.call id.name id.span .reference false

end Scope

namespace Node

def ident? (n : Node) : Option Ident :=
  match n.unwrapParen with
  | .ident id => some id
  | _ => none

def isBareIdent (n : Node) : Bool := n.ident?.isSome

def isIdentNamed (n : Node) (name : String) : Bool := n.ident?.any (·.name == name)

def isGlobalObject (n : Node) : Bool :=
  n.ident?.any fun id => Handler.globalObjects.contains id.name

/-- Receiver and name of a member access by name. -/
def memberCall? (n : Node) : Option (Node × String) :=
  match n.unwrapParen with
  | .member _ _ receiver key => some (receiver, key.name)
  | _ => none

/-- The name under which a call is recorded, and whether it goes through a global object. -/
def calleeName? (n : Node) : Option (String × Bool) :=
  match n.ident? with
  | some id => some (id.name, false)
  | none => n.memberCall?.map fun m => (m.2, m.1.isGlobalObject)

/-- The text of a literal argument. A template without substitutions counts, as written. -/
def literalText? (n : Node) : Option String :=
  match n.unwrapParen with
  | .text _ value => some value
  | .template _ raw [] => some (raw.head?.getD "")
  | _ => none

def isModuleExports (n : Node) : Bool :=
  match n.unwrapParen with
  | .member _ false receiver key => receiver.isIdentNamed "module" && key.name == "exports"
  | _ => false

end Node

/-- The look-up that a call of a method with these arguments makes. -/
def queryFacts (s : Scope) (method : QueryMethod) (args : List Node) (span : Span) : List Fact :=
  match args with
  | [] => []
  | arg :: _ =>
    let selector := match arg with
      | .compound _ .spread _ => none
      | other => other.literalText?
    [.query {
      method := method
      selector := selector.getD dynamicSelector
      filePath := s.filePath
      line := s.lineOf span
      context := s.context }]

/-- The facts of a call itself, apart from its callee and arguments. A receiver of `bind`, `call`
or `apply` is referred to; a bare name there is read anyway. -/
def callFacts (s : Scope) (callee : Node) (args : List Node) (span : Span) : List Fact :=
  let viaMember := match callee.memberCall? with
    | none => []
    | some (receiver, method) =>
      let queries := match QueryMethod.ofName? method with
        | some m => queryFacts s m args span
        | none => []
      let bound :=
        if ["bind", "call", "apply"].contains method && !receiver.isBareIdent then
          receiver.calleeName?.toList.map fun t => s.call t.1 span .reference t.2
        else []
      queries ++ bound
  viaMember ++ callee.calleeName?.toList.map fun t => s.call t.1 span .call t.2

def constructFacts (s : Scope) (callee : Node) (span : Span) : List Fact :=
  callee.calleeName?.toList.map fun t => s.call t.1 span .construct t.2

/-- What an assignment exports. -/
inductive ExportTarget where
  /-- One name: `window.f`, `exports.f`, `module.exports.f`. -/
  | named (name : String)
  /-- All of `module.exports`. -/
  | moduleObject
  deriving DecidableEq, Repr

def exportTarget? : Node → Option ExportTarget
  | .member _ false object key =>
    if object.isGlobalObject || object.isIdentNamed "exports" then some (.named key.name)
    else if object.isIdentNamed "module" then
      if key.name == "exports" then some .moduleObject else none
    else if object.isModuleExports then some (.named key.name)
    else none
  | _ => none

/-- The names that one member of an exported object exports. -/
def exportedMember : Node → List String
  | .shorthand id => [id.name]
  | .keyValue key _ value => key.name?.toList ++ (value.ident?.map (·.name)).toList
  | .method key _ _ _ _ => key.name?.toList
  | _ => []

/-- The names that `module.exports = value` exports. -/
def exportedNames (value : Node) : List String :=
  match value.unwrapParen with
  | .object _ props => props.flatMap exportedMember
  | .ident id => [id.name]
  | .function _ (some id) _ _ _ => [id.name]
  | _ => []

/-- The definition made by giving a function value to a name. -/
def valueDefinition (s : Scope) (name : String) (value : Node) : List Fact :=
  match value.unwrapParen with
  | .function span _ _ _ _ => [s.define name span .expression true]
  | .arrow span _ _ _ => [s.define name span .arrow true]
  | _ => []

/-- Is the declared name defined as a function? An arrow counts only outside every function. -/
def declaredKind? (s : Scope) (value : Node) : Option FunctionKind :=
  match value.shape, s.contexts with
  | .function, _ => some .expression
  | .arrow, [] => some .arrow
  | _, _ => none

/-- A reader of a script: where it is, and what it has learned, the latest first. -/
structure Collector extends Scope where
  learned : List Fact := []

namespace Collector

def learn (c : Collector) (facts : List Fact) : Collector :=
  { c with learned := facts.reverse ++ c.learned }

/-- Reads the inside of a function. Its name is on top of the stack meanwhile. -/
def inFunction (c : Collector) (name : Option String) (read : Collector → Collector) : Collector :=
  let inside := read { c with contexts := name :: c.contexts }
  { inside with contexts := inside.contexts.tail }

/-- Reads the inside of a class. -/
def inClass (c : Collector) (isExported : Bool) (read : Collector → Collector) : Collector :=
  let inside := read { c with exportedClasses := isExported :: c.exportedClasses }
  { inside with exportedClasses := inside.exportedClasses.tail }

mutual

/-- Reads a tree. -/
def visit (c : Collector) : Node → Collector
  | .ident id => c.learn [c.reference id]
  | .text _ _ => c
  | .template _ _ parts => visitAll c parts
  | .paren _ inner => visit c inner
  | .function _ name params body types =>
    c.inFunction (name.map (·.name)) fun c => visitAll (visitAll (visitAll c params) body) types
  | .arrow _ params body types =>
    c.inFunction none fun c => visitAll (visitAll (visitAll c params) body) types
  | .classNode _ _ members superClass types =>
    c.inClass false fun c => visitAll (visitAll (visitAll c members) superClass) types
  | .object _ props => visitAll c props
  | .member _ _ object _ => visit c object
  | .call span _ callee args =>
    let c := c.learn (callFacts c.toScope callee args span)
    visitAll (if callee.isBareIdent then c else visit c callee) args
  | .construct span callee args =>
    let c := c.learn (constructFacts c.toScope callee span)
    visitAll (if callee.isBareIdent then c else visit c callee) args
  | .assign _ _ target value =>
    match exportTarget? target with
    | some (.named name) =>
      let c := c.learn (.exported name ::
        (value.ident?.map fun id => Fact.exported id.name).toList ++
          valueDefinition c.toScope name value)
      if value.isFunctionValue then c.inFunction (some name) fun c => visitFunction c value
      else visit c value
    | some .moduleObject => visit (c.learn ((exportedNames value).map .exported)) value
    | none => visit (visit c target) value
  | .jsx _ _ attributes children => visitAll (visitAll c attributes) children
  | .compound _ .forVars declarators => visitDeclarators c false declarators
  | .compound _ _ parts => visitAll c parts
  | .shorthand id => c.learn [c.reference id]
  | .keyValue key keyParts value =>
    match key.name?, value.isFunctionValue with
    | some name, true =>
      (c.learn [c.define name key.span .objectMethod false]).inFunction (some name) fun c =>
        visitFunction c value
    | some _, false => visit c value
    | none, _ => visit (visitAll c keyParts) value
  | .method key _ params body types =>
    let c := c.learn (key.name?.toList.map fun name => c.define name key.span .objectMethod false)
    c.inFunction key.name? fun c => visitAll (visitAll (visitAll c params) body) types
  | .constructor _ params body types =>
    c.inFunction (some "constructor") fun c => visitAll (visitAll (visitAll c params) body) types
  | .classMethod kind key _ params body types =>
    let c := c.learn (if kind = .method then
        key.name?.toList.map fun name => c.define name key.span .classMethod c.inExportedClass
      else [])
    c.inFunction key.name? fun c => visitAll (visitAll (visitAll c params) body) types
  | .privateMethod name params body types =>
    c.inFunction (some ("#" ++ name.name)) fun c =>
      visitAll (visitAll (visitAll c params) body) types
  | .classProperty key keyParts value types =>
    match key.name?, value with
    | some name, [v] =>
      if v.isFunctionValue then
        (c.learn [c.define name key.span .classProperty c.inExportedClass]).inFunction (some name)
          fun c => visitFunction c v
      else visitAll (visit c v) types
    | some _, value => visitAll (visitAll c value) types
    | none, value => visitAll (visitAll (visitAll c keyParts) value) types
  | .binding _ types => visitAll c types
  | .functionDecl _ name params body types =>
    (c.learn [c.define name.name name.span .declaration false]).inFunction (some name.name)
      fun c => visitAll (visitAll (visitAll c params) body) types
  | .vars _ declarators => visitDeclarators c false declarators
  | .declarator _ target value => visitAll (visit c target) value
  | .exportDecl (.functionDecl _ name params body types) =>
    (c.learn [c.define name.name name.span .declaration true]).inFunction (some name.name)
      fun c => visitAll (visitAll (visitAll c params) body) types
  | .exportDecl (.classNode _ _ members superClass types) =>
    c.inClass true fun c => visitAll (visitAll (visitAll c members) superClass) types
  | .exportDecl (.vars _ declarators) => visitDeclarators c true declarators
  | .exportDecl decl => visit c decl
  | .exportDefaultFunction name params body types =>
    let c := c.learn (name.toList.map fun id => c.define id.name id.span .declaration true)
    c.inFunction (name.map (·.name)) fun c => visitAll (visitAll (visitAll c params) body) types
  | .exportDefaultClass members superClass types =>
    c.inClass true fun c => visitAll (visitAll (visitAll c members) superClass) types
  | .exportDefault value =>
    visit (c.learn (value.ident?.toList.map fun id => Fact.exported id.name)) value
  | .exportNames names => c.learn (names.map fun id => .exported id.name)

def visitAll (c : Collector) : List Node → Collector
  | [] => c
  | n :: ns => visitAll (visit c n) ns

/-- Reads what is inside a function value; the function has been entered. -/
def visitFunction (c : Collector) : Node → Collector
  | .paren _ inner => visitFunction c inner
  | .function _ _ params body types => visitAll (visitAll (visitAll c params) body) types
  | .arrow _ params body types => visitAll (visitAll (visitAll c params) body) types
  | _ => c

def visitDeclarators (c : Collector) (isExported : Bool) : List Node → Collector
  | [] => c
  | .declarator _ (.binding id types) [value] :: ds =>
    visitDeclarators
      (match declaredKind? c.toScope value with
        | some kind =>
          (c.learn [c.define id.name id.span kind isExported]).inFunction (some id.name) fun c =>
            visitFunction c value
        | none => visit (visitAll c types) value) isExported ds
  | d :: ds => visitDeclarators (visit c d) isExported ds

end

end Collector

/-- What is learned from some nodes that stand in a scope, in the order of reading. -/
def learnedFrom (s : Scope) (items : List Node) : List Fact :=
  ((Collector.mk s []).visitAll items).learned.reverse

/-- What is learned from one script. -/
structure FileModel where
  filePath : String
  definitions : List FunctionDef := []
  queries : List DomQuery := []
  calls : List (String × CallSite) := []
  /-- Lines of the syntax errors that did not stop the reading. -/
  recoveredLines : List Nat := []
  deriving DecidableEq, Repr

namespace FileModel

def definitionsOf (facts : List Fact) : List FunctionDef :=
  facts.filterMap fun | .define d => some d | _ => none

def queriesOf (facts : List Fact) : List DomQuery :=
  facts.filterMap fun | .query q => some q | _ => none

def callsOf (facts : List Fact) : List (String × CallSite) :=
  facts.filterMap fun | .call name site => some (name, site) | _ => none

def exportsOf (facts : List Fact) : List String :=
  facts.filterMap fun | .exported name => some name | _ => none

/-- Sorts the facts of a file. An export anywhere in the file marks every definition of the
name. -/
def ofFacts (filePath : String) (recoveredLines : List Nat) (facts : List Fact) : FileModel where
  filePath := filePath
  definitions := (definitionsOf facts).map fun d =>
    { d with isExported := d.isExported || (exportsOf facts).contains d.name }
  queries := queriesOf facts
  calls := callsOf facts
  recoveredLines := recoveredLines

end FileModel

end PageWiring.Script
