import PageWiring.Error
import PageWiring.Query

/-!
The functions of all scripts: definitions, look-ups of elements, and call sites.

A name may be defined several times; the latest definition stands for it, in the place of the
first one.
-/
namespace PageWiring

/-- How a definition was written. -/
inductive FunctionKind where
  | declaration | expression | arrow | classMethod | classProperty | objectMethod
  deriving DecidableEq, Repr

namespace FunctionKind

/-- Definitions that stand as a statement of their own and can be cut out whole. -/
def isStandalone : FunctionKind → Bool
  | .declaration | .expression | .arrow => true
  | .classMethod | .classProperty | .objectMethod => false

def name : FunctionKind → String
  | .declaration => "declaration"
  | .expression => "expression"
  | .arrow => "arrow"
  | .classMethod => "classMethod"
  | .classProperty => "classProperty"
  | .objectMethod => "objectMethod"

def all : List FunctionKind :=
  [.declaration, .expression, .arrow, .classMethod, .classProperty, .objectMethod]

def ofName? (s : String) : Option FunctionKind := all.find? (·.name == s)

end FunctionKind

structure FunctionDef where
  name : String
  filePath : String
  line : Nat
  isExported : Bool
  kind : FunctionKind
  deriving DecidableEq, Repr

inductive CallKind where
  | call | construct | reference
  deriving DecidableEq, Repr

namespace CallKind

def name : CallKind → String
  | .call => "call"
  | .construct => "construct"
  | .reference => "reference"

def ofName? (s : String) : Option CallKind :=
  [CallKind.call, .construct, .reference].find? (·.name == s)

end CallKind

structure CallSite where
  filePath : String
  line : Nat
  context : Option String
  kind : CallKind
  /-- Is the call written through a global object, as in `window.save()`? -/
  viaGlobal : Bool
  deriving DecidableEq, Repr

structure Functions where
  definitions : List FunctionDef := []
  /-- The defined names in order of first definition. -/
  names : List String := []
  /-- The position in `definitions` of the latest definition of each name. -/
  latest : List (String × Nat) := []
  queries : List DomQuery := []
  calls : List (String × CallSite) := []
  deriving DecidableEq, Repr

namespace Functions

/-- Sets the position of a name, in place when the name is there already. -/
def setLatest (name : String) (position : Nat) : List (String × Nat) → List (String × Nat)
  | [] => [(name, position)]
  | (n, p) :: rest =>
    if n = name then (n, position) :: rest else (n, p) :: setLatest name position rest

def define (f : Functions) (d : FunctionDef) : Functions :=
  { f with
    definitions := f.definitions ++ [d]
    names := if (f.latest.lookup d.name).isSome then f.names else f.names ++ [d.name]
    latest := setLatest d.name f.definitions.length f.latest }

def addQuery (f : Functions) (q : DomQuery) : Functions :=
  { f with queries := f.queries ++ [q] }

def addCall (f : Functions) (name : String) (c : CallSite) : Functions :=
  { f with calls := f.calls ++ [(name, c)] }

def get? (f : Functions) (name : String) : Option FunctionDef :=
  (f.latest.lookup name).bind fun position => f.definitions[position]?

def contains (f : Functions) (name : String) : Bool :=
  (f.latest.lookup name).isSome

/-- One definition per name, in order of first definition. -/
def functions (f : Functions) : List FunctionDef :=
  f.names.filterMap f.get?

def definitionsNamed (f : Functions) (name : String) : List FunctionDef :=
  f.definitions.filter (·.name == name)

def callSites (f : Functions) (name : String) : List CallSite :=
  f.calls.filterMap fun c => if c.1 == name then some c.2 else none

def callCount (f : Functions) (name : String) : Nat := (f.callSites name).length

/-- Does any script look the element up? -/
def queriesElement (f : Functions) (id : String) : Bool :=
  f.queries.any fun q => q.targetId == some id

def checkEntry (f : Functions) (entry : String × Nat) : Except ArgumentError Unit :=
  if (f.definitions[entry.2]?).any (·.name == entry.1) then .ok ()
  else .error (.indexEntry entry.1)

/-- The index lists each name once and points at a definition of it. -/
def validate (f : Functions) : Except ArgumentError Unit :=
  if f.latest.length ≠ f.names.length then .error (.indexSize f.latest.length f.names.length)
  else f.latest.forM f.checkEntry

end Functions

end PageWiring
