import PageWiring.Script.Parse.State

/-!
The rules of the grammar that refer to each other.

A rule is written against a value of `Rules` and calls the others through it; `Parse.rules` ties
them together, with one unit of depth for each call.
-/
namespace PageWiring.Script.Parse

/-- Where a statement stands. -/
inductive Place where
  /-- Among the items of a module, which may be imports and exports. -/
  | module
  /-- At the top of a classic script. -/
  | script
  /-- In a block. -/
  | list
  /-- As the only body of another statement, where no declaration is allowed. -/
  | single
  deriving DecidableEq, Repr

structure Rules where
  /-- An expression without a comma operator. -/
  assign : P Node
  /-- An operand with the binary operators after it. -/
  binary : P Node
  unary : P Node
  /-- An operand with its members and calls. -/
  operand : P Node
  /-- What `new` may be applied to. -/
  newTarget : P Node
  /-- The binary operators above a precedence that follow an operand. -/
  operators : Nat → Node → P Node
  statement : Place → P Node
  /-- A name or a destructuring pattern. -/
  pattern : Bool → P Node
  /-- A type; the result is the expressions it mentions. -/
  type : P (List Node)
  /-- An element of JSX, and the text right after it. -/
  jsx : P (Node × Cursor)

/-- The rules that read nothing. -/
def Rules.empty : Rules where
  assign := fail
  binary := fail
  unary := fail
  operand := fail
  newTarget := fail
  operators _ _ := fail
  statement _ := fail
  pattern _ := fail
  type := fail
  jsx := fail

/-- An expression, with comma operators. -/
def Rules.expr (r : Rules) : P Node := do
  let first ← r.assign
  if ← atPunct "," then
    let others ← many do
      if ← eat "," then return some (← r.assign) else return none
    return .compound (← spanFrom first.span.start) .sequence (first :: others)
  else return first

/-- Lets `in` be an operator again. -/
def withIn (p : P α) : P α := withCtx (fun c => { c with inOperator := true }) p

/-- An expression in brackets of some kind. -/
def Rules.inner (r : Rules) : P Node := withIn r.expr

def Rules.innerAssign (r : Rules) : P Node := withIn r.assign

end PageWiring.Script.Parse
