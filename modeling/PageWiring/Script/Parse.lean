import PageWiring.Script.Parse.Expression
import PageWiring.Script.Parse.Jsx
import PageWiring.Script.Parse.Module

/-!
Reading a script into a syntax tree.

Main functions: `parseModule` and `parseScript`. Both are total: the depth of the grammar's
recursion is bounded by the length of the text, since every few nested calls read a character.
-/
namespace PageWiring.Script

namespace Parse

/-- The rules of the grammar, to a depth. -/
def rules : Nat → Rules
  | 0 => Rules.empty
  | n + 1 =>
    { assign := fun s => parseAssign (rules n) s
      binary := fun s => parseBinary (rules n) s
      unary := fun s => parseUnary (rules n) s
      operand := fun s => parseOperand (rules n) s
      newTarget := fun s => parseNewTarget (rules n) s
      operators := fun least left s => parseOperators (rules n) least left s
      statement := fun place s => parseStatement (rules n) place s
      pattern := fun disallowLet s => parsePattern (rules n) disallowLet s
      type := fun s => parseType (rules n) s
      jsx := fun s => parseJsx (rules n) s }

/-- The items of a whole script. -/
def items (r : Rules) (place : Place) : P (List Node) := do
  readDirective
  many do
    if ← atEof then return none
    return some (← r.statement place)

end Parse

/-- A script as a tree, with the offsets of the mistakes that did not stop the reading, in the
order they were met. -/
structure Tree where
  items : List Node
  faults : List Nat

/-- A first line that starts with `#!` is no part of the script. -/
def skipInterpreterLine (text : List Char) : Cursor :=
  match text with
  | '#' :: '!' :: _ =>
    let line := text.takeWhile fun c => !isLineTerminator c
    ⟨text.drop line.length, Text.byteLength line⟩
  | _ => ⟨text, 0⟩

/-- Reads a script in given surroundings; an error is the offset of the mistake that stops it. -/
def parseIn (ctx : Parse.Ctx) (place : Parse.Place) (text : List Char) : Except Nat Tree :=
  let depth := 12 * (text.length + 4)
  let start := Parse.State.init ctx (skipInterpreterLine text) (Text.byteLength text)
  match Parse.items (Parse.rules depth) place start with
  | .ok items s => .ok ⟨items, (s.tokenFaults ++ s.faults).reverse⟩
  | .error offset _ => .error offset

/-- Reads a script as a module, which is strict and may import and export. -/
def parseModule (typescript jsx : Bool) (text : List Char) : Except Nat Tree :=
  parseIn { typescript := typescript, jsx := jsx, isModule := true, strict := true } .module text

/-- Reads a script as a classic script. -/
def parseScript (typescript jsx : Bool) (text : List Char) : Except Nat Tree :=
  parseIn { typescript := typescript, jsx := jsx, isModule := false, strict := false } .script text

end PageWiring.Script
