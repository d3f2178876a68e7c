import PageWiring.Script.Parse.Rules

/-!
Templates between backticks, of expressions and of types.
-/
namespace PageWiring.Script.Parse

/-- A template whose substitutions are read by a rule: its texts as written, and what the
substitutions hold. -/
def templateParts (allowBadEscapes : Bool) (part : P (List Node)) :
    P (List String × List Node) := do
  let start ← offset
  let first ← get
  let readPiece (c : Cursor) : P TemplatePiece := do
    match readTemplatePiece 0 [] none c.offset c.rest with
    | none => fun s => .error start s
    | some piece =>
      if let some at_ := piece.badEscape then
        unless allowBadEscapes do fun s => .error at_ s
      return piece
  let piece ← readPiece first.after
  let (pieces, parts, last) ← iterate (fun (pieces, parts, piece) => do
    if !piece.opensSubstitution then return none
    continueAt piece.cursor
    let more ← withIn part
    unless ← atPunct "\x7d" do fail
    let next ← readPiece (← get).after
    return some (piece.raw :: pieces, parts ++ more, next)) ([], [], piece)
  continueAt last.cursor
  return ((last.raw :: pieces).reverse, parts)

end PageWiring.Script.Parse
