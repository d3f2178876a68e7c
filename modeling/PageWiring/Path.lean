import PageWiring.Text.Basic

/-!
Paths as they are written, without looking at any file.

The components of a path are what stands between its slashes. Empty ones do not count, and `.`
counts only at the start of a relative path.
-/
namespace PageWiring.Path

inductive Component where
  | root
  | current
  | parent
  | name (s : String)
  deriving DecidableEq, Repr

/-- The component that a piece stands for, if it counts. -/
def componentOf (isStart : Bool) (piece : List Char) : Option Component :=
  if piece.isEmpty then none
  else if piece == ['.'] then (if isStart then some .current else none)
  else if piece == ['.', '.'] then some .parent
  else some (.name (String.ofList piece))

/-- The components of the pieces from a position on, each with the position of its end. -/
def componentsFrom (position : Nat) (isStart : Bool) : List (List Char) → List (Component × Nat)
  | [] => []
  | piece :: rest =>
    let stop := position + piece.length
    (componentOf isStart piece).toList.map (·, stop) ++ componentsFrom (stop + 1) false rest

def isAbsolute (path : String) : Bool := path.toList.head? == some '/'

/-- The components of a path, each with the number of characters up to its end. -/
def marked (path : String) : List (Component × Nat) :=
  let pieces := Text.splitAt '/' path.toList
  if isAbsolute path then (.root, 1) :: componentsFrom 1 false (pieces.drop 1)
  else componentsFrom 0 true pieces

def components (path : String) : List Component := (marked path).map (·.1)

/-- The last component, if it is a name. -/
def fileName? (path : String) : Option String :=
  match (components path).getLast? with
  | some (.name s) => some s
  | _ => none

def upTo (path : String) (length : Nat) : String := String.ofList (path.toList.take length)

/-- The paths above a path, the nearest first. -/
def parents (path : String) : List String :=
  let ends := (marked path).map (·.2)
  let inner := ends.dropLast.reverse.map (upTo path)
  if isAbsolute path || ends.isEmpty then inner else inner ++ [""]

def parent? (path : String) : Option String := (parents path).head?

def join (base name : String) : String :=
  if isAbsolute name || base.isEmpty then name
  else if base.toList.getLast? == some '/' then base ++ name
  else base ++ "/" ++ name

end PageWiring.Path
