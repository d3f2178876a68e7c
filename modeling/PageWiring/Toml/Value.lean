import PageWiring.Text.Basic

/-!
TOML values, and how tables grow as a document is read.

A table is opened once by its header. Tables that are only named on the way, in a header or in a
dotted key, may be filled later in the same manner.
-/
namespace PageWiring.Toml

/-- How a table came to be. -/
inductive Origin where
  /-- By its own header. -/
  | header
  /-- On the way to a table with a header. -/
  | implied
  /-- On the way of a dotted key. -/
  | dotted
  /-- As a value in braces. -/
  | inline
  deriving DecidableEq, Repr

/-- Values. Of numbers with a fraction, dates and times only their kind is kept. -/
inductive Value where
  | text (s : String)
  | integer (n : Int)
  | fraction
  | moment
  | boolean (b : Bool)
  /-- An array; `grows` when its elements have headers of their own. -/
  | array (grows : Bool) (items : List Value)
  | table (origin : Origin) (entries : List (String × Value))

abbrev Entries := List (String × Value)

/-- Puts a value under a key, which may depend on the one that is there. Gives `none` when that is
refused. -/
def upsert (key : String) (f : Option Value → Option (Value × α)) :
    Entries → Option (Entries × α)
  | [] => (f none).map fun (v, a) => ([(key, v)], a)
  | (k, v) :: rest =>
    if k == key then (f (some v)).map fun (v, a) => ((k, v) :: rest, a)
    else (upsert key f rest).map fun (rest, a) => ((k, v) :: rest, a)

/-- Changes the table at the end of a path, where missing tables are made. A dotted key does not
pass through a table with a header. -/
def descend (dotted : Bool) (f : Origin → Entries → Option (Entries × α)) :
    List String → Origin → Entries → Option (Entries × α)
  | [], origin, entries => f origin entries
  | key :: path, _, entries =>
    upsert key (fun found =>
      match found with
      | none =>
        let made : Origin := if dotted then .dotted else .implied
        (descend dotted f path made []).map fun (inner, a) => (.table made inner, a)
      | some (.table origin inner) =>
        if origin == .inline || (dotted && origin == .header) then none
        else (descend dotted f path origin inner).map fun (inner, a) => (.table origin inner, a)
      | some (.array true items) =>
        match items.getLast? with
        | some (.table origin inner) =>
          (descend dotted f path origin inner).map fun (inner, a) =>
            (.array true (items.dropLast ++ [.table origin inner]), a)
        | _ => none
      | some _ => none) entries

/-- Adds a key that must be new. -/
def insertNew (key : String) (value : Value) (entries : Entries) : Option Entries :=
  if entries.any (·.1 == key) then none else some (entries ++ [(key, value)])

/-- Adds a value under a dotted key. The table that gets it is one made by dotted keys exactly when
the key has dots. -/
def addDotted (path : List String) (key : String) (value : Value) (origin : Origin)
    (entries : Entries) : Option Entries :=
  (descend true (fun reached inner =>
    if (reached == .dotted) == path.isEmpty then none
    else (insertNew key value inner).map fun inner => (inner, ())) path origin entries).map (·.1)

/-- A document that is being read. -/
structure Document where
  /-- The finished tables. -/
  root : Entries := []
  /-- The path of the table that is being read, the innermost name last. -/
  path : List String := []
  /-- Is that table an element of an array? -/
  inArray : Bool := false
  current : Entries := []

namespace Document

def add (d : Document) (path : List String) (key : String) (value : Value) : Option Document :=
  (addDotted path key value .header d.current).map fun current => { d with current := current }

/-- Puts the table that is being read in its place. -/
def close (d : Document) : Option Entries :=
  match d.path.getLast? with
  | none => some d.current
  | some key =>
    let place (entries : Entries) : Option (Entries × Unit) :=
      if d.inArray then
        upsert key (fun found =>
          match found with
          | none => some (.array true [.table .header d.current], ())
          | some (.array true items) => some (.array true (items ++ [.table .header d.current]), ())
          | some _ => none) entries
      else (insertNew key (.table .header d.current) entries).map fun entries => (entries, ())
    (descend false (fun _ entries => place entries) d.path.dropLast .header d.root).map (·.1)

/-- Starts the table of a header. A table that was only implied so far is taken up again. -/
def openTable (d : Document) (path : List String) (key : String) : Option Document := do
  let root ← d.close
  let take (_ : Origin) (entries : Entries) : Option (Entries × Entries) :=
    match entries.lookup key with
    | none => some (entries, [])
    | some (.table .implied inner) => some (entries.filter (·.1 != key), inner)
    | some _ => none
  let (root, inner) ← descend false take path .header root
  return { root := root, path := path ++ [key], current := inner }

/-- Starts an element of an array of tables. -/
def openElement (d : Document) (path : List String) (key : String) : Option Document := do
  let root ← d.close
  let announce (_ : Origin) (entries : Entries) : Option (Entries × Unit) :=
    match entries.lookup key with
    | none => some (entries ++ [(key, .array true [])], ())
    | some (.array true _) => some (entries, ())
    | some _ => none
  let (root, _) ← descend false announce path .header root
  return { root := root, path := path ++ [key], inArray := true }

end Document

end PageWiring.Toml
