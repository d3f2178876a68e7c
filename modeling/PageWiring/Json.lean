/-!
JSON values and their text.
-/
namespace PageWiring

inductive Json where
  | null
  | bool (b : Bool)
  | nat (n : Nat)
  | text (s : String)
  | array (items : List Json)
  | object (fields : List (String × Json))

namespace Json

/-- An absent value is null. -/
def ofOption (f : α → Json) : Option α → Json
  | none => .null
  | some a => f a

def texts (ss : List String) : Json := .array (ss.map .text)

def nats (ns : List Nat) : Json := .array (ns.map .nat)

/-- A field that is left out when it has no value. -/
def field? (name : String) (value : Option Json) : List (String × Json) :=
  value.toList.map fun v => (name, v)

private def hexDigit (n : Nat) : Char :=
  if n < 10 then Char.ofNat (48 + n) else Char.ofNat (87 + n)

/-- A character inside a quoted text. -/
def escapeChar (c : Char) : List Char :=
  if c == '"' then ['\\', '"']
  else if c == '\\' then ['\\', '\\']
  else if c == '\n' then ['\\', 'n']
  else if c == '\r' then ['\\', 'r']
  else if c == '\t' then ['\\', 't']
  else if c == '\x08' then ['\\', 'b']
  else if c == '\x0c' then ['\\', 'f']
  else if c.toNat < 32 then
    ['\\', 'u', '0', '0', hexDigit (c.toNat / 16), hexDigit (c.toNat % 16)]
  else [c]

def quote (s : String) : String :=
  "\"" ++ String.ofList (s.toList.flatMap escapeChar) ++ "\""

private def indent (depth : Nat) : String := String.ofList (List.replicate (2 * depth) ' ')

mutual

/-- The text of a value over several lines, each level two blanks deeper. -/
def prettyAt (depth : Nat) : Json → String
  | .null => "null"
  | .bool b => if b then "true" else "false"
  | .nat n => toString n
  | .text s => quote s
  | .array [] => "[]"
  | .array items => "[\n" ++ prettyItems (depth + 1) items ++ "\n" ++ indent depth ++ "]"
  | .object [] => "\x7b\x7d"
  | .object fields => "\x7b\n" ++ prettyFields (depth + 1) fields ++ "\n" ++ indent depth ++ "\x7d"

def prettyItems (depth : Nat) : List Json → String
  | [] => ""
  | [item] => indent depth ++ prettyAt depth item
  | item :: rest => indent depth ++ prettyAt depth item ++ ",\n" ++ prettyItems depth rest

def prettyFields (depth : Nat) : List (String × Json) → String
  | [] => ""
  | [(name, value)] => indent depth ++ quote name ++ ": " ++ prettyAt depth value
  | (name, value) :: rest =>
    indent depth ++ quote name ++ ": " ++ prettyAt depth value ++ ",\n" ++ prettyFields depth rest

end

def pretty (j : Json) : String := prettyAt 0 j

end Json

end PageWiring
