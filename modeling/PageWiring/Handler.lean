import PageWiring.Text.Basic
import PageWiring.Text.Blank
import PageWiring.Text.Letter

/-!
The text of an inline event handler and the functions its statements call.

A statement is read as an optional run of the words `return`, `void`, `await`, followed by a path
of names such as `app.menu?.open`. The path is taken as it is written and cut into its segments at
the points. It names one function, or none when it starts at a receiver of the browser itself.
-/
namespace PageWiring.Handler

open PageWiring.Text

def globalObjects : List String := ["window", "globalThis", "self"]

/-- Receivers whose member calls never name a function of the page. -/
def builtinReceivers : List String :=
  ["this", "event", "console", "document", "Math", "JSON", "Object", "Array", "Number", "String",
    "Promise", "localStorage", "sessionStorage", "location", "history", "navigator"]

/-- Bare names that are keywords or browser globals. -/
def builtinCallees : List String :=
  ["if", "else", "for", "while", "do", "switch", "new", "typeof", "delete", "void", "return",
    "await", "true", "false", "null", "undefined", "this", "event", "alert", "confirm", "prompt",
    "setTimeout", "setInterval", "clearTimeout", "clearInterval", "requestAnimationFrame",
    "parseInt", "parseFloat", "isNaN", "fetch", "print", "open", "close", "history", "location"]

def isBuiltinCallee (name : String) : Bool :=
  builtinCallees.contains name

def leadWords : List (List Char) :=
  ["return ".toList, "void ".toList, "await ".toList]

/-- The statement without one leading word, when it has one. -/
def dropLeadWord? (cs : List Char) : Option (List Char) :=
  leadWords.findSome? fun w => dropLead? w cs

/-- Dropping a non-empty lead makes a text shorter. -/
theorem length_of_dropLead? {lead cs rest : List Char} (hne : lead ≠ [])
    (h : dropLead? lead cs = some rest) : rest.length < cs.length := by
  unfold dropLead? at h
  split at h
  · rename_i hp
    have hle := (List.isPrefixOf_iff_prefix.mp hp).length_le
    have hpos : 0 < lead.length := List.length_pos_iff.mpr hne
    have hrest : cs.drop lead.length = rest := by simpa using h
    rw [← hrest, List.length_drop]
    omega
  · simp at h

theorem length_of_dropLeadWord? {cs rest : List Char} (h : dropLeadWord? cs = some rest) :
    rest.length < cs.length := by
  obtain ⟨w, hw, hrest⟩ := List.exists_of_findSome?_eq_some h
  refine length_of_dropLead? ?_ hrest
  simp only [leadWords, List.mem_cons, List.not_mem_nil, or_false] at hw
  rcases hw with rfl | rfl | rfl <;> simp

theorem length_dropWhile_le (p : Char → Bool) (cs : List Char) :
    (cs.dropWhile p).length ≤ cs.length :=
  (List.dropWhile_suffix p).length_le

/-- The statement without its leading words. -/
def dropLeadWords (cs : List Char) : List Char :=
  match _found : dropLeadWord? cs with
  | some rest => dropLeadWords (trimStart rest)
  | none => cs
  termination_by cs.length
  decreasing_by
    exact Nat.lt_of_le_of_lt (length_dropWhile_le isBlank rest) (length_of_dropLeadWord? _found)

def isNameStart (c : Char) : Bool :=
  ('a' ≤ c && c ≤ 'z') || ('A' ≤ c && c ≤ 'Z') || c == '_' || c == '$'

def isNamePart (c : Char) : Bool :=
  isWordChar c || c == '$'

/-- The name at the start of a text and what follows it. -/
def readName : List Char → Option (List Char × List Char)
  | c :: cs =>
    if isNameStart c then some (c :: cs.takeWhile isNamePart, cs.dropWhile isNamePart) else none
  | [] => none

/-- What follows a member access: blanks, an optional `?`, a point and blanks. -/
def readLink (cs : List Char) : Option (List Char) :=
  let cs := trimStart cs
  let cs := match cs with
    | '?' :: rest => rest
    | other => other
  match cs with
  | '.' :: rest => some (trimStart rest)
  | _ => none

theorem length_of_readName {cs name rest : List Char} (h : readName cs = some (name, rest)) :
    rest.length < cs.length := by
  cases cs with
  | nil => simp [readName] at h
  | cons c cs =>
    simp only [readName] at h
    split at h
    · simp only [Option.some.injEq, Prod.mk.injEq] at h
      have := length_dropWhile_le isNamePart cs
      rw [← h.2, List.length_cons]
      omega
    · simp at h

theorem length_of_readLink {cs rest : List Char} (h : readLink cs = some rest) :
    rest.length ≤ cs.length := by
  have htrim : (trimStart cs).length ≤ cs.length := length_dropWhile_le isBlank cs
  unfold readLink at h
  simp only at h
  split at h
  · rename_i tail heq
    have hr : rest = trimStart tail := by simpa using h.symm
    have hlen : (trimStart tail).length ≤ tail.length := length_dropWhile_le isBlank tail
    have htail : tail.length ≤ (trimStart cs).length := by
      revert heq
      split
      · rename_i rest' heq'
        intro heq
        rw [heq', heq, List.length_cons, List.length_cons]
        omega
      · intro heq
        rw [heq, List.length_cons]
        omega
    rw [hr]
    omega
  · simp at h

/-- What follows the further names of a path. -/
def dropNames (cs : List Char) : List Char :=
  match _linked : readLink cs with
  | none => cs
  | some linked =>
    match _named : readName linked with
    | none => cs
    | some (_, rest) => dropNames rest
  termination_by cs.length
  decreasing_by
    exact Nat.lt_of_lt_of_le (length_of_readName _named) (length_of_readLink _linked)

/-- The path at the start of a text, as it is written; none when no name starts there. -/
def readPath (cs : List Char) : Option (List Char) :=
  (readName cs).map fun (_, rest) => cs.take (cs.length - (dropNames rest).length)

/-- A segment of a path without the blanks around it, and without question marks at its end. -/
def plainSegment (segment : List Char) : List Char :=
  trim (dropEndWhile (· == '?') (trim segment))

/-- The names between the points of a path. -/
def segments (path : List Char) : List (List Char) :=
  (splitAt '.' path).map plainSegment

/-- A leading global object is dropped when names follow it. -/
def dropGlobal : List String → List String
  | first :: second :: rest =>
    if globalObjects.contains first then second :: rest else first :: second :: rest
  | path => path

/-- The function that a path of names calls. -/
def calleeOfPath (path : List String) : Option String :=
  match dropGlobal path with
  | [] => none
  | [name] => some name
  | receiver :: second :: rest =>
    if builtinReceivers.contains receiver then none else (second :: rest).getLast?

def calleeOfStatement (statement : List Char) : Option String := do
  let path ← readPath (dropLeadWords statement)
  calleeOfPath ((segments path).map String.ofList)

/-- The function called by each statement of a handler, in order. -/
def callees (handler : String) : List String :=
  (splitAt ';' handler.toList).filterMap fun statement => calleeOfStatement (trim statement)

end PageWiring.Handler
