import Mathlib.Data.List.Basic
import PageWiring.Proofs.Analysis
import PageWiring.Script.Source

/-!
The index of functions, and what scripts add to it.

However functions came to be known, a name stands for its latest definition, and the index passes
its own check. Joining scripts puts their definitions and calls one after another.
-/
namespace PageWiring

namespace Functions

/-- The index lists each defined name once, with its latest definition. -/
structure Indexed (f : Functions) : Prop where
  names : f.names = f.latest.map (·.1)
  nodup : f.names.Nodup
  get? : ∀ name, f.get? name = f.definitions.reverse.find? (·.name == name)
  contains : ∀ name, f.contains name = f.definitions.any (·.name == name)

theorem lookup_isSome_iff {entries : List (String × Nat)} {name : String} :
    (entries.lookup name).isSome ↔ name ∈ entries.map (·.1) := by
  induction entries with
  | nil => simp
  | cons entry rest ih =>
    obtain ⟨key, position⟩ := entry
    by_cases own : name = key
    · simp [own]
    · have other : (name == key) = false := by simpa using own
      rw [List.lookup_cons, other, List.map_cons, List.mem_cons]
      simp [own, ih]

theorem lookup_setLatest (name : String) (position : Nat) (entries : List (String × Nat))
    (key : String) : (setLatest name position entries).lookup key =
      if key = name then some position else entries.lookup key := by
  induction entries with
  | nil =>
    by_cases own : key = name
    · simp [setLatest, own]
    · have other : (key == name) = false := by simpa using own
      simp [setLatest, List.lookup_cons, own, other]
  | cons entry rest ih =>
    obtain ⟨first, place⟩ := entry
    rw [setLatest]
    by_cases own : key = first
    · subst own
      by_cases here : key = name <;> simp [here]
    · have other : (key == first) = false := by simpa using own
      by_cases here : first = name
      · subst here
        rw [if_pos rfl, if_neg own, List.lookup_cons, List.lookup_cons, other]
      · rw [if_neg here, List.lookup_cons, List.lookup_cons, other, ih]

theorem map_setLatest (name : String) (position : Nat) (entries : List (String × Nat)) :
    (setLatest name position entries).map (·.1) =
      if name ∈ entries.map (·.1) then entries.map (·.1) else entries.map (·.1) ++ [name] := by
  induction entries with
  | nil => simp [setLatest]
  | cons entry rest ih =>
    obtain ⟨first, place⟩ := entry
    rw [setLatest]
    by_cases here : first = name
    · simp [here]
    · rw [if_neg here, List.map_cons, ih]
      by_cases later : name ∈ rest.map (·.1)
      · simp [later]
      · have absent : name ∉ ((first, place) :: rest).map (·.1) := by
          rw [List.map_cons, List.mem_cons]
          exact fun member => member.elim (fun same => here same.symm) later
        rw [if_neg later, if_neg absent]
        rfl

theorem indexed_empty : ({} : Functions).Indexed where
  names := rfl
  nodup := .nil
  get? _ := rfl
  contains _ := rfl

namespace Indexed

variable {f : Functions}

theorem mem_names_iff (indexed : f.Indexed) {name : String} : name ∈ f.names ↔ f.contains name := by
  rw [indexed.names, Functions.contains, lookup_isSome_iff]

/-- What the index gives for a name is a definition of it. -/
theorem name_of_get? (indexed : f.Indexed) {name : String} {d : FunctionDef}
    (found : f.get? name = some d) : d.name = name := by
  rw [indexed.get?] at found
  simpa using List.find?_some found

/-- A position that the index gives is that of a definition. -/
theorem lt_of_lookup (indexed : f.Indexed) {name : String} {position : Nat}
    (found : f.latest.lookup name = some position) : position < f.definitions.length := by
  have defined : f.definitions.any (·.name == name) := by
    rw [← indexed.contains, Functions.contains, found]
    rfl
  obtain ⟨d, member, named⟩ := List.any_eq_true.mp defined
  have known : f.get? name ≠ none := by
    rw [indexed.get?]
    intro missing
    exact List.find?_eq_none.mp missing d (List.mem_reverse.mpr member) named
  rw [Functions.get?, found] at known
  by_contra beyond
  exact known (List.getElem?_eq_none (Nat.not_lt.mp beyond))

theorem define (indexed : f.Indexed) (d : FunctionDef) : (f.define d).Indexed where
  names := by
    rw [Functions.define, map_setLatest, ← indexed.names]
    exact if_congr indexed.mem_names_iff.symm rfl rfl
  nodup := by
    rw [Functions.define]
    dsimp only
    split_ifs with known
    · exact indexed.nodup
    · have fresh : d.name ∉ f.names := fun member => known (indexed.mem_names_iff.mp member)
      exact List.nodup_append.mpr ⟨indexed.nodup, by simp, by
        rintro name member other there rfl
        exact fresh (List.mem_singleton.mp there ▸ member)⟩
  get? name := by
    rw [Functions.get?, Functions.define, lookup_setLatest]
    dsimp only
    rw [List.reverse_append, List.reverse_singleton, List.singleton_append, List.find?_cons]
    by_cases own : name = d.name
    · simp [own]
    · have other : (d.name == name) = false := by simpa using Ne.symm own
      rw [if_neg own, other, ← indexed.get?, Functions.get?]
      cases found : f.latest.lookup name with
      | none => rfl
      | some position => exact List.getElem?_append_left (indexed.lt_of_lookup found)
  contains name := by
    rw [Functions.contains, Functions.define, lookup_setLatest, List.any_append]
    by_cases own : name = d.name
    · simp [own]
    · have other : (d.name == name) = false := by simpa using Ne.symm own
      rw [if_neg own, ← indexed.contains]
      simp [other, Functions.contains]

/-- Every name that is listed has one entry, with the definition that stands for it. -/
theorem mem_functions_iff (indexed : f.Indexed) {d : FunctionDef} :
    d ∈ f.functions ↔ f.get? d.name = some d := by
  rw [functions, List.mem_filterMap]
  constructor
  · rintro ⟨name, -, found⟩
    rw [indexed.name_of_get? found]
    exact found
  · intro found
    refine ⟨d.name, indexed.mem_names_iff.mpr ?_, found⟩
    rw [Functions.get?, Option.bind_eq_some_iff] at found
    obtain ⟨position, known, -⟩ := found
    rw [Functions.contains, known]
    rfl

/-- The index passes its own check. -/
theorem validate (indexed : f.Indexed) : f.validate = .ok () := by
  have sizes : f.latest.length = f.names.length := by rw [indexed.names, List.length_map]
  have keys : (f.latest.map (·.1)).Nodup := indexed.names ▸ indexed.nodup
  have checked : ∀ entry ∈ f.latest, f.checkEntry entry = .ok () := by
    rintro ⟨name, position⟩ member
    have found : f.latest.lookup name = some position := by
      obtain ⟨front, back, split⟩ := List.append_of_mem member
      rw [split, List.map_append, List.nodup_append] at keys
      refine List.lookup_eq_some_iff.mpr ⟨front, back, split, fun entry there => ?_⟩
      have different := keys.2.2 entry.1 (List.mem_map_of_mem there) name List.mem_cons_self
      simpa using different.symm
    have known : f.get? name = f.definitions[position]? := by rw [Functions.get?, found]; rfl
    cases defined : f.definitions[position]? with
    | none => exact absurd (indexed.lt_of_lookup found) (by simpa using defined)
    | some d =>
      have named := indexed.name_of_get? (known.trans defined)
      simp [checkEntry, defined, named]
  rw [Functions.validate, if_neg (not_not.mpr sizes)]
  exact forM_eq_ok_iff.mpr checked

end Indexed

/-! ### What is added -/

/-- One thing to be known about functions. -/
inductive Entry where
  | definition (d : FunctionDef)
  | query (q : DomQuery)
  | call (name : String) (site : CallSite)
  deriving DecidableEq, Repr

namespace Entry

def definition? : Entry → Option FunctionDef
  | .definition d => some d
  | _ => none

def query? : Entry → Option DomQuery
  | .query q => some q
  | _ => none

def call? : Entry → Option (String × CallSite)
  | .call name site => some (name, site)
  | _ => none

end Entry

def enter (f : Functions) : Entry → Functions
  | .definition d => f.define d
  | .query q => f.addQuery q
  | .call name site => f.addCall name site

/-- What is known when entries were made one after another, and nothing was known before. -/
def ofEntries (entries : List Entry) : Functions := entries.foldl enter {}

def definitionsIn (entries : List Entry) : List FunctionDef := entries.filterMap Entry.definition?

def queriesIn (entries : List Entry) : List DomQuery := entries.filterMap Entry.query?

def callsIn (entries : List Entry) : List (String × CallSite) := entries.filterMap Entry.call?

theorem Indexed.enter {f : Functions} (indexed : f.Indexed) (entry : Entry) :
    (f.enter entry).Indexed := by
  cases entry with
  | definition d => exact indexed.define d
  | query q => exact ⟨indexed.names, indexed.nodup, indexed.get?, indexed.contains⟩
  | call name site => exact ⟨indexed.names, indexed.nodup, indexed.get?, indexed.contains⟩

/-- Each entry is put behind those of its own sort. -/
theorem lists_enter (f : Functions) (entry : Entry) :
    (f.enter entry).definitions = f.definitions ++ definitionsIn [entry] ∧
      (f.enter entry).queries = f.queries ++ queriesIn [entry] ∧
      (f.enter entry).calls = f.calls ++ callsIn [entry] := by
  cases entry <;>
    simp [Functions.enter, Functions.define, addQuery, addCall, definitionsIn, queriesIn, callsIn,
      Entry.definition?, Entry.query?, Entry.call?]

theorem lists_foldl_enter (entries : List Entry) (f : Functions) :
    (entries.foldl enter f).definitions = f.definitions ++ definitionsIn entries ∧
      (entries.foldl enter f).queries = f.queries ++ queriesIn entries ∧
      (entries.foldl enter f).calls = f.calls ++ callsIn entries := by
  induction entries generalizing f with
  | nil => simp [definitionsIn, queriesIn, callsIn]
  | cons entry rest ih =>
    obtain ⟨definitions, queries, calls⟩ := lists_enter f entry
    obtain ⟨definitions', queries', calls'⟩ := ih (f.enter entry)
    rw [List.foldl_cons, definitions', queries', calls', definitions, queries, calls]
    simp only [definitionsIn, queriesIn, callsIn, List.append_assoc, ← List.filterMap_append,
      List.singleton_append, and_self]

/-- Nothing that was entered is lost, and all of it stays in its order. -/
theorem lists_ofEntries (entries : List Entry) :
    (ofEntries entries).definitions = definitionsIn entries ∧
      (ofEntries entries).queries = queriesIn entries ∧
      (ofEntries entries).calls = callsIn entries :=
  lists_foldl_enter entries {}

theorem indexed_ofEntries (entries : List Entry) : (ofEntries entries).Indexed := by
  have entered (f : Functions) (indexed : f.Indexed) : (entries.foldl enter f).Indexed := by
    induction entries generalizing f with
    | nil => exact indexed
    | cons entry rest ih => exact ih (f.enter entry) (indexed.enter entry)
  exact entered {} indexed_empty

end Functions

namespace Script

/-- What a file that could be read defines. -/
def definitionsOf : Except FileDiagnostic FileModel → List FunctionDef
  | .ok m => m.definitions
  | .error _ => []

/-- The calls in a file that could be read. -/
def callsOf : Except FileDiagnostic FileModel → List (String × CallSite)
  | .ok m => m.calls
  | .error _ => []

/-- The look-ups of elements in a file that could be read. -/
def queriesOf : Except FileDiagnostic FileModel → List DomQuery
  | .ok m => m.queries
  | .error _ => []

/-- What a file that could be read adds to the functions, in the order in which it is added. -/
def entriesOf : Except FileDiagnostic FileModel → List Functions.Entry
  | .ok m =>
    m.definitions.map .definition ++ m.queries.map .query ++ m.calls.map fun c => .call c.1 c.2
  | .error _ => []

/-- The entries of a file are its definitions, look-ups and calls. -/
theorem lists_entriesOf (result : Except FileDiagnostic FileModel) :
    Functions.definitionsIn (entriesOf result) = definitionsOf result ∧
      Functions.queriesIn (entriesOf result) = queriesOf result ∧
      Functions.callsIn (entriesOf result) = callsOf result := by
  cases result with
  | error cause => exact ⟨rfl, rfl, rfl⟩
  | ok m =>
    simp [entriesOf, definitionsOf, queriesOf, callsOf, Functions.definitionsIn,
      Functions.queriesIn, Functions.callsIn, List.filterMap_map, Function.comp_def,
      Functions.Entry.definition?, Functions.Entry.query?, Functions.Entry.call?]

namespace Scan

theorem functions_add (s : Scan) (result : Except FileDiagnostic FileModel) :
    (s.add result).functions = (entriesOf result).foldl Functions.enter s.functions := by
  cases result with
  | error cause => rfl
  | ok m =>
    simp only [add, addModel, entriesOf, List.foldl_append, List.foldl_map]
    rfl

/-- Joining scripts enters what each of them adds, one script after the other. -/
theorem functions_merge (results : List (Except FileDiagnostic FileModel)) :
    (merge results).functions = .ofEntries (results.flatMap entriesOf) := by
  have added (s : Scan) : (results.foldl add s).functions =
      (results.flatMap entriesOf).foldl Functions.enter s.functions := by
    induction results generalizing s with
    | nil => rfl
    | cons result rest ih =>
      rw [List.foldl_cons, ih, functions_add, List.flatMap_cons, List.foldl_append]
  exact added {}

/-- Joined scripts have the definitions and calls of each of them, in their order. -/
theorem merge_functions (results : List (Except FileDiagnostic FileModel)) :
    (merge results).functions.Indexed ∧
      (merge results).functions.definitions = results.flatMap definitionsOf ∧
      (merge results).functions.calls = results.flatMap callsOf := by
  obtain ⟨definitions, -, calls⟩ := Functions.lists_ofEntries (results.flatMap entriesOf)
  rw [functions_merge, definitions, calls]
  refine ⟨Functions.indexed_ofEntries _, ?_, ?_⟩
  · rw [Functions.definitionsIn, List.filterMap_flatMap]
    exact List.flatMap_congr fun result _ => (lists_entriesOf result).1
  · rw [Functions.callsIn, List.filterMap_flatMap]
    exact List.flatMap_congr fun result _ => (lists_entriesOf result).2.2

theorem merge_queries (results : List (Except FileDiagnostic FileModel)) :
    (merge results).functions.queries = results.flatMap queriesOf := by
  rw [functions_merge, (Functions.lists_ofEntries _).2.1, Functions.queriesIn,
    List.filterMap_flatMap]
  exact List.flatMap_congr fun result _ => (lists_entriesOf result).2.1

end Scan

end Script

end PageWiring
