import PageWiring.Elements
import PageWiring.Proofs.FunctionIndex

/-!
What is listed of a page and of its scripts after any entries.

Names of functions and ids of elements are listed once each, in the order in which they were first
entered. A name stands for the definition that was entered last. An id that was entered again is
listed among the duplicates, in the order of second entries, with the line of every entry.
-/
namespace PageWiring

/-- The values that occur at least `n` times, each listed once, in the order in which they come to
do so: of two listed values the earlier one occurs `n` times in a stretch of the values from the
start where the later one does not. -/
structure Arrivals (n : Nat) (values listed : List String) : Prop where
  nodup : listed.Nodup
  mem_iff : ∀ value, value ∈ listed ↔ n ≤ values.count value
  order : listed.Pairwise fun a b =>
    ∃ size, n ≤ (values.take size).count a ∧ (values.take size).count b < n

namespace Arrivals

variable {n : Nat} {values listed : List String}

theorem empty (positive : 0 < n) : Arrivals n [] [] where
  nodup := .nil
  mem_iff value := by simpa using Nat.ne_of_gt positive
  order := .nil

/-- A value that comes to occur `n` times is listed last, and any other leaves the list as it
is. -/
theorem concat (arrivals : Arrivals n values listed) (value : String) :
    Arrivals n (values ++ [value])
      (if values.count value + 1 = n then listed ++ [value] else listed) := by
  have counted (other : String) : (values ++ [value]).count other =
      values.count other + if value = other then 1 else 0 := by
    rw [List.count_append, List.count_singleton]
    simp
  -- What is seen in a stretch of the values is seen in the same stretch of the longer list.
  have still : listed.Pairwise fun a b => ∃ size, n ≤ ((values ++ [value]).take size).count a ∧
      ((values ++ [value]).take size).count b < n := by
    refine arrivals.order.imp ?_
    rintro a b ⟨size, reached, short⟩
    refine ⟨min size values.length, ?_⟩
    rw [List.take_append_of_le_length (Nat.min_le_right _ _), ← List.take_eq_take_min]
    exact ⟨reached, short⟩
  by_cases reaches : values.count value + 1 = n
  · have fresh : value ∉ listed := by
      rw [arrivals.mem_iff]
      omega
    rw [if_pos reaches]
    refine ⟨?_, fun other => ?_, ?_⟩
    · exact List.nodup_append.mpr ⟨arrivals.nodup, List.pairwise_singleton _ value, by
        rintro other member last there rfl
        exact fresh (List.mem_singleton.mp there ▸ member)⟩
    · rw [List.mem_append, List.mem_singleton, arrivals.mem_iff, counted]
      by_cases own : value = other
      · subst own
        simp [reaches]
      · simp [own, Ne.symm own]
    · refine List.pairwise_append.mpr
        ⟨still, List.pairwise_singleton _ _, fun a member b last => ?_⟩
      obtain rfl := List.mem_singleton.mp last
      refine ⟨values.length, ?_⟩
      rw [List.take_left]
      exact ⟨(arrivals.mem_iff a).mp member, by omega⟩
  · rw [if_neg reaches]
    refine ⟨arrivals.nodup, fun other => ?_, still⟩
    rw [arrivals.mem_iff, counted]
    by_cases own : value = other
    · subst own
      rw [if_pos rfl]
      omega
    · rw [if_neg own, Nat.add_zero]

end Arrivals

/-! ### Functions -/

namespace Functions

namespace Indexed

variable {f : Functions}

theorem get?_eq_getLast? (indexed : f.Indexed) (name : String) :
    f.get? name = (f.definitions.filter (·.name == name)).getLast? := by
  rw [indexed.get?, List.getLast?_eq_head?_reverse, ← List.filter_reverse, List.head?_filter]

/-- The definitions that stand for names have these names, in the order of the index. -/
theorem map_functions (indexed : f.Indexed) : f.functions.map (·.name) = f.names := by
  have named (name : String) (member : name ∈ f.names) :
      (f.get? name).map (·.name) = some name := by
    have known := indexed.mem_names_iff.mp member
    rw [indexed.contains, List.any_eq_true] at known
    obtain ⟨d, there, same⟩ := known
    cases found : f.get? name with
    | none =>
      rw [indexed.get?, List.find?_eq_none] at found
      exact absurd same (found d (List.mem_reverse.mpr there))
    | some e => rw [Option.map_some, indexed.name_of_get? found]
  rw [functions, List.map_filterMap, List.filterMap_congr named, List.filterMap_some]

end Indexed

theorem arrivals_define {f : Functions} (indexed : f.Indexed)
    (arrivals : Arrivals 1 (f.definitions.map (·.name)) f.names) (d : FunctionDef) :
    Arrivals 1 ((f.define d).definitions.map (·.name)) (f.define d).names := by
  have known : (f.latest.lookup d.name).isSome ↔
      ¬ (f.definitions.map (·.name)).count d.name + 1 = 1 := by
    have listed : d.name ∈ f.names ↔ (f.latest.lookup d.name).isSome := indexed.mem_names_iff
    rw [← listed, arrivals.mem_iff]
    omega
  have names : (f.define d).names =
      if (f.definitions.map (·.name)).count d.name + 1 = 1 then f.names ++ [d.name]
      else f.names :=
    (if_congr known rfl rfl).trans (ite_not ..)
  rw [names, Functions.define, List.map_append, List.map_singleton]
  exact arrivals.concat d.name

theorem arrivals_ofEntries (entries : List Entry) :
    Arrivals 1 ((definitionsIn entries).map (·.name)) (ofEntries entries).names := by
  have entered (f : Functions) (indexed : f.Indexed)
      (arrivals : Arrivals 1 (f.definitions.map (·.name)) f.names) :
      Arrivals 1 ((entries.foldl enter f).definitions.map (·.name))
        (entries.foldl enter f).names := by
    induction entries generalizing f with
    | nil => exact arrivals
    | cons entry rest ih =>
      refine ih (f.enter entry) (indexed.enter entry) ?_
      cases entry with
      | definition d => exact arrivals_define indexed arrivals d
      | query q => exact arrivals
      | call name site => exact arrivals
  rw [← (lists_ofEntries entries).1]
  exact entered {} indexed_empty (.empty Nat.one_pos)

theorem callSites_eq (f : Functions) (name : String) :
    f.callSites name = (f.calls.filter (·.1 == name)).map (·.2) := by
  rw [callSites, ← List.filterMap_eq_map, List.filterMap_filter]
  rfl

/-- After any entries the index passes its own check. The functions are listed one for each defined
name, in the order of first definitions, each by its last definition, which is also what a name is
looked up as. All definitions, calls and look-ups of elements are there, in their order. -/
theorem functions_ofEntries (entries : List Entry) :
    (ofEntries entries).validate = .ok () ∧
    Arrivals 1 ((definitionsIn entries).map (·.name))
      ((ofEntries entries).functions.map (·.name)) ∧
    (∀ d, d ∈ (ofEntries entries).functions ↔
      ((definitionsIn entries).filter (·.name == d.name)).getLast? = some d) ∧
    (∀ name,
      (ofEntries entries).get? name =
        ((definitionsIn entries).filter (·.name == name)).getLast? ∧
      ((ofEntries entries).contains name ↔ ∃ d ∈ definitionsIn entries, d.name = name) ∧
      (ofEntries entries).definitionsNamed name =
        (definitionsIn entries).filter (·.name == name) ∧
      (ofEntries entries).callSites name =
        ((callsIn entries).filter (·.1 == name)).map (·.2)) ∧
    (ofEntries entries).definitions = definitionsIn entries ∧
    (ofEntries entries).queries = queriesIn entries := by
  have indexed := indexed_ofEntries entries
  obtain ⟨definitions, queries, calls⟩ := lists_ofEntries entries
  refine ⟨indexed.validate, ?_, fun d => ?_, fun name => ⟨?_, ?_, ?_, ?_⟩, definitions, queries⟩
  · rw [indexed.map_functions]
    exact arrivals_ofEntries entries
  · rw [indexed.mem_functions_iff, indexed.get?_eq_getLast?, definitions]
  · rw [indexed.get?_eq_getLast?, definitions]
  · rw [indexed.contains, definitions]
    simp
  · rw [definitionsNamed, definitions]
  · rw [callSites_eq, calls]

/-- The first definition of `helper` gives its place, the last one stands for it. -/
example :
    let entries : List Entry := [.definition ⟨"helper", "a.js", 1, false, .declaration⟩,
      .definition ⟨"init", "a.js", 5, false, .arrow⟩,
      .definition ⟨"helper", "b.js", 9, false, .declaration⟩]
    (ofEntries entries).functions =
      [⟨"helper", "b.js", 9, false, .declaration⟩, ⟨"init", "a.js", 5, false, .arrow⟩] := by
  decide

end Functions

/-! ### Elements -/

namespace Elements

/-- One thing to be recorded of a page. -/
inductive Entry where
  | id (text : String) (line : Nat)
  | handler (record : EventHandler)
  | interactive (record : InteractiveElement)
  | form (record : Form)
  | diagnostic (record : PageDiagnostic)
  | lineCount (count : Nat)
  deriving DecidableEq, Repr

def enter (e : Elements) : Entry → Elements
  | .id text line => e.addId text line
  | .handler record => e.addHandler record
  | .interactive record => e.addInteractive record
  | .form record => e.addForm record
  | .diagnostic record => e.addDiagnostic record
  | .lineCount count => { e with lineCount := count }

/-- What is recorded when entries were made one after another, and nothing was there before. -/
def ofEntries (entries : List Entry) : Elements := entries.foldl enter {}

/-- The id that an entry inserts, without the blanks around it. A blank id is none. -/
def Entry.insertion? : Entry → Option (String × Nat)
  | .id text line =>
    if Text.trimString text = "" then none else some (Text.trimString text, line)
  | _ => none

/-- The ids that entries insert, each with its line. -/
def insertions (entries : List Entry) : List (String × Nat) := entries.filterMap Entry.insertion?

theorem insertions_singleton (entry : Entry) :
    insertions [entry] = entry.insertion?.toList := by
  rw [insertions]
  cases found : entry.insertion? <;> simp [found]

/-- The lines on which an id was inserted. -/
def linesOf (inserted : List (String × Nat)) (id : String) : List Nat :=
  (inserted.filter (·.1 == id)).map (·.2)

theorem linesOf_concat (inserted : List (String × Nat)) (id : String) (line : Nat)
    (other : String) : linesOf (inserted ++ [(id, line)]) other =
      linesOf inserted other ++ if id = other then [line] else [] := by
  rw [linesOf, List.filter_append, List.map_append, ← linesOf]
  by_cases own : id = other
  · simp [own]
  · simp [own]

theorem length_linesOf (inserted : List (String × Nat)) (id : String) :
    (linesOf inserted id).length = (inserted.map (·.1)).count id := by
  rw [linesOf, List.length_map, List.count_eq_countP, List.countP_map, List.countP_eq_length_filter]
  rfl

/-! The record of a repeated id. -/

theorem noteDuplicate_of_not_mem {id : String} {ds : List DuplicateId}
    (absent : id ∉ ds.map (·.elementId)) (first line : Nat) :
    noteDuplicate id first line ds = ds ++ [⟨id, [first, line]⟩] := by
  induction ds with
  | nil => rfl
  | cons d ds ih =>
    rw [List.map_cons, List.mem_cons, not_or] at absent
    rw [noteDuplicate, if_neg (Ne.symm absent.1), ih absent.2, List.cons_append]

/-- A further line of a repeated id. -/
def extendLines (id : String) (line : Nat) (d : DuplicateId) : DuplicateId :=
  if d.elementId = id then { d with lines := d.lines ++ [line] } else d

@[simp] theorem elementId_extendLines (id : String) (line : Nat) (d : DuplicateId) :
    (extendLines id line d).elementId = d.elementId := by
  unfold extendLines
  split <;> rfl

theorem noteDuplicate_of_mem {id : String} {ds : List DuplicateId}
    (nodup : (ds.map (·.elementId)).Nodup) (member : id ∈ ds.map (·.elementId))
    (first line : Nat) : noteDuplicate id first line ds = ds.map (extendLines id line) := by
  induction ds with
  | nil => cases member
  | cons d ds ih =>
    rw [List.map_cons, List.nodup_cons] at nodup
    rw [noteDuplicate, List.map_cons, extendLines]
    by_cases own : d.elementId = id
    · -- No later record is for the same id, so the others stay as they are.
      have others : ds.map (extendLines id line) = ds := by
        refine (List.map_congr_left fun other there => ?_).trans (List.map_id ds)
        have different : other.elementId ≠ id := fun same =>
          nodup.1 (own.trans same.symm ▸ List.mem_map_of_mem there)
        rw [extendLines, if_neg different, id_eq]
      rw [if_pos own, if_pos own, others]
    · have later : id ∈ ds.map (·.elementId) :=
        (List.mem_cons.mp member).resolve_left (Ne.symm own)
      rw [if_neg own, if_neg own, ih nodup.2 later]

/-! Inserting ids one after another. -/

/-- What is recorded of ids after they were inserted. -/
structure Recorded (inserted : List (String × Nat)) (e : Elements) : Prop where
  ids : Arrivals 1 (inserted.map (·.1)) e.ids
  index : ∀ id, id ∈ e.idIndex ↔ id ∈ e.ids
  firstLine : ∀ id, e.firstSeen.lookup id = (linesOf inserted id).head?
  repeated : Arrivals 2 (inserted.map (·.1)) (e.duplicates.map (·.elementId))
  lines : ∀ d ∈ e.duplicates, d.lines = linesOf inserted d.elementId

namespace Recorded

variable {inserted : List (String × Nat)} {e : Elements}

theorem empty : Recorded [] {} where
  ids := .empty Nat.one_pos
  index _ := .rfl
  firstLine _ := rfl
  repeated := .empty Nat.two_pos
  lines d member := by cases member

/-- An id that is new. -/
theorem addFirst (recorded : Recorded inserted e) {id : String} (line : Nat)
    (unseen : e.firstSeen.lookup id = none) :
    Recorded (inserted ++ [(id, line)])
      { e with
        ids := e.ids ++ [id]
        idIndex := e.idIndex.insert id
        firstSeen := e.firstSeen ++ [(id, line)] } := by
  have none : linesOf inserted id = [] := by
    rw [← List.head?_eq_none_iff, ← recorded.firstLine, unseen]
  have uncounted : (inserted.map (·.1)).count id = 0 := by
    rw [← length_linesOf, none, List.length_nil]
  have ids := recorded.ids.concat id
  have repeated := recorded.repeated.concat id
  rw [uncounted, if_pos rfl] at ids
  rw [uncounted, if_neg (by omega)] at repeated
  refine ⟨?_, fun other => ?_, fun other => ?_, ?_, fun d member => ?_⟩
  · simpa using ids
  · rw [List.mem_insert_iff, recorded.index, List.mem_append, List.mem_singleton, or_comm]
  · rw [List.lookup_append, linesOf_concat, List.head?_append, recorded.firstLine]
    by_cases own : id = other
    · subst own
      simp
    · have different : (other == id) = false := by simpa using Ne.symm own
      simp [own, List.lookup_cons, different]
  · simpa using repeated
  · have again := (recorded.repeated.mem_iff d.elementId).mp (List.mem_map_of_mem member)
    have different : id ≠ d.elementId := by
      rintro rfl
      omega
    rw [linesOf_concat, if_neg different, List.append_nil]
    exact recorded.lines d member

theorem one_le_count (recorded : Recorded inserted e) {id : String} {first : Nat}
    (seen : e.firstSeen.lookup id = some first) : 1 ≤ (inserted.map (·.1)).count id := by
  rw [recorded.firstLine] at seen
  rw [← length_linesOf]
  exact List.length_pos_of_mem (List.mem_of_head? seen)

/-- An id that was inserted and has no record among the duplicates was inserted once. -/
theorem linesOf_eq_singleton (recorded : Recorded inserted e) {id : String} {first : Nat}
    (seen : e.firstSeen.lookup id = some first)
    (unrepeated : id ∉ e.duplicates.map (·.elementId)) : linesOf inserted id = [first] := by
  have single : (linesOf inserted id).length = 1 := by
    have counted := recorded.one_le_count seen
    rw [recorded.repeated.mem_iff] at unrepeated
    rw [length_linesOf]
    omega
  obtain ⟨only, same⟩ := List.length_eq_one_iff.mp single
  rw [recorded.firstLine, same, List.head?_singleton] at seen
  rw [same, Option.some.inj seen]

/-- The duplicates stay in step when an id that was inserted before is inserted again. -/
theorem noteDuplicate (recorded : Recorded inserted e) {id : String} (line : Nat) {first : Nat}
    (seen : e.firstSeen.lookup id = some first) :
    Arrivals 2 ((inserted ++ [(id, line)]).map (·.1))
      ((Elements.noteDuplicate id first line e.duplicates).map (·.elementId)) ∧
    ∀ d ∈ Elements.noteDuplicate id first line e.duplicates,
      d.lines = linesOf (inserted ++ [(id, line)]) d.elementId := by
  have counted := recorded.one_le_count seen
  have listed := recorded.repeated.mem_iff id
  have repeated := recorded.repeated.concat id
  by_cases member : id ∈ e.duplicates.map (·.elementId)
  · have twice := listed.mp member
    rw [if_neg (by omega)] at repeated
    rw [noteDuplicate_of_mem recorded.repeated.nodup member]
    refine ⟨by simpa [Function.comp_def] using repeated, fun d there => ?_⟩
    obtain ⟨old, known, rfl⟩ := List.mem_map.mp there
    rw [elementId_extendLines, linesOf_concat, ← recorded.lines old known, extendLines]
    by_cases own : old.elementId = id
    · simp [own]
    · simp [own, Ne.symm own]
  · have lines := recorded.linesOf_eq_singleton seen member
    have once := mt listed.mpr member
    rw [if_pos (by omega)] at repeated
    rw [noteDuplicate_of_not_mem member]
    refine ⟨by simpa using repeated, fun d there => ?_⟩
    rw [linesOf_concat]
    rcases List.mem_append.mp there with known | last
    · have different : id ≠ d.elementId := by
        rintro rfl
        exact member (List.mem_map_of_mem known)
      rw [if_neg different, List.append_nil]
      exact recorded.lines d known
    · obtain rfl := List.mem_singleton.mp last
      simp [lines]

/-- An id that was inserted before. -/
theorem addAgain (recorded : Recorded inserted e) {id : String} (line : Nat) {first : Nat}
    (seen : e.firstSeen.lookup id = some first) :
    Recorded (inserted ++ [(id, line)])
      { e with duplicates := Elements.noteDuplicate id first line e.duplicates } := by
  obtain ⟨repeated, lines⟩ := recorded.noteDuplicate line seen
  have counted := recorded.one_le_count seen
  have ids := recorded.ids.concat id
  rw [if_neg (by omega)] at ids
  refine ⟨by simpa using ids, recorded.index, fun other => ?_, repeated, lines⟩
  rw [linesOf_concat, List.head?_append, ← recorded.firstLine]
  by_cases own : id = other
  · subst own
    rw [seen, Option.some_or]
  · simp [own]

/-- Only an entry that inserts an id changes what is recorded of ids. -/
theorem enter (recorded : Recorded inserted e) (entry : Entry) :
    Recorded (inserted ++ insertions [entry]) (e.enter entry) := by
  cases entry with
  | id text line =>
    rw [Elements.enter, addId, recordId, insertions_singleton, Entry.insertion?]
    by_cases blank : Text.trimString text = ""
    · simpa [blank] using recorded
    · have shown : ¬ (Text.trimString text).isEmpty := by simpa using blank
      rw [if_neg shown, if_neg blank]
      split
      · next first seen => exact recorded.addAgain line seen
      · next unseen => exact recorded.addFirst line unseen
  | handler record | interactive record | form record | diagnostic record | lineCount count =>
    show Recorded (inserted ++ []) _
    rw [List.append_nil]
    exact ⟨recorded.ids, recorded.index, recorded.firstLine, recorded.repeated, recorded.lines⟩

end Recorded

theorem recorded_ofEntries (entries : List Entry) :
    Recorded (insertions entries) (ofEntries entries) := by
  have entered (e : Elements) (inserted : List (String × Nat)) (recorded : Recorded inserted e) :
      Recorded (inserted ++ insertions entries) (entries.foldl enter e) := by
    induction entries generalizing e inserted with
    | nil => simpa [insertions] using recorded
    | cons entry rest ih =>
      have later := ih (e.enter entry) (inserted ++ insertions [entry]) (recorded.enter entry)
      rwa [List.append_assoc, insertions, insertions, ← List.filterMap_append,
        List.singleton_append] at later
  exact entered {} [] .empty

/-- After any entries the ids are listed once each, without blanks around them, in the order of
first insertions. The index has exactly the listed ids, and each of them is known with the line of
its first insertion. The duplicates have one record for each id that was inserted more than once, in
the order of second insertions, with the lines of all its insertions in their order. -/
theorem ids_ofEntries (entries : List Entry) :
    Arrivals 1 ((insertions entries).map (·.1)) (ofEntries entries).ids ∧
    (∀ id, (ofEntries entries).containsId id ↔ id ∈ (ofEntries entries).ids) ∧
    (∀ id, (ofEntries entries).firstSeen.lookup id =
      (linesOf (insertions entries) id).head?) ∧
    Arrivals 2 ((insertions entries).map (·.1))
      ((ofEntries entries).duplicates.map (·.elementId)) ∧
    ∀ d, d ∈ (ofEntries entries).duplicates ↔
      d.lines = linesOf (insertions entries) d.elementId ∧ 2 ≤ d.lines.length := by
  have recorded := recorded_ofEntries entries
  refine ⟨recorded.ids, fun id => ?_, recorded.firstLine, recorded.repeated, fun d => ?_⟩
  · rw [containsId, List.contains_iff_mem]
    exact recorded.index id
  · have listed := recorded.repeated.mem_iff d.elementId
    rw [← length_linesOf] at listed
    constructor
    · intro member
      have lines := recorded.lines d member
      exact ⟨lines, lines ▸ listed.mp (List.mem_map_of_mem member)⟩
    · rintro ⟨lines, twice⟩
      obtain ⟨known, member, same⟩ := List.mem_map.mp (listed.mpr (lines ▸ twice))
      have knownLines := recorded.lines known member
      rw [same, ← lines] at knownLines
      obtain ⟨id, ownLines⟩ := d
      obtain ⟨knownId, _⟩ := known
      obtain rfl : knownId = id := same
      obtain rfl : _ = ownLines := knownLines
      exact member

/-- `b` comes first and `a` is repeated first. -/
example :
    let entries : List Entry := [.id "b" 1, .id " a" 2, .id "  " 3, .id "a " 4, .lineCount 9,
      .id "b" 5, .id "b" 8]
    (ofEntries entries).ids = ["b", "a"] ∧
      (ofEntries entries).duplicates = [⟨"a", [2, 4]⟩, ⟨"b", [1, 5, 8]⟩] := by
  decide

end Elements

end PageWiring
