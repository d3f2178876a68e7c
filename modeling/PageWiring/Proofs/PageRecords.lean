import PageWiring.Markup.Page
import PageWiring.Proofs.Lines

/-!
The records of a page, tag by tag.

Each start tag leaves its records behind on the line where the locator finds it, or on the line
where its reading ended when the locator has lost it. The records of a page are those of its start
tags, one after the other.
-/
namespace PageWiring.Elements

/-- What is recorded of ids. -/
def idRecords (e : Elements) :
    List String × List String × List (String × Nat) × List DuplicateId :=
  (e.ids, e.idIndex, e.firstSeen, e.duplicates)

def addIds (e : Elements) (ids : List (String × Nat)) : Elements :=
  ids.foldl (fun e id => e.addId id.1 id.2) e

@[simp] theorem addIds_nil (e : Elements) : e.addIds [] = e := rfl

@[simp] theorem addIds_cons (e : Elements) (id : String × Nat) (ids : List (String × Nat)) :
    e.addIds (id :: ids) = (e.addId id.1 id.2).addIds ids := by
  unfold addIds
  rw [List.foldl_cons]

theorem addIds_append (e : Elements) (ids more : List (String × Nat)) :
    e.addIds (ids ++ more) = (e.addIds ids).addIds more := List.foldl_append

theorem idRecords_addId {e e' : Elements} (same : e.idRecords = e'.idRecords) (id : String)
    (line : Nat) : (e.addId id line).idRecords = (e'.addId id line).idRecords := by
  simp only [idRecords, Prod.mk.injEq] at same
  obtain ⟨ids, idIndex, firstSeen, duplicates⟩ := same
  unfold addId recordId
  rw [ids, idIndex, firstSeen, duplicates]
  split
  · simp [idRecords, ids, idIndex, firstSeen, duplicates]
  · split
    · simp [idRecords]
    · simp [idRecords]

/-- Ids are recorded regardless of all other records. -/
theorem idRecords_addIds {e e' : Elements} (same : e.idRecords = e'.idRecords)
    (ids : List (String × Nat)) : (e.addIds ids).idRecords = (e'.addIds ids).idRecords := by
  induction ids generalizing e e' with
  | nil => exact same
  | cons id ids ih =>
    rw [addIds_cons, addIds_cons]
    exact ih (idRecords_addId same id.1 id.2)

end PageWiring.Elements

namespace PageWiring.Markup

/-- The record of one handler of a tag on `line`; a handler without text leaves none. -/
def Tag.record? (t : Tag) (line : Nat) (handler : String × String) : Option EventHandler :=
  let call := Text.trimString handler.2
  if call.isEmpty then none else some ⟨t.trimmed? "id", handler.1, call, line⟩

def Tag.records (t : Tag) (line : Nat) : List EventHandler :=
  t.eventHandlers.filterMap (t.record? line)

/-- A record is for a known event and on the line of its tag. -/
theorem mem_records {t : Tag} {line : Nat} {h : EventHandler} (member : h ∈ t.records line) :
    h.eventType ∈ eventAttributes ∧ h.line = line := by
  obtain ⟨handler, inside, same⟩ := List.mem_filterMap.mp member
  have event : handler.1 ∈ eventAttributes :=
    List.contains_iff_mem.mp (List.mem_filter.mp inside).2
  unfold Tag.record? at same
  dsimp only at same
  split at same
  · cases same
  · rw [← Option.some.inj same]
    exact ⟨event, rfl⟩

/-- A start tag where it is recorded. -/
structure Placement where
  tag : Tag
  /-- The line on which its reading ended. -/
  read : Nat
  /-- The line on which it was found to start. -/
  found : Option Nat
  insideForm : Bool
  deriving DecidableEq

namespace Placement

def line (p : Placement) : Nat := p.found.getD p.read

def handlers (p : Placement) : List EventHandler := p.tag.records p.line

def interactive (p : Placement) : List InteractiveElement :=
  if p.tag.isInteractive p.insideForm then
    [⟨p.tag.trimmed? "id", p.tag.name, p.tag.role?, !p.tag.eventHandlers.isEmpty, p.line⟩]
  else []

/-- The id of the tag, with the line on which it is recorded. -/
def ids (p : Placement) : List (String × Nat) := (p.tag.trimmed? "id").toList.map (·, p.line)

/-- The id and the line of the form that the tag begins, if it begins one. -/
def forms (p : Placement) : List (Option String × Nat) :=
  if p.tag.name == "form" then [(p.tag.trimmed? "id", p.line)] else []

end Placement

namespace Collection

/-- Where the next event puts a tag, if it is a start tag. -/
def placed (c : Collection) (e : Event) : List Placement :=
  match e.kind with
  | .startTag t =>
    let found := (c.locator.followTag ('<' :: t.name.toList) e.line).1
    [⟨t, e.line, found, !c.openForms.isEmpty⟩]
  | _ => []

def placements (c : Collection) : List Event → List Placement
  | [] => []
  | e :: es => c.placed e ++ (c.event e).placements es

theorem addHandlers_eq (t : Tag) (line : Nat) (e : Elements) :
    addHandlers (t.trimmed? "id") line e t =
      { e with handlers := e.handlers ++ t.records line } := by
  unfold addHandlers Tag.records
  induction t.eventHandlers generalizing e with
  | nil => simp
  | cons handler rest ih =>
    rw [List.foldl_cons, ih, List.filterMap_cons, Tag.record?]
    by_cases blank : (Text.trimString handler.2).isEmpty
    · simp [blank]
    · simp [blank, Elements.addHandler]

@[simp] theorem elements_onInnermostForm (c : Collection) (f : Form → Form) :
    (c.onInnermostForm f).elements = c.elements := by
  unfold onInnermostForm
  split <;> rfl

@[simp] theorem locator_onInnermostForm (c : Collection) (f : Form → Form) :
    (c.onInnermostForm f).locator = c.locator := by
  unfold onInnermostForm
  split <;> rfl

@[simp] theorem elements_trackForm (c : Collection) (t : Tag) (id : Option String) (line : Nat) :
    (c.trackForm t id line).elements = c.elements := by
  unfold trackForm
  repeat' split
  all_goals simp

@[simp] theorem locator_trackForm (c : Collection) (t : Tag) (id : Option String) (line : Nat) :
    (c.trackForm t id line).locator = c.locator := by
  unfold trackForm
  repeat' split
  all_goals simp

/-- Recording an id changes no other record. -/
theorem addId_eq (e : Elements) (id : String) (line : Nat) :
    ∃ ids idIndex firstSeen duplicates, e.addId id line =
      { e with
        ids := ids, idIndex := idIndex, firstSeen := firstSeen, duplicates := duplicates } := by
  unfold Elements.addId Elements.recordId
  split
  · exact ⟨_, _, _, _, rfl⟩
  · split
    · exact ⟨_, _, _, _, rfl⟩
    · exact ⟨_, _, _, _, rfl⟩

theorem elim_addId_eq (e : Elements) (id : Option String) (line : Nat) :
    ∃ ids idIndex firstSeen duplicates, id.elim e (fun id => e.addId id line) =
      { e with
        ids := ids, idIndex := idIndex, firstSeen := firstSeen, duplicates := duplicates } := by
  cases id with
  | none => exact ⟨e.ids, e.idIndex, e.firstSeen, e.duplicates, rfl⟩
  | some id =>
    rw [Option.elim_some]
    exact addId_eq e id line

theorem records_recordTag (c : Collection) (t : Tag) (line : Nat) :
    (c.recordTag t line).elements.handlers = c.elements.handlers ++ t.records line ∧
      (c.recordTag t line).elements.interactive = c.elements.interactive ++
        if t.isInteractive (!c.openForms.isEmpty) then
          [⟨t.trimmed? "id", t.name, t.role?, !t.eventHandlers.isEmpty, line⟩]
        else [] := by
  obtain ⟨ids, idIndex, firstSeen, duplicates, added⟩ :=
    elim_addId_eq c.elements (t.trimmed? "id") line
  unfold recordTag
  simp only [added, addHandlers_eq, elements_trackForm]
  split <;> simp [Elements.addInteractive]

theorem locator_event (c : Collection) {e : Event} {text : List Char}
    (holds : c.locator.Holds text) : (c.event e).locator.Holds text := by
  unfold event
  split
  · simp only [startTag, recordTag, locator_trackForm]
    exact Locator.followTag_holds holds
  · exact Locator.followTag_holds holds
  · exact Locator.comment_holds holds
  · exact holds

theorem records_event (c : Collection) (e : Event) :
    (c.event e).elements.handlers =
        c.elements.handlers ++ (c.placed e).flatMap Placement.handlers ∧
      (c.event e).elements.interactive =
        c.elements.interactive ++ (c.placed e).flatMap Placement.interactive := by
  unfold event placed
  cases e.kind with
  | startTag t =>
    have recorded := records_recordTag
      { c with locator := (c.locator.startTag t.name e.line).2 } t
      (c.locator.startTag t.name e.line).1
    simpa [startTag, Placement.handlers, Placement.interactive, Placement.line,
      Locator.startTag] using recorded
  | endTag name => simp [endTag]
  | comment => simp
  | fault cause => simp [Elements.addDiagnostic]

/-- Where each event appends what its start tag gives, a run appends what its start tags give. -/
theorem view_foldl {α : Type} (view : Collection → List α) (of : Placement → List α)
    (step : ∀ c e, view (c.event e) = view c ++ (c.placed e).flatMap of)
    (c : Collection) (es : List Event) :
    view (es.foldl event c) = view c ++ (c.placements es).flatMap of := by
  induction es generalizing c with
  | nil => rw [List.foldl_nil, placements, List.flatMap_nil, List.append_nil]
  | cons e es ih =>
    rw [List.foldl_cons, ih, step, placements, List.flatMap_append, List.append_assoc]

/-- The records of a run are those before it, followed by those of its start tags. -/
theorem records_foldl (c : Collection) (es : List Event) :
    (es.foldl event c).elements.handlers =
        c.elements.handlers ++ (c.placements es).flatMap Placement.handlers ∧
      (es.foldl event c).elements.interactive =
        c.elements.interactive ++ (c.placements es).flatMap Placement.interactive :=
  ⟨view_foldl (·.elements.handlers) Placement.handlers (fun c e => (records_event c e).1) c es,
    view_foldl (·.elements.interactive) Placement.interactive
      (fun c e => (records_event c e).2) c es⟩

theorem locator_foldl (c : Collection) (es : List Event) {text : List Char}
    (holds : c.locator.Holds text) : (es.foldl event c).locator.Holds text := by
  induction es generalizing c with
  | nil => exact holds
  | cons e es ih => exact ih _ (locator_event c holds)

/-- A tag that was found stands on a line of the page, and was read to its end there or later. -/
theorem found_le_lineCount {text : List Char} {c : Collection} {es : List Event}
    (holds : c.locator.Holds text) {p : Placement} (member : p ∈ c.placements es) {start : Nat}
    (found : p.found = some start) :
    1 ≤ start ∧ start ≤ p.read ∧ start ≤ Text.lineCount text := by
  induction es generalizing c with
  | nil => cases member
  | cons e es ih =>
    rcases List.mem_append.mp member with here | later
    · unfold placed at here
      split at here
      · obtain rfl := List.mem_singleton.mp here
        exact Locator.followTag_fst holds found
      · cases here
    · exact ih (locator_event c holds) later

/-- The placed tags are the start tags that were read, in their order. -/
theorem placements_map_tag (c : Collection) (es : List Event) :
    (c.placements es).map (fun p => (p.tag, p.read)) = es.filterMap fun e =>
      match e.kind with
      | .startTag t => some (t, e.line)
      | _ => none := by
  induction es generalizing c with
  | nil => rfl
  | cons e es ih =>
    rw [placements, List.map_append, ih, List.filterMap_cons]
    unfold placed
    split <;> simp_all

/-! Ids and forms. -/

section Ids

open Elements (idRecords addIds)

theorem idRecords_recordTag (c : Collection) (t : Tag) (line : Nat) :
    idRecords (c.recordTag t line).elements =
      idRecords (addIds c.elements ((t.trimmed? "id").toList.map (·, line))) := by
  have added : (t.trimmed? "id").elim c.elements (fun id => c.elements.addId id line) =
      addIds c.elements ((t.trimmed? "id").toList.map (·, line)) := by
    cases t.trimmed? "id" with
    | none => rfl
    | some id => simp only [Option.elim_some, Option.toList_some, List.map_singleton,
        Elements.addIds_cons, Elements.addIds_nil]
  unfold recordTag
  simp only [elements_trackForm, addHandlers_eq, added]
  generalize addIds c.elements _ = e
  split <;> rfl

theorem idRecords_event (c : Collection) (e : Event) :
    idRecords (c.event e).elements =
      idRecords (addIds c.elements ((c.placed e).flatMap Placement.ids)) := by
  unfold event placed
  cases e.kind with
  | startTag t =>
    have recorded := idRecords_recordTag
      { c with locator := (c.locator.startTag t.name e.line).2 } t
      (c.locator.startTag t.name e.line).1
    simpa [startTag, Placement.ids, Placement.line, Locator.startTag] using recorded
  | endTag name => rfl
  | comment => rfl
  | fault cause => rfl

/-- The ids of a run are those before it, followed by those of its start tags. -/
theorem idRecords_foldl (c : Collection) (es : List Event) :
    idRecords (es.foldl event c).elements =
      idRecords (addIds c.elements ((c.placements es).flatMap Placement.ids)) := by
  induction es generalizing c with
  | nil => rfl
  | cons e es ih =>
    rw [List.foldl_cons, ih, placements, List.flatMap_append, Elements.addIds_append]
    exact Elements.idRecords_addIds (idRecords_event c e) _

end Ids

/-- The ids and lines of the forms so far. -/
def outline (c : Collection) : List (Option String × Nat) :=
  c.forms.map fun f => (f.elementId, f.line)

theorem outline_onInnermostForm (c : Collection) {f : Form → Form}
    (kept : ∀ form, (f form).elementId = form.elementId ∧ (f form).line = form.line) :
    (c.onInnermostForm f).outline = c.outline := by
  unfold onInnermostForm outline
  split
  · rfl
  · refine List.ext_getElem? fun n => ?_
    simp only [List.getElem?_map, List.getElem?_modify]
    cases c.forms[n]? with
    | none => rfl
    | some form =>
      simp only [Option.map_eq_map, Option.map_some]
      split
      · simp [kept]
      · rfl

theorem outline_trackForm (c : Collection) (t : Tag) (id : Option String) (line : Nat) :
    (c.trackForm t id line).outline =
      c.outline ++ if t.name == "form" then [(id, line)] else [] := by
  unfold trackForm
  split
  · simp [outline]
  · rw [List.append_nil]
    repeat' split
    all_goals
      first
      | rfl
      | exact outline_onInnermostForm c fun _ => ⟨rfl, rfl⟩

theorem forms_recordTag (c : Collection) (t : Tag) (line : Nat) :
    (c.recordTag t line).outline =
        c.outline ++ (if t.name == "form" then [(t.trimmed? "id", line)] else []) ∧
      (c.recordTag t line).elements.forms = c.elements.forms := by
  obtain ⟨ids, idIndex, firstSeen, duplicates, added⟩ :=
    elim_addId_eq c.elements (t.trimmed? "id") line
  unfold recordTag
  refine ⟨outline_trackForm _ t _ line, ?_⟩
  simp only [added, addHandlers_eq, elements_trackForm]
  split <;> rfl

theorem forms_event (c : Collection) (e : Event) :
    (c.event e).outline = c.outline ++ (c.placed e).flatMap Placement.forms ∧
      (c.event e).elements.forms = c.elements.forms := by
  unfold event placed
  cases e.kind with
  | startTag t =>
    have recorded := forms_recordTag { c with locator := (c.locator.startTag t.name e.line).2 } t
      (c.locator.startTag t.name e.line).1
    simpa [startTag, Placement.forms, Placement.line, Locator.startTag, outline] using recorded
  | endTag name => simp [endTag, outline]
  | comment => simp [outline]
  | fault cause => simp [outline, Elements.addDiagnostic]

/-- The forms of a run are those before it, followed by those of its start tags. -/
theorem forms_foldl (c : Collection) (es : List Event) :
    (es.foldl event c).outline = c.outline ++ (c.placements es).flatMap Placement.forms ∧
      (es.foldl event c).elements.forms = c.elements.forms := by
  refine ⟨view_foldl outline Placement.forms (fun c e => (forms_event c e).1) c es, ?_⟩
  induction es generalizing c with
  | nil => rfl
  | cons e es ih => exact (ih (c.event e)).trans (forms_event c e).2

end Collection

/-- The start tags of a page, each where it is recorded. -/
def placements (text : List Char) : List Placement :=
  Collection.placements ⟨.ofText text, {}, [], []⟩ (events text)

theorem handlers_foldl_addForm (forms : List Form) (e : Elements) :
    forms.foldl Elements.addForm e = { e with forms := e.forms ++ forms } := by
  induction forms generalizing e with
  | nil => simp
  | cons form rest ih => simp [ih, Elements.addForm]

end Markup

open Markup

/-- The handlers and interactive elements of a page are those of its start tags. -/
theorem Elements.records_ofPage (text : List Char) :
    (Elements.ofPage text).handlers = (placements text).flatMap Placement.handlers ∧
      (Elements.ofPage text).interactive = (placements text).flatMap Placement.interactive ∧
      (Elements.ofPage text).lineCount = Text.lineCount text := by
  have records := Collection.records_foldl ⟨.ofText text, {}, [], []⟩ (events text)
  have holds := Collection.locator_foldl ⟨.ofText text, {}, [], []⟩ (events text)
    (Locator.holds_ofText text)
  simp only [ofPage, Collection.finish, handlers_foldl_addForm]
  refine ⟨by simpa [placements] using records.1, by simpa [placements] using records.2, ?_⟩
  rw [Locator.lineCount, holds.1, Text.lineCount_asciiLower]

/-- So are its ids and its forms. -/
theorem Elements.idsAndForms_ofPage (text : List Char) :
    (Elements.ofPage text).idRecords =
        (addIds {} ((placements text).flatMap Placement.ids)).idRecords ∧
      (Elements.ofPage text).forms.map (fun f => (f.elementId, f.line)) =
        (placements text).flatMap Placement.forms := by
  have ids := Collection.idRecords_foldl ⟨.ofText text, {}, [], []⟩ (events text)
  obtain ⟨outline, forms⟩ := Collection.forms_foldl ⟨.ofText text, {}, [], []⟩ (events text)
  simp only [ofPage, Collection.finish, handlers_foldl_addForm]
  refine ⟨by simpa only [idRecords, placements] using ids, ?_⟩
  rw [forms]
  simpa [Collection.outline, placements] using outline

end PageWiring
