import PageWiring.Fix.Edit
import PageWiring.Proofs.Analysis
import PageWiring.Proofs.AttributeRemoval
import PageWiring.Proofs.PageRecords

/-!
Removing a handler from a page.

The edit looks for an attribute by its spelling alone. When the stretch that it finds is an
attribute of the tag that the fix is about, all other records of the page stay as they are, apart
from their lines.
-/
namespace PageWiring

/-- A record of a handler apart from its line. -/
def EventHandler.content (h : EventHandler) : Option String × String × String :=
  (h.elementId, h.eventType, h.functionCall)

namespace Markup

/-- What a start tag records, apart from lines. -/
def Tag.contents (t : Tag) : List (Option String × String × String) :=
  (t.records 0).map EventHandler.content

theorem Tag.map_content_records (t : Tag) (line : Nat) :
    (t.records line).map EventHandler.content = t.contents := by
  unfold contents records
  rw [List.map_filterMap, List.map_filterMap]
  refine congrArg (fun f => t.eventHandlers.filterMap f) (funext fun handler => ?_)
  unfold record?
  dsimp only
  split <;> rfl

theorem placements_map_startTags (text : List Char) :
    (placements text).map (·.tag) = startTags text := by
  have read := congrArg (List.map Prod.fst)
    (Collection.placements_map_tag ⟨.ofText text, {}, [], []⟩ (events text))
  rw [List.map_map, List.map_filterMap] at read
  refine read.trans (congrArg (fun f => (events text).filterMap f) (funext fun e => ?_))
  cases e.kind <;> rfl

theorem map_content_flatMap (ps : List Placement) :
    (ps.flatMap Placement.handlers).map EventHandler.content =
      (ps.map (·.tag)).flatMap Tag.contents := by
  rw [List.map_flatMap, List.flatMap_map]
  exact congrArg (fun f => ps.flatMap f) (funext fun p => p.tag.map_content_records p.line)

/-- Apart from lines, the handlers of a page are those of its start tags. -/
theorem map_content_handlers (text : List Char) :
    (Elements.ofPage text).handlers.map EventHandler.content =
      (startTags text).flatMap Tag.contents := by
  rw [(Elements.records_ofPage text).1, map_content_flatMap, placements_map_startTags]

/-! ### One attribute less -/

variable {t t' : Tag} {lead trail : List (String × String)} {event value : String}

theorem trimmed_of_inserted (attributes : t.attributes = lead ++ trail)
    (full : t'.attributes = lead ++ (event, value) :: trail) {name : String}
    (other : name ≠ event) : t.trimmed? name = t'.trimmed? name := by
  have same : t.attribute? name = t'.attribute? name := by
    unfold Tag.attribute?
    have differs : (name == event) = false := by simpa using other
    rw [attributes, full, List.lookup_append, List.lookup_append, List.lookup_cons, differs]
  unfold Tag.trimmed?
  rw [same]

/-- The records of a tag with one more handler are those of the tag without it, and one in between.
-/
theorem records_of_inserted (attributes : t.attributes = lead ++ trail)
    (full : t'.attributes = lead ++ (event, value) :: trail) (known : event ∈ eventAttributes)
    (single : t.attribute? event = none) {line : Nat} {h : EventHandler}
    (recorded : h ∈ t'.records line) (own : h.eventType = event) :
    ∃ earlier later, t'.records line = earlier ++ h :: later ∧
      t.records line = earlier ++ later := by
  have others : ∀ item ∈ lead ++ trail, item.1 ≠ event := by
    rw [← attributes]
    intro item member isEvent
    have differs := List.lookup_eq_none_iff.mp single item member
    simp [isEvent] at differs
  have notId : "id" ≠ event := by
    rintro rfl
    exact absurd known (by decide)
  have same : t.record? line = t'.record? line := by
    funext handler
    unfold Tag.record?
    rw [trimmed_of_inserted attributes full notId]
  have isEvent : eventAttributes.contains event = true := List.contains_iff_mem.mpr known
  have parts : t'.records line = (lead.filter (eventAttributes.contains ·.1)).filterMap
      (t'.record? line) ++ ((t'.record? line (event, value)).toList ++
        (trail.filter (eventAttributes.contains ·.1)).filterMap (t'.record? line)) := by
    unfold Tag.records Tag.eventHandlers
    rw [full, List.filter_append, List.filterMap_append, List.filter_cons_of_pos (by exact isEvent),
      List.filterMap_cons]
    cases t'.record? line (event, value) <;> rfl
  have extra : t'.record? line (event, value) = some h := by
    obtain ⟨item, inside, made⟩ := List.mem_filterMap.mp recorded
    have name : item.1 = event := by
      rw [← own]
      unfold Tag.record? at made
      dsimp only at made
      split at made
      · cases made
      · rw [← Option.some.inj made]
    have member := (List.mem_filter.mp inside).1
    rw [full, List.mem_append, List.mem_cons] at member
    rcases member with before | rfl | behind
    · exact absurd name (others item (List.mem_append_left _ before))
    · exact made
    · exact absurd name (others item (List.mem_append_right _ behind))
  refine ⟨_, _, by rw [parts, extra, Option.toList_some, List.singleton_append], ?_⟩
  unfold Tag.records Tag.eventHandlers
  rw [attributes, same, List.filter_append, List.filterMap_append]

end Markup

namespace Check

/-- A broken handler is reported for a record, which it agrees with in line and event. -/
theorem exists_record_of_mem_brokenHandlers {config : Config} {elements : Elements}
    {functions : Functions} {findings : Findings} {broken : BrokenHandler}
    (analysis : analyze config elements functions = .ok findings)
    (reported : broken ∈ findings.brokenHandlers) :
    ∃ record ∈ elements.handlers, brokenHandler? functions record = some broken ∧
      record.line = broken.line ∧ record.eventType = broken.eventType := by
  rw [brokenHandlers_of_analyze analysis] at reported
  split at reported
  · obtain ⟨record, member, made⟩ := List.mem_filterMap.mp reported
    obtain ⟨name, -, -, same⟩ := brokenHandler?_eq_some_iff.mp made
    exact ⟨record, member, made, by rw [same], by rw [same]⟩
  · cases reported

end Check

namespace Fix

variable {elements : Elements} {htmlPath : String}

theorem exists_broken_of_mem_handlerFixes {target : StubTarget} {fix : Fix}
    (kind : fix.kind = .removeHandler) {stubbed : List String} {brokens : List BrokenHandler}
    (member : fix ∈ handlerFixes elements htmlPath target stubbed brokens) :
    ∃ broken ∈ brokens, fix = removeHandler elements htmlPath broken := by
  induction brokens generalizing stubbed with
  | nil => cases member
  | cons broken rest ih =>
    have further (later : ∃ other ∈ rest, fix = removeHandler elements htmlPath other) :
        ∃ other ∈ broken :: rest, fix = removeHandler elements htmlPath other := by
      obtain ⟨other, inside, same⟩ := later
      exact ⟨other, List.mem_cons_of_mem broken inside, same⟩
    unfold handlerFixes at member
    dsimp only at member
    split at member
    · rcases List.mem_cons.mp member with rfl | later
      · exact ⟨broken, List.mem_cons_self, rfl⟩
      · exact further (ih later)
    · rcases List.mem_cons.mp member with rfl | later
      · exact ⟨broken, List.mem_cons_self, rfl⟩
      · rcases List.mem_cons.mp later with rfl | later
        · cases kind
        · exact further (ih later)

/-- A derived fix that removes a handler is the removal of a broken one. -/
theorem exists_broken_of_mem_derive {findings : Findings} {functions : Functions}
    {target : StubTarget} {fix : Fix} (kind : fix.kind = .removeHandler)
    (derived : fix ∈ derive findings elements functions htmlPath target) :
    ∃ broken ∈ findings.brokenHandlers, fix = removeHandler elements htmlPath broken := by
  rcases List.mem_append.mp derived with removal | handler
  · obtain ⟨unused, -, rfl⟩ := List.mem_map.mp removal
    cases kind
  · exact exists_broken_of_mem_handlerFixes kind handler

/-- A safe removal is about the only record for its event on its line. -/
theorem eq_of_safe {broken : BrokenHandler}
    (safe : (removeHandler elements htmlPath broken).safe = true) {h h' : EventHandler}
    (member : h ∈ elements.handlers) (member' : h' ∈ elements.handlers)
    (line : h.line = broken.line) (line' : h'.line = broken.line)
    (event : h.eventType = broken.eventType) (event' : h'.eventType = broken.eventType) :
    h = h' := by
  have one : (elements.handlers.filter fun h =>
      h.line == broken.line && h.eventType == broken.eventType).length = 1 := by
    simp only [removeHandler, Bool.and_eq_true, beq_iff_eq] at safe
    exact safe.2
  obtain ⟨only, isOnly⟩ := List.length_eq_one_iff.mp one
  have kept {g : EventHandler} (inside : g ∈ elements.handlers) (onLine : g.line = broken.line)
      (forEvent : g.eventType = broken.eventType) : g = only := by
    have filtered : g ∈ elements.handlers.filter fun h =>
        h.line == broken.line && h.eventType == broken.eventType :=
      List.mem_filter.mpr ⟨inside, by simp [onLine, forEvent]⟩
    rw [isOnly] at filtered
    exact List.mem_singleton.mp filtered
  rw [kept member line event, kept member' line' event']

end Fix

open Markup

namespace Edit

/-- The text before and behind the stretch that a fix cuts out. -/
def cutAt? (text : List Char) (fix : Fix) : Option (List Char × List Char) := do
  let event ← fix.eventType
  let (before, below) ← (Text.lineOffset text fix.line).bind (Text.cut? text)
  let (lead, rest) ← findAttribute event.toList fix.functionName.toList 0 below
  return (before ++ lead, rest)

theorem edit_eq_of_cutAt? {text pre rest : List Char} {fix : Fix}
    (kind : fix.kind = .removeHandler) (cut : cutAt? text fix = some (pre, rest)) :
    fix.edit text = .ok (pre ++ rest) := by
  simp only [cutAt?, Option.bind_eq_bind, Option.bind_eq_some_iff, Option.pure_def,
    Option.some.injEq, Prod.mk.injEq] at cut
  obtain ⟨event, named, ⟨before, below⟩, started, ⟨lead, rest'⟩, found, rfl, rfl⟩ := cut
  simp only [Fix.edit, kind, removeHandler, named, Option.bind_eq_some_iff.mpr started, found]
  rfl

/-- A place in a page where an attribute is cut out: the attribute and what it sets, the text around
it, and the reading in front of it and behind it. -/
structure Site where
  pre : List Char
  found : List Char
  rest : List Char
  event : String
  value : List Char
  before : Machine
  behind : Machine

namespace Site

variable {s : Site} {text : List Char} {fix : Fix}

/-- The page without the attribute. -/
def cleared (s : Site) : List Char := s.pre ++ s.rest

/-- The place of the tag around the attribute among the start tags. -/
def index (s : Site) : Nat := s.before.tags.length

/-- What a fix cuts out of a page is the attribute of a tag that has a record for its event on the
line of the fix, and the tag has no second attribute for that event. -/
structure Hits (s : Site) (text : List Char) (fix : Fix) : Prop where
  named : fix.eventType = some s.event
  whole : text = s.pre ++ s.found ++ s.rest
  cut : cutAt? text fix = some (s.pre, s.rest)
  stretch : IsAttribute s.pre s.found s.rest s.event s.value s.before s.behind
  owner : ∃ p, (placements text)[s.index]? = some p ∧ p.line = fix.line ∧
    ∃ h ∈ p.handlers, h.eventType = s.event
  single : ∀ t, (startTags s.cleared)[s.index]? = some t → t.attribute? s.event = none

/-- Around the tag that is cut, the page and the cleared page have the same start tags. -/
theorem Hits.around (hits : s.Hits text fix) (nonempty : s.event ≠ "") :
    ∃ first p last t lead trail, placements text = first ++ p :: last ∧
      p.line = fix.line ∧ (∃ h ∈ p.handlers, h.eventType = s.event) ∧
      startTags s.cleared = first.map (·.tag) ++ t :: last.map (·.tag) ∧
      t.attributes = lead ++ trail ∧
      p.tag.attributes = lead ++ (s.event, String.ofList s.value.reverse) :: trail ∧
      t.attribute? s.event = none := by
  obtain ⟨p, here, line, recorded⟩ := hits.owner
  have tags := placements_map_startTags text
  obtain ⟨-, full⟩ | ⟨t, t', later, edited, full, -, inserted⟩ :=
    startTags_of_isAttribute hits.stretch nonempty
  · -- The tag is never finished, so it has no placement.
    rw [hits.whole, full, ← hits.whole] at tags
    have short : (placements text).length = s.index := by
      simpa [index] using congrArg List.length tags
    rw [List.getElem?_eq_none (Nat.le_of_eq short)] at here
    cases here
  · rw [hits.whole, full, ← hits.whole] at tags
    obtain ⟨first, behind, split, before, mapped⟩ := List.map_eq_append_iff.mp tags
    obtain ⟨q, last, rfl, own, after⟩ := List.map_eq_cons_iff.mp mapped
    have place : s.index = first.length := by
      simpa [index] using (congrArg List.length before).symm
    have isOwner : q = p := by
      rw [split, place, List.getElem?_append_right (Nat.le_refl _), Nat.sub_self] at here
      exact Option.some.inj here
    subst isOwner
    have none : t.attribute? s.event = none := by
      refine hits.single t ?_
      rw [cleared, edited, index, ← List.length_reverse,
        List.getElem?_append_right (Nat.le_refl _), Nat.sub_self]
      rfl
    rw [← own] at inserted
    obtain ⟨lead, trail, attributes, added⟩ | ⟨other, member, same⟩ := inserted
    · refine ⟨first, q, last, t, lead, trail, split, line, recorded, ?_, attributes, added, none⟩
      rw [cleared, edited, before, after]
    · have differs := List.lookup_eq_none_iff.mp none other member
      simp [same] at differs

/-- Where a fix hits, the records of the cleared page are those of the page without one record,
which is on the line of the fix and for its event. -/
theorem Hits.handlers (hits : s.Hits text fix) :
    ∃ earlier record later, (Elements.ofPage text).handlers = earlier ++ record :: later ∧
      record.line = fix.line ∧ record.eventType = s.event ∧
      (Elements.ofPage s.cleared).handlers.map EventHandler.content =
        (earlier ++ later).map EventHandler.content := by
  have known : s.event ∈ eventAttributes := by
    obtain ⟨p, -, -, h, member, own⟩ := hits.owner
    exact own ▸ (mem_records member).1
  have nonempty : s.event ≠ "" := by
    intro empty
    rw [empty] at known
    exact absurd known (by decide)
  obtain ⟨first, p, last, t, lead, trail, split, line, ⟨h, recorded, own⟩, cleared, attributes,
    full, none⟩ := hits.around nonempty
  obtain ⟨earlier, later, here, less⟩ :=
    records_of_inserted attributes full known none recorded own
  have handlers : p.handlers = earlier ++ h :: later := here
  refine ⟨first.flatMap Placement.handlers ++ earlier, h,
    later ++ last.flatMap Placement.handlers, ?_, (mem_records recorded).2.trans line, own, ?_⟩
  · rw [(Elements.records_ofPage text).1, split, List.flatMap_append, List.flatMap_cons, handlers]
    simp
  · rw [map_content_handlers, cleared, List.flatMap_append, List.flatMap_cons,
      ← map_content_flatMap, ← map_content_flatMap, ← t.map_content_records p.line, less]
    simp

end Site

end Edit

namespace Fix

/-- A safe removal of a broken handler that cuts out an attribute of the tag which it is about takes
the record of that handler from the page, and no other. -/
theorem handlers_ofPage_edit {config : Config} {text edited : List Char} {functions : Functions}
    {findings : Findings} {htmlPath : String} {target : StubTarget} {fix : Fix} {s : Edit.Site}
    (analysis : Check.analyze config (.ofPage text) functions = .ok findings)
    (derived : fix ∈ derive findings (.ofPage text) functions htmlPath target)
    (kind : fix.kind = .removeHandler) (safe : fix.safe = true)
    (success : fix.edit text = .ok edited) (hits : s.Hits text fix) :
    ∃ broken ∈ findings.brokenHandlers, fix = removeHandler (.ofPage text) htmlPath broken ∧
      ∃ earlier record later, (Elements.ofPage text).handlers = earlier ++ record :: later ∧
        Check.brokenHandler? functions record = some broken ∧
        (Elements.ofPage edited).handlers.map EventHandler.content =
          (earlier ++ later).map EventHandler.content := by
  obtain ⟨broken, reported, rfl⟩ := exists_broken_of_mem_derive kind derived
  refine ⟨broken, reported, rfl, ?_⟩
  obtain ⟨source, member, made, sourceLine, sourceEvent⟩ :=
    Check.exists_record_of_mem_brokenHandlers analysis reported
  obtain ⟨earlier, record, later, split, line, event, cleared⟩ := hits.handlers
  have named : broken.eventType = s.event := Option.some.inj hits.named
  have inside : record ∈ (Elements.ofPage text).handlers := by
    rw [split]
    exact List.mem_append_right _ List.mem_cons_self
  obtain rfl := eq_of_safe safe inside member line sourceLine (event.trans named.symm) sourceEvent
  have cut : edited = s.cleared :=
    Except.ok.inj (success.symm.trans (Edit.edit_eq_of_cutAt? rfl hits.cut))
  exact ⟨earlier, record, later, split, made, by rw [cut, cleared]⟩

/-- Two tags with the same handler. The second has an id, and a handler for another event too. -/
def pairSite : Edit.Site where
  pre := "<a onclick='f()'>\n<p id=i".toList
  found := " onclick=\"f()\"".toList
  rest := " onfocus=\"f()\">".toList
  event := "onclick"
  value := "f()".toList.reverse
  before := {
    cursor := { input := [], current := '=', line := 2 }
    draft := {
      mode := .value .none, tagInitial := 'p', attributeName := ['d', 'i'],
      attributeValue := ['i'], lastStartTag := some "a" }
    events := [⟨.startTag ⟨"a", [("onclick", "f()")]⟩, 1⟩] }
  behind := {
    cursor := { input := [], current := '"', line := 2 }
    draft := {
      mode := .afterValue, tagInitial := 'p', attributes := [("id", "i")],
      attributeName := "onclick".toList.reverse, attributeValue := "f()".toList.reverse,
      lastStartTag := some "a" }
    events := [⟨.startTag ⟨"a", [("onclick", "f()")]⟩, 1⟩] }

def pairPage : List Char := pairSite.pre ++ pairSite.found ++ pairSite.rest

def pairElements : Elements where
  ids := ["i"]
  idIndex := ["i"]
  firstSeen := [("i", 2)]
  handlers := [⟨none, "onclick", "f()", 1⟩, ⟨some "i", "onclick", "f()", 2⟩,
    ⟨some "i", "onfocus", "f()", 2⟩]
  lineCount := 2

def pairFix : Fix := removeHandler pairElements "index.html" ⟨some "i", "onclick", "f", 2⟩

def pairPlacement : Placement :=
  ⟨⟨"p", [("id", "i"), ("onclick", "f()"), ("onfocus", "f()")]⟩, 2, some 2, false⟩

def pairFindings : Findings where
  brokenHandlers := [⟨none, "onclick", "f", 1⟩, ⟨some "i", "onclick", "f", 2⟩,
    ⟨some "i", "onfocus", "f", 2⟩]

/-- The page as it is read, in front of the attribute, behind it and in all, and what is found on
it. -/
theorem read_pair :
    ((Machine.start pairSite.pre).advance 26 = some pairSite.before ∧
      (pairSite.before.feed pairSite.found).advance 14 = some pairSite.behind ∧
      pairSite.behind.draft = pairSite.before.draft.took pairSite.event.toList.reverse
        pairSite.value .afterValue) ∧
    Elements.ofPage pairPage = pairElements ∧
    ((placements pairPage)[pairSite.index]? = some pairPlacement ∧
      ⟨some "i", "onclick", "f()", 2⟩ ∈ pairPlacement.handlers) ∧
    (startTags pairSite.cleared)[pairSite.index]? =
      some ⟨"p", [("id", "i"), ("onfocus", "f()")]⟩ ∧
    Check.Registry.runAll {} (.ofConfig {} pairElements {}) = pairFindings ∧
    pairFix ∈ derive pairFindings pairElements {} "index.html" ⟨"stubs.js", 1⟩ ∧
    Edit.cutAt? pairPage pairFix = some (pairSite.pre, pairSite.rest) := by
  decide +kernel

theorem isAttribute_pair : IsAttribute pairSite.pre pairSite.found pairSite.rest pairSite.event
    pairSite.value pairSite.before pairSite.behind where
  reads := ⟨26, read_pair.1.1⟩
  ready := ⟨rfl, rfl, by decide⟩
  still := ⟨rfl, rfl, rfl⟩
  takes := ⟨14, read_pair.1.2.1⟩
  took := .inl read_pair.1.2.2
  still' := ⟨rfl, rfl, rfl⟩
  tags := rfl
  parts := ⟨⟨' ', _, rfl, rfl, by decide⟩, by decide⟩

theorem hits_pair : pairSite.Hits pairPage pairFix := by
  obtain ⟨-, -, ⟨owner, handler⟩, left, -, -, cut⟩ := read_pair
  exact
    { named := rfl
      whole := rfl
      cut := cut
      stretch := isAttribute_pair
      owner := ⟨pairPlacement, owner, rfl, _, handler, rfl⟩
      single := fun t here => by
        obtain rfl := Option.some.inj (left.symm.trans here)
        rfl }

theorem analyze_pair : Check.analyze {} (.ofPage pairPage) {} = .ok pairFindings := by
  obtain ⟨-, elements, -, -, findings, -⟩ := read_pair
  rw [elements]
  exact Check.analyze_eq_ok_iff.mpr ⟨rfl, rfl, findings⟩

theorem handlers_ofPage_edit_pair :
    pairSite.Hits pairPage pairFix ∧ ∃ broken ∈ pairFindings.brokenHandlers,
      pairFix = removeHandler (.ofPage pairPage) "index.html" broken ∧
      ∃ earlier record later, (Elements.ofPage pairPage).handlers = earlier ++ record :: later ∧
        Check.brokenHandler? {} record = some broken ∧
        (Elements.ofPage pairSite.cleared).handlers.map EventHandler.content =
          (earlier ++ later).map EventHandler.content := by
  have derived : pairFix ∈ derive pairFindings (.ofPage pairPage) {} "index.html"
      ⟨"stubs.js", 1⟩ := by
    obtain ⟨-, elements, -, -, -, derived, -⟩ := read_pair
    rwa [elements]
  exact ⟨hits_pair, handlers_ofPage_edit analyze_pair derived rfl rfl
    (Edit.edit_eq_of_cutAt? rfl hits_pair.cut) hits_pair⟩

def paragraphPage : List Char :=
  "<p> onclick=\"foo()\" </p><button id=\"b\" onclick=\"foo()\">x</button>\n".toList

def paragraphElements : Elements where
  ids := ["b"]
  idIndex := ["b"]
  firstSeen := [("b", 1)]
  handlers := [⟨some "b", "onclick", "foo()", 1⟩]
  interactive := [⟨some "b", "button", none, true, 1⟩]
  lineCount := 1

def paragraphFix : Fix :=
  removeHandler paragraphElements "index.html" ⟨some "b", "onclick", "foo", 1⟩

/-- The text behind what the fix cuts out of the paragraph. -/
def paragraphRest : List Char := " </p><button id=\"b\" onclick=\"foo()\">x</button>\n".toList

theorem read_paragraph :
    Elements.ofPage paragraphPage = paragraphElements ∧
    Check.Registry.runAll {} (.ofConfig {} paragraphElements {}) =
      { brokenHandlers := [⟨some "b", "onclick", "foo", 1⟩] } ∧
    paragraphFix ∈ derive { brokenHandlers := [⟨some "b", "onclick", "foo", 1⟩] }
      paragraphElements {} "index.html" ⟨"stubs.js", 1⟩ ∧
    Edit.cutAt? paragraphPage paragraphFix = some ("<p>".toList, paragraphRest) ∧
    (Elements.ofPage ("<p>".toList ++ paragraphRest)).handlers =
      [⟨some "b", "onclick", "foo()", 1⟩] := by
  decide +kernel

/-- Text of a paragraph is taken for the attribute that a safe fix is about, and the handler
stays. -/
theorem paragraph_cut_keeps_handler : ∃ findings fix edited,
    Check.analyze {} (.ofPage paragraphPage) {} = .ok findings ∧
      fix ∈ derive findings (.ofPage paragraphPage) {} "index.html" ⟨"stubs.js", 1⟩ ∧
      fix.kind = .removeHandler ∧ fix.safe = true ∧ fix.edit paragraphPage = .ok edited ∧
      (Elements.ofPage paragraphPage).handlers = [⟨some "b", "onclick", "foo()", 1⟩] ∧
      (Elements.ofPage edited).handlers = (Elements.ofPage paragraphPage).handlers := by
  obtain ⟨elements, findings, derived, cut, kept⟩ := read_paragraph
  rw [elements]
  exact ⟨_, paragraphFix, _, Check.analyze_eq_ok_iff.mpr ⟨rfl, rfl, findings⟩, derived, rfl, rfl,
    Edit.edit_eq_of_cutAt? rfl cut, rfl, kept⟩

end Fix

end PageWiring
