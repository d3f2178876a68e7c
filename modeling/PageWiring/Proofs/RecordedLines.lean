import PageWiring.Proofs.LocatorSteps

/-!
The lines on which start tags are recorded.

A tag is meant to be recorded on the line of its `<`. It is, exactly when the locator sights a tag
of its name first on that line, or first behind it or nowhere and the tag was read to its end on
that line. As long as all marks are clear, the locator sights every tag where it stands. It goes by
the spelling alone, so a tag in an attribute value is taken for one of the page.
-/
namespace PageWiring

namespace Markup

def EventKind.isStartTag : EventKind → Bool
  | .startTag _ => true
  | _ => false

namespace Collection

theorem locator_event_eq (c : Collection) (e : Event) :
    (c.event e).locator = c.locator.follow e := by
  unfold event Locator.follow
  cases kind : e.kind with
  | startTag t => simp [startTag, recordTag, Locator.startTag, EventKind.opening]
  | endTag name => rfl
  | comment => rfl
  | fault cause => rfl

theorem locator_foldl_eq (c : Collection) (es : List Event) :
    (es.foldl event c).locator = es.foldl Locator.follow c.locator := by
  induction es generalizing c with
  | nil => rfl
  | cons e es ih => rw [List.foldl_cons, ih, locator_event_eq, List.foldl_cons]

theorem placements_append (c : Collection) (es more : List Event) :
    c.placements (es ++ more) = c.placements es ++ (es.foldl event c).placements more := by
  induction es generalizing c with
  | nil => rfl
  | cons e es ih => simp [placements, ih]

theorem length_placements (c : Collection) (es : List Event) :
    (c.placements es).length = es.countP (·.kind.isStartTag) := by
  induction es generalizing c with
  | nil => rfl
  | cons e es ih =>
    rw [placements, List.length_append, ih, List.countP_cons, Nat.add_comm]
    unfold placed
    cases e.kind <;> simp [EventKind.isStartTag]

end Collection

/-! ### Marks and placements -/

/-- The locator after all marks of a list. -/
def Locator.after (text : List Char) (marks : List Mark) : Locator :=
  marks.foldl (fun l mark => l.follow mark.event) (.ofText text)

/-- Mistakes are nothing to the locator. -/
theorem Locator.foldl_follow_filter (l : Locator) (es : List Event) :
    (es.filter (·.kind.isMark)).foldl Locator.follow l = es.foldl Locator.follow l := by
  induction es generalizing l with
  | nil => rfl
  | cons e es ih =>
    rw [List.filter_cons, List.foldl_cons]
    split
    · rw [List.foldl_cons, ih]
    · next isFault =>
      have stays : l.follow e = l := by
        unfold Locator.follow
        cases kind : e.kind <;> simp_all [EventKind.isMark]
      rw [ih, stays]

theorem isMark_of_mem_marks {text : List Char} {mark : Mark} (member : mark ∈ marks text) :
    mark.event.kind.isMark = true := by
  have inside : mark.event ∈ (marks text).map (·.event) := List.mem_map_of_mem member
  rw [marks_map_event] at inside
  exact (List.mem_filter.mp inside).2

variable {text : List Char} {earlier later : List Mark} {mark : Mark} {tag : Tag}

/-- The events around a mark. -/
theorem exists_events_split (found : marks text = earlier ++ mark :: later) :
    ∃ es more, events text = es ++ mark.event :: more ∧
      es.filter (·.kind.isMark) = earlier.map (·.event) := by
  have filtered := marks_map_event text
  rw [found, List.map_append, List.map_cons] at filtered
  obtain ⟨lead, rest, whole, before, behind⟩ := List.filter_eq_append_iff.mp filtered.symm
  obtain ⟨faults, more, rfl, skipped, -, -⟩ := List.filter_eq_cons_iff.mp behind
  refine ⟨lead ++ faults, more, by rw [whole, List.append_assoc], ?_⟩
  rw [List.filter_append, before, List.filter_eq_nil_iff.mpr skipped, List.append_nil]

theorem countP_filter_isMark (es : List Event) :
    (es.filter (·.kind.isMark)).countP (·.kind.isStartTag) = es.countP (·.kind.isStartTag) := by
  rw [List.countP_filter]
  refine List.countP_congr fun e _ => ?_
  cases e.kind <;> simp [EventKind.isStartTag, EventKind.isMark]

theorem length_placements_eq (text : List Char) :
    (placements text).length = (marks text).countP (·.event.kind.isStartTag) := by
  have onMarks := congrArg (List.countP (·.kind.isStartTag)) (marks_map_event text)
  rw [countP_filter_isMark, List.countP_map] at onMarks
  rw [placements, Collection.length_placements, ← onMarks]
  rfl

/-- Where a start tag is placed, counted among the start tags. -/
theorem exists_placement (found : marks text = earlier ++ mark :: later)
    (starts : mark.event.kind = .startTag tag) :
    ∃ p, (placements text)[earlier.countP (·.event.kind.isStartTag)]? = some p ∧ p.tag = tag ∧
      p.read = mark.event.line ∧ p.found =
        ((Locator.after text earlier).followTag ('<' :: tag.name.toList) mark.event.line).1 := by
  obtain ⟨es, more, whole, before⟩ := exists_events_split found
  have count : es.countP (·.kind.isStartTag) =
      earlier.countP (·.event.kind.isStartTag) := by
    rw [← countP_filter_isMark, before, List.countP_map]
    rfl
  let c : Collection := es.foldl Collection.event ⟨.ofText text, {}, [], []⟩
  have locator : c.locator = Locator.after text earlier := by
    rw [Collection.locator_foldl_eq, ← Locator.foldl_follow_filter, before, List.foldl_map]
    rfl
  refine ⟨⟨tag, mark.event.line, _, !c.openForms.isEmpty⟩, ?_, rfl, rfl, rfl⟩
  rw [placements, whole, Collection.placements_append, ← count,
    ← Collection.length_placements ⟨.ofText text, {}, [], []⟩, List.getElem?_append_right
      (Nat.le_refl _), Nat.sub_self, Collection.placements, Collection.placed, starts, ← locator]
  rfl

/-! ### What the locator sights -/

/-- The line of the first text ahead that begins like a tag of this name. -/
def Locator.sight (l : Locator) (name : String) : Option Nat :=
  (findTag ('<' :: name.toList) l.cursor l.rest).map l.lineAt

theorem Locator.followTag_fst_eq (l : Locator) (name : String) (line : Nat) :
    (l.followTag ('<' :: name.toList) line).1 = (l.sight name).filter (· ≤ line) := by
  unfold followTag sight
  cases findTag ('<' :: name.toList) l.cursor l.rest with
  | none => rfl
  | some position =>
    dsimp only [Option.map_some]
    split
    · next late => rw [Option.filter_some_neg (by simpa using late)]
    · next early => rw [Option.filter_some_pos (by simpa using early)]

/-- A tag that was read on `read` and stands on `own` is recorded there. -/
theorem getD_filter_eq_iff {own read : Nat} (early : own ≤ read) (sight : Option Nat) :
    (sight.filter (· ≤ read)).getD read = own ↔
      sight = some own ∨ read = own ∧ ∀ line ∈ sight, own < line := by
  cases sight with
  | none => simp
  | some line =>
    by_cases soon : line ≤ read
    · rw [Option.filter_some_pos (by simpa using soon)]
      simp only [Option.getD_some, Option.some.injEq, Option.mem_def, forall_eq']
      omega
    · rw [Option.filter_some_neg (by simpa using soon)]
      simp only [Option.getD_none, Option.some.injEq, Option.mem_def, forall_eq']
      omega

/-- As long as all marks are clear, a start tag is found on the line of its `<`. -/
theorem followTag_of_allClear (found : marks text = earlier ++ mark :: later)
    (starts : mark.event.kind = .startTag tag) (clear : AllClear text [] (earlier ++ [mark])) :
    ((Locator.after text earlier).followTag ('<' :: tag.name.toList) mark.event.line).1 =
      some mark.line := by
  obtain ⟨clearBefore, clearHere⟩ := allClear_append.mp clear
  have member : ∀ m ∈ earlier ++ mark :: later, m ∈ marks text := by simp [found]
  have fits : ∀ m ∈ earlier, m.Fits text := fun m inside =>
    fits_of_mem_marks (member m (List.mem_append_left _ inside))
  have isMark : ∀ m ∈ earlier, m.event.kind.isMark = true := fun m inside =>
    isMark_of_mem_marks (member m (List.mem_append_left _ inside))
  have ordered : (earlier ++ [mark]).IsChain fun a b => a.upTo <+: b.before := by
    have whole := isChain_marks text
    rw [found] at whole
    exact (List.isChain_split.mp whole).1
  have inStep : (Locator.after text earlier).InStep text (reach [] earlier) :=
    Locator.InStep.foldl ⟨Locator.holds_ofText text, rfl⟩ fits isMark
      ordered.left_of_append (fun _ _ => List.nil_prefix) clearBefore
  have here := inStep.followTag (fits_of_mem_marks (member mark (by simp)))
    (by rw [starts]; rfl) (reach_isPrefix ordered fun _ _ => List.nil_prefix) clearHere
  rw [starts] at here
  exact congrArg (·.1) here

end Markup

open Markup

/-- All records of start tags, each on the line where its tag is placed. -/
structure Elements.RecordsOf (e : Elements) (ps : List Placement) : Prop where
  ids : e.idRecords = (addIds {} (ps.flatMap Placement.ids)).idRecords
  handlers : e.handlers = ps.flatMap Placement.handlers
  interactive : e.interactive = ps.flatMap Placement.interactive
  forms : e.forms.map (fun f => (f.elementId, f.line)) = ps.flatMap Placement.forms

theorem Elements.recordsOf_placements (text : List Char) :
    (Elements.ofPage text).RecordsOf (placements text) := by
  obtain ⟨handlers, interactive, -⟩ := records_ofPage text
  obtain ⟨ids, forms⟩ := idsAndForms_ofPage text
  exact ⟨ids, handlers, interactive, forms⟩

/-- Every start tag of a page is recorded on one line, and when this is the line of its `<`. -/
theorem Elements.recorded_line_iff {text : List Char} {earlier later : List Mark} {mark : Mark}
    {tag : Tag} (found : marks text = earlier ++ mark :: later)
    (starts : mark.event.kind = .startTag tag) :
    mark.Fits text ∧ (Elements.ofPage text).RecordsOf (placements text) ∧
      (placements text).length = (marks text).countP (·.event.kind.isStartTag) ∧
      ∃ p, (placements text)[earlier.countP (·.event.kind.isStartTag)]? = some p ∧ p.tag = tag ∧
        (p.line = mark.line ↔
          (Locator.after text earlier).sight tag.name = some mark.line ∨
            mark.event.line = mark.line ∧
              ∀ line ∈ (Locator.after text earlier).sight tag.name, mark.line < line) ∧
        (AllClear text [] (earlier ++ [mark]) → p.line = mark.line) := by
  obtain ⟨p, placed, tag', read, located⟩ := exists_placement found starts
  have line : p.line = (((Locator.after text earlier).sight tag.name).filter
      (· ≤ mark.event.line)).getD mark.event.line := by
    rw [Placement.line, located, read, Locator.followTag_fst_eq]
  have fits : mark.Fits text := fits_of_mem_marks (by simp [found])
  refine ⟨fits, recordsOf_placements text, length_placements_eq text, p, placed, tag', ?_,
    fun clear => ?_⟩
  · rw [line]
    exact getD_filter_eq_iff (Locator.line_le_of_fits fits) _
  · rw [Placement.line, located, followTag_of_allClear found starts clear]
    rfl

/-- A page with a tag in a comment, a `<` in a value and in a script, and a tag over two lines. -/
def clearPage : List Char :=
  "<!-- <a> -->\n<p title=\"a<b\">\r\n<script>if (a<b) {}</script><a\nid=x>".toList

/-- The last tag of that page. -/
def lastTag : Mark :=
  ⟨⟨.startTag ⟨"a", [("id", "x")]⟩, 4⟩, clearPage.take 58, clearPage⟩

theorem Elements.recorded_line_iff_clearPage :
    marks clearPage = (marks clearPage).take 4 ++ lastTag :: [] ∧
      AllClear clearPage [] ((marks clearPage).take 4 ++ [lastTag]) ∧
      ∃ p, (placements clearPage)[2]? = some p ∧ p.line = 3 := by
  have split : marks clearPage = (marks clearPage).take 4 ++ lastTag :: [] := by decide +kernel
  have clear : AllClear clearPage [] ((marks clearPage).take 4 ++ [lastTag]) := by decide +kernel
  have index : ((marks clearPage).take 4).countP (·.event.kind.isStartTag) = 2 := by decide +kernel
  have third : lastTag.line = 3 := by decide +kernel
  obtain ⟨-, -, -, p, placed, -, -, line⟩ := recorded_line_iff split rfl
  exact ⟨split, clear, p, index ▸ placed, (line clear).trans third⟩

/-- A button in the title of a paragraph, and one on the next line. -/
def quotedButton : List Char :=
  "<p title=\"<button>\">\n<button id=\"b\" onclick=\"f()\">x</button>\n".toList

/-- The button on the second line is recorded on the first one. -/
theorem Elements.quotedButton_line :
    (marks quotedButton).map (fun mark => (mark.event.kind.isStartTag, mark.line)) =
        [(true, 1), (true, 2), (false, 2)] ∧
      (Elements.ofPage quotedButton).firstSeen = [("b", 1)] ∧
      (Elements.ofPage quotedButton).handlers.map (·.line) = [1] ∧
      (Elements.ofPage quotedButton).interactive.map (·.line) = [1] := by
  decide +kernel

end PageWiring
