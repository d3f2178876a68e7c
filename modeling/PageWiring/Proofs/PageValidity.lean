import PageWiring.Proofs.Analysis
import PageWiring.Proofs.PageRecords
import PageWiring.Proofs.Runs

/-!
The conditions on a page, for pages that were read from a text.

A record of a page has a name and a line, and where the locator found its tag that line lies in the
page. Where it did not, the line is the one that the reading counted; carriage returns and
characters that are read twice can carry that count beyond the last line. These are the only pages
that are refused.
-/
namespace PageWiring.Markup

theorem Draft.mem_tags {d : Draft} {t : Tag} : t ∈ d.tags ↔ .startTag t ∈ d.emitted := by
  simp only [tags, List.mem_filterMap]
  constructor
  · rintro ⟨kind, member, isTag⟩
    cases kind <;> simp [EventKind.tag?] at isTag
    exact isTag ▸ member
  · intro member
    exact ⟨_, member, rfl⟩

namespace Machine

variable {m : Machine} {cursor : Cursor} {d : Draft} {events : List Event}

/-- What holds of the events so far and of those that a step adds holds of all of them. -/
theorem forall_events_settle {P : Event → Prop} (old : ∀ e ∈ events, P e)
    (added : ∀ kind ∈ d.emitted, P ⟨kind, cursor.line⟩) :
    ∀ e ∈ (settle events cursor d).events, P e := by
  intro e member
  rcases List.mem_append.mp member with new | before
  · obtain ⟨kind, emitted, rfl⟩ := List.mem_map.mp new
    exact added kind emitted
  · exact old e before

/-! ### Every event has a line, and every tag a name -/

/-- Lines are counted from one, and no start tag is without a name. -/
structure Numbered (m : Machine) : Prop where
  sound : m.Sound
  line : 1 ≤ m.cursor.line
  events : ∀ e ∈ m.events, 1 ≤ e.line ∧ ∀ t, e.kind = .startTag t → t.name ≠ ""

theorem tagName_ne_empty (d : Draft) : d.tagName ≠ "" := by
  intro empty
  have := congrArg String.toList empty
  simp [Draft.tagName] at this

theorem Numbered.settle (numbered : m.Numbered) (sound : (settle m.events cursor d).Sound)
    (later : m.cursor.line ≤ cursor.line) (named : ∀ t ∈ d.tags, t.name ≠ "") :
    (settle m.events cursor d).Numbered where
  sound := sound
  line := Nat.le_trans numbered.line later
  events := by
    refine forall_events_settle numbered.events fun kind emitted => ?_
    refine ⟨Nat.le_trans numbered.line later, ?_⟩
    rintro t rfl
    exact named t (Draft.mem_tags.mpr emitted)

theorem Numbered.moves (numbered : m.Numbered) (moves : m.Moves cursor d) :
    (Machine.settle m.events cursor d).Numbered := by
  refine numbered.settle (moves.progress numbered.sound).sound moves.line_le fun t member => ?_
  obtain none | ⟨attributes, one, -⟩ := moves.tags numbered.sound
  · rw [none] at member
    cases member
  · rw [one, List.mem_singleton] at member
    exact member ▸ tagName_ne_empty m.draft

theorem Numbered.stops {m' : Machine} (numbered : m.Numbered) (stops : m.Stops m') :
    m'.Numbered where
  sound := stops.sound numbered.sound
  line := Nat.le_trans numbered.line stops.line
  events := stops.events ▸ numbered.events

theorem Numbered.atEnd {f : Draft → Draft} (numbered : m.Numbered) (isEnd : IsEndStep f) :
    (m.atEnd f).Numbered := by
  obtain ⟨sound, tags⟩ := sound_atEnd numbered.sound isEnd
  refine numbered.settle sound (Nat.le_refl _) fun t member => ?_
  rw [tags] at member
  cases member

end Machine

theorem numbered_events (text : List Char) :
    ∀ e ∈ events text, 1 ≤ e.line ∧ ∀ t, e.kind = .startTag t → t.name ≠ "" := by
  have start : (Machine.start text).Numbered :=
    ⟨Machine.sound_start text, Nat.le_refl 1, fun _ member => by cases member⟩
  obtain ⟨m, whole, read⟩ := Machine.exists_events_eq Machine.Numbered.moves
    Machine.Numbered.stops Machine.Numbered.atEnd start
  intro e member
  rw [read] at member
  exact whole.events e (List.mem_reverse.mp member)

/-! ### Texts without carriage returns and references -/

/-- The cursor stands behind `passed`, and has counted the line feeds in it. -/
structure Cursor.Behind (text passed : List Char) (s : Cursor) : Prop where
  text : text = passed ++ s.input
  line : s.line = 1 + passed.count '\n'
  settled : s.afterReturn = false
  last : s.again = true → passed.getLast? = some s.current

namespace Cursor.Behind

variable {text passed : List Char} {s cursor : Cursor} {c : Char}

theorem next (behind : s.Behind text passed) (noReturn : '\r' ∉ text)
    (read : s.next = (some c, cursor)) :
    ∃ passed', cursor.Behind text passed' ∧ passed'.getLast? = some c ∧ cursor.current = c := by
  obtain ⟨again, rfl, rfl⟩ | ⟨fresh, raw, rest, taken, input | ⟨returned, -⟩⟩ := next_eq_some read
  · exact ⟨passed, ⟨behind.text, behind.line, behind.settled, nofun⟩, behind.last again, rfl⟩
  · have plain : raw ≠ '\r' := by
      rintro rfl
      exact noReturn (by simp [behind.text, input])
    obtain ⟨shown, rfl⟩ := Prod.mk.inj taken
    obtain rfl : raw = c := by simpa [plain] using shown
    refine ⟨passed ++ [raw], ⟨by simp [behind.text, input], ?_, by simpa using plain, ?_⟩,
      by simp, by simp [plain]⟩
    · by_cases isBreak : raw = '\n'
      · simp [isBreak, behind.line, List.count_append]
        omega
      · simp [isBreak, plain, behind.line, List.count_append, List.count_cons_of_ne]
    · intro again
      simp [fresh] at again
  · simp [behind.settled] at returned

theorem mem (behind : s.Behind text passed) (last : passed.getLast? = some c) : c ∈ text := by
  rw [behind.text]
  exact List.mem_append_left _ (List.mem_of_getLast? last)

/-- Behind a character that ends no line, the cursor has counted a line of the text. -/
theorem line_le_lineCount (behind : s.Behind text passed) (last : passed.getLast? = some c)
    (plain : c ≠ '\n') : s.line ≤ Text.lineCount text := by
  obtain ⟨before, rfl⟩ := List.getLast?_eq_some_iff.mp last
  have bound := Text.line_le_lineCount before s.input plain
  rw [behind.line, behind.text]
  simpa [List.count_append, List.count_cons_of_ne plain] using bound

theorem peek (behind : s.Behind text passed) (noReturn : '\r' ∉ text) (seen : s.peek = some c) :
    s.next = (some c, s.discard) := by
  have read := next_of_peek seen (.inl behind.settled)
  split at read
  · next isReturn =>
    refine absurd ?_ noReturn
    have raw : s.input.head? = some '\r' := by simpa [Cursor.peek, isReturn] using seen
    rw [behind.text]
    exact List.mem_append_right _ (List.mem_of_mem_head? raw)
  · exact read

theorem eatWord {word : List Char} (behind : s.Behind text passed) (plain : '\n' ∉ word)
    (read : s.eatWord word = some cursor) : ∃ passed', cursor.Behind text passed' := by
  unfold Cursor.eatWord at read
  rw [forgetReturn_eq_self behind.settled] at read
  dsimp only at read
  split at read
  · next comes =>
    obtain rfl := Option.some.inj read
    refine ⟨passed ++ s.input.take word.length, ⟨?_, ?_, behind.settled, nofun⟩⟩
    · rw [behind.text, List.append_assoc, List.take_append_drop]
    · -- The text that was passed over is the word, and there is no line feed in a word.
      have same : word = Text.asciiLower (s.input.take word.length) := by
        refine (List.isPrefixOf_iff_prefix.mp comes).eq_of_length_le ?_
        simp only [Text.asciiLower, List.length_map, List.length_take]
        omega
      have none : (s.input.take word.length).count '\n' = 0 := by
        rw [← Text.count_break_asciiLower, ← same]
        exact List.count_eq_zero.mpr plain
      rw [List.count_append, none]
      exact behind.line
  · cases read

end Cursor.Behind

namespace Machine

variable {m : Machine} {cursor : Cursor} {d : Draft} {text : List Char}

/-- A reading of a text without carriage returns and references, on its way. -/
structure Follows (text : List Char) (m : Machine) : Prop where
  sound : m.Sound
  closed : m.draft.reference = none
  cursor : ∃ passed, m.cursor.Behind text passed
  events : ∀ e ∈ m.events, ∀ t, e.kind = .startTag t → e.line ≤ Text.lineCount text

/-- A reading that goes on behind `cursor`, and reads no character again but the last one. -/
theorem Follows.settle (follows : m.Follows text) (sound : (settle m.events cursor d).Sound)
    (requests : d.unread = [] ∧ d.reference = none) {passed : List Char}
    (behind : cursor.Behind text passed)
    (last : d.again = true → passed.getLast? = some cursor.current)
    (counted : ∀ t ∈ d.tags, cursor.line ≤ Text.lineCount text) :
    (settle m.events cursor d).Follows text where
  sound := sound
  closed := requests.2
  cursor := by
    refine ⟨passed, ?_, behind.line, behind.settled, ?_⟩
    · simpa [Machine.settle, requests.1] using behind.text
    · intro again
      rcases Bool.or_eq_true_iff.mp again with old | new
      · exact behind.last old
      · exact last new
  events := by
    refine forall_events_settle follows.events fun kind emitted => ?_
    rintro t rfl
    exact counted t (Draft.mem_tags.mpr emitted)

theorem Follows.moves (noReturn : '\r' ∉ text) (noReference : '&' ∉ text)
    (follows : m.Follows text) (moves : m.Moves cursor d) :
    (Machine.settle m.events cursor d).Follows text := by
  obtain ⟨passed, behind⟩ := follows.cursor
  have sound := (moves.progress follows.sound).sound
  have counted : ∀ t ∈ d.tags, cursor.line ≤ Text.lineCount text := by
    intro t member
    obtain none | ⟨-, -, read⟩ := moves.tags follows.sound
    · rw [none] at member
      cases member
    · obtain ⟨passed', behind', last, -⟩ := behind.next noReturn read
      exact behind'.line_le_lineCount last (by decide)
  have onQuiet {passed' : List Char} (behind' : cursor.Behind text passed')
      (same : d.requests = m.draft.requests) : (Machine.settle m.events cursor d).Follows text := by
    obtain ⟨again, requests⟩ : d.again = false ∧ d.unread = [] ∧ d.reference = none := by
      simpa [Draft.requests, follows.sound.again, follows.sound.unread, follows.closed] using same
    exact follows.settle sound requests behind' (by simp [again]) counted
  have onReaction {c : Char} (read : m.cursor.next = (some c, cursor))
      (reaction : m.draft.Reaction c d) : (Machine.settle m.events cursor d).Follows text := by
    obtain ⟨passed', behind', last, current⟩ := behind.next noReturn read
    cases reaction with
    | quiet same tags => exact onQuiet behind' same
    | tag closing same tags => exact onQuiet behind' same
    | retry again tags less =>
      have requests : d.unread = [] ∧ d.reference = none := by
        simpa [Draft.requests, follows.sound.unread, follows.closed] using (Prod.mk.inj again).2
      exact follows.settle sound requests behind' (fun _ => current ▸ last) counted
    | reference around ampersand calm =>
      exact absurd (ampersand ▸ behind'.mem last) noReference
  cases moves with
  | next taken read =>
    obtain ⟨-, taken⟩ | ⟨r, opened, -⟩ := Draft.intake_cases taken
    · exact onReaction read (Draft.reaction_next taken _)
    · simp [follows.closed] at opened
  | special taken read =>
    obtain ⟨-, taken⟩ | ⟨r, opened, -⟩ := Draft.intake_cases taken
    · exact onReaction read (Draft.reaction_text taken _).1
    · simp [follows.closed] at opened
  | @plain isSpecial plain special c rest taken settled input ordinary =>
    obtain ⟨-, taken⟩ | ⟨r, opened, -⟩ := Draft.intake_cases taken
    · obtain ⟨-, same, -, -, isBreak, -⟩ := Draft.reaction_text taken c
      have inLine : c ≠ '\n' := by
        rintro rfl
        simp [isBreak] at ordinary
      have behind' : Cursor.Behind text (passed ++ [c]) { m.cursor with input := rest } := by
        refine ⟨?_, ?_, behind.settled, ?_⟩
        · simp [behind.text, input]
        · simp [behind.line, List.count_append, List.count_cons_of_ne inLine]
        · simp [settled.1]
      exact onQuiet behind' same
    · simp [follows.closed] at opened
  | @peek f c taken seen =>
    obtain ⟨-, taken⟩ | ⟨r, opened, -⟩ := Draft.intake_cases taken
    · obtain ⟨passed', behind', -⟩ := behind.next noReturn (behind.peek noReturn seen)
      have same := (Draft.reaction_peek taken c).1
      by_cases used : (f m.draft c).2 = true
      · exact onQuiet (by rw [if_pos used]; exact behind') same
      · exact onQuiet (by rw [if_neg used]; exact behind) same
    · simp [follows.closed] at opened
  | word closed read listed =>
    obtain ⟨passed', behind'⟩ := behind.eatWord ((words_plain _ listed).2 '\n' (by decide)) read
    exact onQuiet behind' rfl
  | declaration taken => exact onQuiet behind rfl
  | @doctype c cursor taken read =>
    rw [Cursor.forgetReturn_eq_self behind.settled] at read
    obtain ⟨passed', behind', -⟩ := behind.next noReturn read
    exact onQuiet behind' (m.draft.afterDoctypeNameStep_effects c).1

theorem Follows.stops {m' : Machine} (follows : m.Follows text) (stops : m.Stops m') :
    m'.Follows text := by
  obtain ⟨passed, behind⟩ := follows.cursor
  exact stops.settled behind.settled ▸ follows

theorem Follows.atEnd {f : Draft → Draft} (follows : m.Follows text) (isEnd : IsEndStep f) :
    (m.atEnd f).Follows text := by
  obtain ⟨passed, behind⟩ := follows.cursor
  have same : (f m.draft).requests = m.draft.requests := by
    rcases isEnd with rfl | rfl
    · obtain ⟨-, same⟩ | ⟨r, opened, -⟩ := m.draft.endReference_cases
      · rw [same]
      · simp [follows.closed] at opened
    · exact m.draft.endStep_effects.1
  obtain ⟨again, requests⟩ :
      (f m.draft).again = false ∧ (f m.draft).unread = [] ∧ (f m.draft).reference = none := by
    simpa [Draft.requests, follows.sound.again, follows.sound.unread, follows.closed] using same
  obtain ⟨sound, tags⟩ := sound_atEnd follows.sound isEnd
  refine follows.settle sound requests behind (by simp [again]) fun t member => ?_
  rw [tags] at member
  cases member

end Machine

/-- Without carriage returns and references, tags are read to their end on lines of the text. -/
theorem line_le_lineCount_of_plain {text : List Char} (noReturn : '\r' ∉ text)
    (noReference : '&' ∉ text) :
    ∀ e ∈ events text, ∀ t, e.kind = .startTag t → e.line ≤ Text.lineCount text := by
  have start : (Machine.start text).Follows text := by
    refine ⟨Machine.sound_start text, rfl, ?_, fun _ member => by cases member⟩
    unfold Machine.start Text.withoutMark
    split
    · exact ⟨['\ufeff'], rfl, rfl, rfl, nofun⟩
    · exact ⟨[], rfl, rfl, rfl, nofun⟩
  obtain ⟨m, whole, read⟩ := Machine.exists_events_eq (Machine.Follows.moves noReturn noReference)
    Machine.Follows.stops Machine.Follows.atEnd start
  intro e member
  rw [read] at member
  exact whole.events e (List.mem_reverse.mp member)

/-! ### The conditions on a page -/

namespace Placement

/-- Does this tag leave a record whose line is looked at? -/
def IsRecorded (p : Placement) : Prop := p.handlers ≠ [] ∨ p.interactive ≠ []

/-- A tag that the locator has lost, and whose reading ended beyond the last line. -/
def IsAdrift (p : Placement) (lineCount : Nat) : Prop := p.found = none ∧ lineCount < p.read

/-- A check of a record of this tag fails just when the tag is adrift, and for no other reason. -/
def Decides (p : Placement) (lineCount : Nat) (result : Except ArgumentError Unit) : Prop :=
  (p.IsAdrift lineCount ∧ ∃ what, result = .error (.lineOutsideDocument what p.read lineCount)) ∨
    (¬ p.IsAdrift lineCount ∧ result = .ok ())

theorem Decides.eq_ok_iff {p : Placement} {lineCount : Nat} {result : Except ArgumentError Unit}
    (decides : p.Decides lineCount result) : result = .ok () ↔ ¬ p.IsAdrift lineCount := by
  rcases decides with ⟨adrift, what, rfl⟩ | ⟨safe, rfl⟩
  · simp [adrift]
  · simp [safe]

end Placement

theorem mem_placements {text : List Char} {p : Placement} (member : p ∈ placements text) :
    (∃ e ∈ events text, e.kind = .startTag p.tag ∧ e.line = p.read) ∧
      ∀ start, p.found = some start → 1 ≤ start ∧ start ≤ Text.lineCount text := by
  constructor
  · have read := List.mem_map_of_mem (f := fun p => (p.tag, p.read)) member
    rw [placements, Collection.placements_map_tag, List.mem_filterMap] at read
    obtain ⟨e, inside, same⟩ := read
    refine ⟨e, inside, ?_⟩
    split at same
    · next t kind => simp_all
    · cases same
  · intro start found
    obtain ⟨positive, -, inside⟩ :=
      Collection.found_le_lineCount (Locator.holds_ofText text) member found
    exact ⟨positive, inside⟩

/-- The name of an event is not blank. -/
theorem trim_eventAttributes :
    ∀ event ∈ eventAttributes, (Text.trim event.toList).isEmpty = false := by
  decide +kernel

end Markup

open Markup

namespace Elements

theorem validate_eq_ok_iff {e : Elements} :
    e.validate = .ok () ↔ (∀ h ∈ e.handlers, checkHandler e.lineCount h = .ok ()) ∧
      ∀ i ∈ e.interactive, checkInteractive e.lineCount i = .ok () := by
  rw [← forM_eq_ok_iff, ← forM_eq_ok_iff, validate]
  cases e.handlers.forM (checkHandler e.lineCount) with
  | error cause => simp [bind, Except.bind]
  | ok _ => simp [bind, Except.bind]

theorem exists_of_validate_eq_error {e : Elements} {cause : ArgumentError}
    (failed : e.validate = .error cause) :
    (∃ h ∈ e.handlers, checkHandler e.lineCount h = .error cause) ∨
      ∃ i ∈ e.interactive, checkInteractive e.lineCount i = .error cause := by
  unfold validate at failed
  cases checked : e.handlers.forM (checkHandler e.lineCount) with
  | error first =>
    obtain rfl : first = cause := by simpa [checked, bind, Except.bind] using failed
    exact .inl (exists_of_forM_eq_error checked)
  | ok _ =>
    exact .inr (exists_of_forM_eq_error (by simpa [checked, bind, Except.bind] using failed))

theorem decides_checkLine {text : List Char} {p : Placement} (member : p ∈ placements text)
    (what : String) :
    p.Decides (Text.lineCount text) (checkLine (Text.lineCount text) what p.line) := by
  obtain ⟨⟨e, inside, -, read⟩, found⟩ := mem_placements member
  have positive := (numbered_events text e inside).1
  have nonempty : 0 < Text.lineCount text := by
    apply Text.lineCount_pos
    rintro rfl
    cases member
  unfold checkLine Placement.line
  cases located : p.found with
  | some start =>
    obtain ⟨first, last⟩ := found start located
    refine .inr ⟨by simp [Placement.IsAdrift, located], if_neg ?_⟩
    simp only [Option.getD_some]
    omega
  | none =>
    simp only [Option.getD_none]
    by_cases beyond : Text.lineCount text < p.read
    · exact .inl ⟨⟨located, beyond⟩, what, if_pos (.inr ⟨nonempty, beyond⟩)⟩
    · exact .inr ⟨fun adrift => beyond adrift.2, if_neg (by omega)⟩

theorem decides_checkHandler {text : List Char} {p : Placement} (member : p ∈ placements text)
    {h : EventHandler} (recorded : h ∈ p.handlers) :
    p.Decides (Text.lineCount text) (checkHandler (Text.lineCount text) h) := by
  obtain ⟨event, line⟩ := mem_records recorded
  have decides := decides_checkLine member "event handler"
  simpa [checkHandler, trim_eventAttributes _ event, line] using decides

theorem decides_checkInteractive {text : List Char} {p : Placement}
    (member : p ∈ placements text) {i : InteractiveElement} (recorded : i ∈ p.interactive) :
    p.Decides (Text.lineCount text) (checkInteractive (Text.lineCount text) i) := by
  obtain ⟨⟨e, inside, kind, -⟩, -⟩ := mem_placements member
  have named := (numbered_events text e inside).2 _ kind
  have decides := decides_checkLine member "interactive element"
  unfold Placement.interactive at recorded
  split at recorded
  · obtain rfl := List.mem_singleton.mp recorded
    simpa [checkInteractive, named] using decides
  · cases recorded

/-- The records of one kind pass their check exactly when none of their tags is adrift. -/
theorem forall_check_iff {α : Type} {text : List Char} {records : Placement → List α}
    {check : α → Except ArgumentError Unit} (decides : ∀ p ∈ placements text, ∀ a ∈ records p,
      p.Decides (Text.lineCount text) (check a)) :
    (∀ a ∈ (placements text).flatMap records, check a = .ok ()) ↔
      ∀ p ∈ placements text, records p ≠ [] → ¬ p.IsAdrift (Text.lineCount text) := by
  constructor
  · intro passed p member recorded
    obtain ⟨a, inside⟩ := List.exists_mem_of_ne_nil _ recorded
    exact (decides p member a inside).eq_ok_iff.mp
      (passed a (List.mem_flatMap.mpr ⟨p, member, inside⟩))
  · intro safe a recorded
    obtain ⟨p, member, inside⟩ := List.mem_flatMap.mp recorded
    exact (decides p member a inside).eq_ok_iff.mpr
      (safe p member (List.ne_nil_of_mem inside))

theorem validate_ofPage_eq_ok_iff (text : List Char) :
    (Elements.ofPage text).validate = .ok () ↔
      ∀ p ∈ placements text, p.IsRecorded → ¬ p.IsAdrift (Text.lineCount text) := by
  obtain ⟨handlers, interactive, lineCount⟩ := records_ofPage text
  rw [validate_eq_ok_iff, handlers, interactive, lineCount,
    forall_check_iff fun p member h => decides_checkHandler member,
    forall_check_iff fun p member i => decides_checkInteractive member]
  constructor
  · rintro ⟨onHandlers, onElements⟩ p member (some | some)
    · exact onHandlers p member some
    · exact onElements p member some
  · intro safe
    exact ⟨fun p member some => safe p member (.inl some),
      fun p member some => safe p member (.inr some)⟩

/-- A page is refused for a line beyond its last one, and for nothing else. -/
theorem cause_of_validate_ofPage {text : List Char} {cause : ArgumentError}
    (refused : (Elements.ofPage text).validate = .error cause) :
    ∃ p ∈ placements text, p.IsAdrift (Text.lineCount text) ∧
      ∃ what, cause = .lineOutsideDocument what p.read (Text.lineCount text) := by
  obtain ⟨handlers, interactive, lineCount⟩ := records_ofPage text
  have judged {p : Placement} {result : Except ArgumentError Unit}
      (decides : p.Decides (Text.lineCount text) result) (failed : result = .error cause) :
      p.IsAdrift (Text.lineCount text) ∧
        ∃ what, cause = .lineOutsideDocument what p.read (Text.lineCount text) := by
    rcases decides with ⟨adrift, what, rfl⟩ | ⟨-, rfl⟩
    · exact ⟨adrift, what, (Except.error.inj failed).symm⟩
    · cases failed
  have failure := exists_of_validate_eq_error refused
  rw [handlers, interactive, lineCount] at failure
  rcases failure with ⟨h, recorded, failed⟩ | ⟨i, recorded, failed⟩
  · obtain ⟨p, member, inside⟩ := List.mem_flatMap.mp recorded
    exact ⟨p, member, judged (decides_checkHandler member inside) failed⟩
  · obtain ⟨p, member, inside⟩ := List.mem_flatMap.mp recorded
    exact ⟨p, member, judged (decides_checkInteractive member inside) failed⟩

/-- A page is fit for the checks unless the locator has lost a tag that leaves a record and the
reading counted its line beyond the last one. That line is then the reason for which the page is
refused, and an analysis fails on it. It cannot happen without carriage returns and references. -/
theorem validate_ofPage (text : List Char) :
    ((Elements.ofPage text).validate = .ok () ↔
        ∀ p ∈ placements text, p.IsRecorded → ¬ p.IsAdrift (Text.lineCount text)) ∧
      (∀ cause, (Elements.ofPage text).validate = .error cause →
        ∃ p ∈ placements text, p.IsAdrift (Text.lineCount text) ∧
          ∃ what, cause = .lineOutsideDocument what p.read (Text.lineCount text)) ∧
      ('\r' ∉ text → '&' ∉ text → (Elements.ofPage text).validate = .ok ()) ∧
      ∀ config functions, functions.validate = .ok () →
        ((∃ findings, Check.analyze config (Elements.ofPage text) functions = .ok findings) ↔
          (Elements.ofPage text).validate = .ok ()) := by
  refine ⟨validate_ofPage_eq_ok_iff text, fun cause => cause_of_validate_ofPage, ?_, ?_⟩
  · intro noReturn noReference
    refine (validate_ofPage_eq_ok_iff text).mpr fun p member recorded adrift => ?_
    obtain ⟨⟨e, inside, kind, read⟩, -⟩ := mem_placements member
    have counted := line_le_lineCount_of_plain noReturn noReference e inside _ kind
    have beyond := adrift.2
    omega
  · intro config functions goodFunctions
    simp [Check.analyze_eq_ok_iff, goodFunctions]

theorem validate_ofPage_plain :
    (Elements.ofPage "<x\x00 onclick=\"f()\">\n".toList).validate = .ok () :=
  (validate_ofPage _).2.2.1 (by decide) (by decide)

/-- A lone carriage return is a line for the reading only, and the tag behind it is lost by the
locator for the character in its name. -/
theorem validate_ofPage_lone_return :
    (Elements.ofPage "\r<x\x00 onclick=\"f()\">".toList).validate =
      .error (.lineOutsideDocument "event handler" 2 1) := by
  rfl

end Elements

end PageWiring
