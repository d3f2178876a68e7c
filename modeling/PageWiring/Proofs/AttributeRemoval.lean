import PageWiring.Markup.Locator
import PageWiring.Proofs.TwinReadings

/-!
A page with one attribute cut out.

When the stretch that is cut out was read as one attribute of a start tag, and what stands behind it
ends that attribute and what stands before it alike, the edited page has the same start tags; only
the tag that was cut has an attribute less.
-/
namespace PageWiring.Markup

/-- The start tags of a page, in their order. -/
def startTags (text : List Char) : List Tag := (events text).filterMap (·.kind.tag?)

namespace Draft

variable {d : Draft}

/-- In a start tag, at a place where the next attribute may begin behind a blank. -/
structure Ready (d : Draft) : Prop where
  start : d.isEndTag = false
  closed : d.reference = none
  mode : d.mode ∈ [.tagName, .beforeName, .name, .afterName, .afterValue, .value .none]

/-- The draft when one more attribute has been read to the end of its value. -/
def took (d : Draft) (name value : List Char) (mode : Mode) : Draft :=
  { d with
    mode := mode
    attributes := d.listed
    attributeName := name
    attributeValue := value }

/-- What a blank, a slash or the end of the tag makes of a draft that is ready for an attribute. -/
def turn (d : Draft) (c : Char) : Draft :=
  if isBlankChar c then
    d.enter (if d.mode = .name ∨ d.mode = .afterName then .afterName else .beforeName)
  else if c == '/' then d.enter .selfClosing
  else d.finishTag

/-- All modes that are ready for an attribute take what ends one in the same way; but a slash may
belong to a value without quotes. -/
theorem Ready.turn_eq (ready : d.Ready) {c : Char}
    (closing : isBlankChar c = true ∨ c = '/' ∨ c = '>') :
    (d.mode = .value .none ∧ (c ≠ '/' → d.unquotedStep c = d.turn c)) ∨
      ∃ f, d.mode.intake = .next f ∧ f d c = d.turn c := by
  have mode := ready.mode
  simp only [List.mem_cons, List.not_mem_nil, or_false] at mode
  rcases mode with mode | mode | mode | mode | mode | mode
  · refine .inr ⟨tagNameStep, by rw [mode]; rfl, ?_⟩
    rcases closing with blank | rfl | rfl
    · simp [tagNameStep, turn, blank, mode]
    · rfl
    · rfl
  · refine .inr ⟨beforeNameStep, by rw [mode]; rfl, ?_⟩
    rcases closing with blank | rfl | rfl
    · simp [beforeNameStep, turn, blank, mode]
      exact mode ▸ rfl
    · rfl
    · rfl
  · refine .inr ⟨nameStep, by rw [mode]; rfl, ?_⟩
    rcases closing with blank | rfl | rfl
    · simp [nameStep, turn, blank, mode]
    · rfl
    · rfl
  · refine .inr ⟨afterNameStep, by rw [mode]; rfl, ?_⟩
    rcases closing with blank | rfl | rfl
    · simp [afterNameStep, turn, blank, mode]
      exact mode ▸ rfl
    · rfl
    · rfl
  · refine .inr ⟨afterValueStep, by rw [mode]; rfl, ?_⟩
    rcases closing with blank | rfl | rfl
    · simp [afterValueStep, turn, blank, mode]
    · rfl
    · rfl
  · refine .inl ⟨mode, fun noSlash => ?_⟩
    rcases closing with blank | rfl | rfl
    · simp [unquotedStep, turn, blank, mode]
    · exact absurd rfl noSlash
    · rfl

theorem inserted_addAttribute (attributes : List (String × String)) {name : List Char}
    (nonempty : name ≠ []) (value : List Char) :
    Inserted (String.ofList name.reverse, String.ofList value.reverse) attributes
      (addAttribute attributes name value) := by
  unfold addAttribute
  split
  · next known =>
    have some : attributes.any (·.1 == String.ofList name.reverse) = true := by
      simpa [nonempty] using known
    obtain ⟨other, member, same⟩ := List.any_eq_true.mp some
    exact .inr ⟨other, member, beq_iff_eq.mp same⟩
  · exact .inl ⟨attributes, [], (List.append_nil _).symm, rfl⟩

theorem Ready.beside (ready : d.Ready) {name : List Char} (nonempty : name ≠ [])
    (silent : d.emitted = []) (value : List Char) (mode mode' : Mode) :
    Beside (String.ofList name.reverse, String.ofList value.reverse) (d.enter mode')
      ((d.took name value mode).enter mode') where
  start := ready.start
  closed := ready.closed
  frame := ⟨d.listed, name, value, d.emitted, rfl⟩
  inserted := inserted_addAttribute d.listed nonempty value
  silent := by
    have none : d.tags = [] := by simp [tags, silent]
    exact ⟨none, none⟩

end Draft

namespace Machine

/-- A reading that has used up its text and has nothing to look at again. -/
structure AtRest (m : Machine) : Prop where
  input : m.cursor.input = []
  again : m.cursor.again = false
  settled : m.cursor.afterReturn = false

variable {m : Machine}

theorem AtRest.next (rest : m.AtRest) (c : Char) (more : List Char) :
    (m.cursor.feed (c :: more)).next = (m.cursor.feed (c :: more)).take c more := by
  simp [Cursor.next, Cursor.feed, rest.input, rest.again, rest.settled]

/-- A character as it is read. -/
def shown (c : Char) : Char := if c == '\r' then '\n' else c

theorem shown_of_endsTagName {c : Char} {more : List Char} (ends : endsTagName (c :: more) = true) :
    isBlankChar (shown c) = true ∨ shown c = '/' ∨ shown c = '>' := by
  simp only [endsTagName, Bool.or_eq_true, beq_iff_eq] at ends
  rcases ends with (blank | rfl) | rfl
  · rw [isAsciiBlank_eq] at blank
    exact .inl blank
  · exact .inr (.inl rfl)
  · exact .inr (.inr rfl)

/-- The step on what ends an attribute. -/
theorem step_turn (ready : m.draft.Ready) (rest : m.AtRest) {c : Char} {more : List Char}
    (ends : endsTagName (c :: more) = true) (slash : c = '/' → m.draft.mode ≠ .value .none) :
    (m.feed (c :: more)).step =
      (settle m.events ((m.cursor.feed (c :: more)).take c more).2 (m.draft.turn (shown c)),
        true) := by
  have onNext (f : Draft → Char → Draft) : (m.feed (c :: more)).onNext f =
      (settle m.events ((m.cursor.feed (c :: more)).take c more).2 (f m.draft (shown c)),
        true) := by
    have read : (m.feed (c :: more)).cursor.next = _ := rest.next c more
    unfold Machine.onNext
    rw [read]
    rfl
  have intake : (m.feed (c :: more)).draft.intake = m.draft.mode.intake := by
    simp [Draft.intake, feed, ready.closed]
  unfold step
  rw [intake]
  obtain ⟨mode, same⟩ | ⟨f, taken, same⟩ := ready.turn_eq (shown_of_endsTagName ends)
  · have noSlash : c ≠ '/' := fun isSlash => slash isSlash mode
    have special : ['\r', '\t', '\n', '\x0c', ' ', '&', '>', '\x00'].contains c = true := by
      simp only [endsTagName, Text.isAsciiBlank, Bool.or_eq_true, beq_iff_eq] at ends
      rcases ends with (((((rfl | rfl) | rfl) | rfl) | rfl) | isSlash) | rfl
      all_goals first
        | rfl
        | exact absurd isSlash noSlash
    have plain : shown c ≠ '/' := by
      unfold shown
      split
      · decide
      · exact noSlash
    rw [mode, ← same plain, ← onNext]
    simp only [Mode.intake, Mode.valueIntake, onText, feed, Cursor.feed, rest.input, rest.again,
      rest.settled, List.nil_append, special, Bool.or_self, Bool.false_eq_true, if_false, if_true]
  · rw [taken, ← same]
    exact onNext f

/-- What stands behind an attribute ends it, and ends what stands before it in the same way. -/
structure Parts (before behind : Machine) (rest : List Char) : Prop where
  ends : ∃ c more, rest = c :: more ∧ endsTagName rest = true ∧
    (c = '/' → before.draft.mode ≠ .value .none ∧ behind.draft.mode ≠ .value .none)
  unassigned : (rest.dropWhile Text.isAsciiBlank).head? ≠ some '='

/-- From the place before an attribute and from the place behind it, two readings of what follows
are twins after one step. -/
theorem twins_of_parts {before behind : Machine} {name value rest : List Char} {mode : Mode}
    (sound : before.Sound) (ready : before.draft.Ready) (still : before.AtRest)
    (still' : behind.AtRest) (nonempty : name ≠ [])
    (took : behind.draft = before.draft.took name value mode)
    (closed : mode = .afterValue ∨ mode = .value .none) (tags : behind.tags = before.tags)
    (parts : Parts before behind rest) :
    ∃ m n, (before.feed rest).step = (m, true) ∧ (behind.feed rest).step = (n, true) ∧
      Twins (String.ofList name.reverse, String.ofList value.reverse) before.tags m n := by
  obtain ⟨c, more, rfl, ends, slash⟩ := parts.ends
  have ready' : behind.draft.Ready := by
    rw [took]
    refine ⟨ready.start, ready.closed, ?_⟩
    rcases closed with rfl | rfl <;> simp [Draft.took]
  refine ⟨_, _, step_turn ready still ends fun isSlash => (slash isSlash).1,
    step_turn ready' still' ends fun isSlash => (slash isSlash).2, ?_⟩
  have beside (mode' : Mode) := ready.beside nonempty sound.emitted value mode mode'
  have alike : ((before.cursor.feed (c :: more)).take c more).2.Alike
      ((behind.cursor.feed (c :: more)).take c more).2 :=
    ⟨((behind.cursor.feed (c :: more)).take c more).2.line,
      by simp [Cursor.take, Cursor.feed, still.again, still'.again]⟩
  rw [took]
  rcases shown_of_endsTagName ends with blank | isSlash | isEnd
  · have turned : (before.draft.took name value mode).turn (shown c) =
        (before.draft.took name value mode).enter .beforeName := by
      rcases closed with rfl | rfl <;> simp [Draft.turn, blank, Draft.took]
    rw [turned, Draft.turn, if_pos blank]
    split
    · obtain ⟨-, -, settled⟩ := beside_settle (beside .beforeName)
      have noTags : before.draft.tags = [] := by simp [Draft.tags, sound.emitted]
      refine .gap (alike_settle alike rfl rfl before.events behind.events) ?_ ?_ rfl settled ?_ ?_
      · simp [settle, Cursor.take, Cursor.feed, still.again, Draft.enter, sound.again]
      · have isBlank : Text.isAsciiBlank c = true := by rwa [isAsciiBlank_eq]
        have unassigned := parts.unassigned
        rw [List.dropWhile_cons_of_pos isBlank] at unassigned
        simpa [Unassigned, settle, Cursor.take, Draft.enter, sound.unread] using unassigned
      · rw [tags_settle]
        exact congrArg (· ++ before.tags) noTags
      · rw [tags_settle]
        exact (congrArg (· ++ behind.tags) noTags).trans tags
    · exact twins_settle rfl tags alike (.inl (.between (.inl rfl) (beside .beforeName)))
  · have slashed (d : Draft) : d.turn (shown c) = d.enter .selfClosing := by
      rw [isSlash]
      rfl
    rw [slashed, slashed]
    exact twins_settle rfl tags alike (.inl (.between (.inr rfl) (beside .selfClosing)))
  · have finished (d : Draft) : d.turn (shown c) = (d.enter .beforeName).finishTag := by
      rw [isEnd, finishTag_enter]
      rfl
    rw [finished, finished]
    exact twins_settle rfl tags alike (.inr (beside .beforeName).finishTag)

theorem feed_feed (m : Machine) (first second : List Char) :
    (m.feed first).feed second = m.feed (first ++ second) := by
  simp [feed, Cursor.feed]

theorem Sound.feed (sound : m.Sound) (more : List Char) : (m.feed more).Sound :=
  ⟨sound.emitted, sound.again, sound.unread, sound.retried, sound.reference⟩

theorem not_misled_of_mode
    (mode : m.draft.mode ∈ [.tagName, .beforeName, .name, .afterName, .afterValue, .value .none]) :
    ¬ m.Misled := by
  rintro ⟨-, -, -, other | other | ⟨other, -⟩⟩ <;> simp [other] at mode

theorem start_append {pre : List Char} (nonempty : pre ≠ []) (more : List Char) :
    start (pre ++ more) = (start pre).feed more := by
  have same : Text.withoutMark (pre ++ more) = Text.withoutMark pre ++ more := by
    match pre, nonempty with
    | c :: cs, _ =>
      by_cases mark : c = '\ufeff'
      · subst mark
        rfl
      · simp [Text.withoutMark, mark]
  unfold start feed Cursor.feed
  rw [same]

/-- Nothing is read of an empty text. -/
theorem reaches_start_nil (reaches : (start []).Reaches m) : m = start [] := by
  obtain ⟨steps, advances⟩ := reaches
  cases steps with
  | zero => exact (Option.some.inj advances).symm
  | succ steps => cases advances

end Machine

/-- A stretch of a page, between `pre` and `rest`, that is read as one attribute of a start tag: the
reading comes to `before` in front of it and to `behind` behind it. -/
structure IsAttribute (pre found rest : List Char) (name : String) (value : List Char)
    (before behind : Machine) : Prop where
  reads : (Machine.start pre).Reaches before
  ready : before.draft.Ready
  still : before.AtRest
  takes : (before.feed found).Reaches behind
  took : behind.draft = before.draft.took name.toList.reverse value .afterValue ∨
    behind.draft = before.draft.took name.toList.reverse value (.value .none)
  still' : behind.AtRest
  tags : behind.tags = before.tags
  parts : Machine.Parts before behind rest

variable {pre found rest : List Char} {name : String} {value : List Char} {before behind : Machine}

/-- The reading of a page that goes on in any way behind `pre`. -/
theorem IsAttribute.reaches (stretch : IsAttribute pre found rest name value before behind)
    (more : List Char) :
    before.Sound ∧ (Machine.start (pre ++ more)).Reaches (before.feed more) := by
  have nonempty : pre ≠ [] := by
    rintro rfl
    have mode := stretch.ready.mode
    rw [Machine.reaches_start_nil stretch.reads] at mode
    exact absurd mode (by decide)
  refine ⟨(Machine.whole_of_reaches (Machine.sound_start pre) stretch.reads).1, ?_⟩
  rw [Machine.start_append nonempty]
  exact stretch.reads.feed (Machine.sound_start pre)
    (Machine.not_misled_of_mode stretch.ready.mode) more

theorem startTags_eq (text : List Char) :
    startTags text = (Machine.start text).whole.tags.reverse := by
  rw [startTags, Machine.events_eq_whole, List.filterMap_reverse]
  rfl

/-- Cutting an attribute out of a page leaves all start tags as they are but the one around it, if
that one is ever finished. -/
theorem startTags_of_isAttribute (stretch : IsAttribute pre found rest name value before behind)
    (nonempty : name ≠ "") :
    (startTags (pre ++ rest) = before.tags.reverse ∧
        startTags (pre ++ found ++ rest) = before.tags.reverse) ∨
      ∃ t t' later, startTags (pre ++ rest) = before.tags.reverse ++ t :: later ∧
        startTags (pre ++ found ++ rest) = before.tags.reverse ++ t' :: later ∧
        t.name = t'.name ∧
        Inserted (name, String.ofList value.reverse) t.attributes t'.attributes := by
  obtain ⟨sound, edited⟩ := stretch.reaches rest
  obtain ⟨-, full⟩ := stretch.reaches (found ++ rest)
  have taken : (before.feed (found ++ rest)).Reaches (behind.feed rest) := by
    have guided : ¬ behind.Misled := by
      apply Machine.not_misled_of_mode
      rcases stretch.took with took | took <;> simp [took, Draft.took]
    have fed := stretch.takes.feed (sound.feed found) guided rest
    rwa [Machine.feed_feed] at fed
  obtain ⟨mode, closed, took⟩ : ∃ mode, (mode = .afterValue ∨ mode = .value .none) ∧
      behind.draft = before.draft.took name.toList.reverse value mode := by
    rcases stretch.took with took | took
    · exact ⟨_, .inl rfl, took⟩
    · exact ⟨_, .inr rfl, took⟩
  obtain ⟨m, n, step, step', twins⟩ := Machine.twins_of_parts sound stretch.ready stretch.still
    stretch.still' (by simpa using nonempty) took closed stretch.tags stretch.parts
  obtain ⟨soundEdited, wholeEdited⟩ := Machine.whole_of_reaches (Machine.sound_start _) edited
  obtain ⟨soundFull, wholeFull⟩ := Machine.whole_of_reaches (Machine.sound_start _) full
  obtain ⟨soundTaken, wholeTaken⟩ := Machine.whole_of_reaches soundFull taken
  rw [startTags_eq, startTags_eq, List.append_assoc, wholeEdited, wholeFull, wholeTaken,
    Machine.whole_of_step soundEdited step, Machine.whole_of_step soundTaken step']
  obtain ⟨same, same'⟩ | ⟨later, t, t', tags, tags', tagName, inserted⟩ := twins.whole
    (Machine.progress_of_step soundEdited step).1 (Machine.progress_of_step soundTaken step').1
  · exact .inl ⟨by rw [same], by rw [same']⟩
  · refine .inr ⟨t, t', later.reverse, by simp [tags], by simp [tags'], tagName, ?_⟩
    simpa using inserted

end PageWiring.Markup
