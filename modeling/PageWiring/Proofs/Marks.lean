import PageWiring.Proofs.Places

/-!
The tags and comments of a page, each with the place where it stands.

A `Trail` is a reading that remembers the last `<` behind which a tag or a comment may begin. When
one is found, it is marked with the page before that `<` and the page up to its end. The reading
itself is the ordinary one. `Mark.Fits` says what stands at a mark, and `Draft.Stands` what has been
passed of a tag that is not yet found.
-/
namespace PageWiring.Markup

/-- A tag or a comment of a page. -/
structure Mark where
  event : Event
  /-- The page before its `<`. -/
  before : List Char
  /-- The page up to its end. -/
  upTo : List Char
  deriving DecidableEq, Repr

structure Trail where
  text : List Char
  machine : Machine
  /-- The page before the last `<` that may begin a tag or a comment. -/
  before : List Char := []
  /-- What was found, the latest first. -/
  marks : List Mark := []

namespace Trail

/-- Follows the machine through one step, after which it is `m`. -/
def note (t : Trail) (m : Machine) : Trail where
  text := t.text
  machine := m
  before :=
    if m.draft.mode.phase = .opening then t.text.take (t.text.length - m.cursor.input.length - 1)
    else t.before
  marks :=
    let found := m.events.take (m.events.length - t.machine.events.length)
    (found.filter (·.kind.isMark)).map
      (⟨·, t.before, t.text.take (t.text.length - m.cursor.input.length)⟩) ++ t.marks

def run : Nat → Trail → Trail
  | 0, t => t
  | limit + 1, t =>
    match t.machine.step with
    | (m, true) => run limit (t.note m)
    | (m, false) => t.note m

def atEnd (t : Trail) (f : Draft → Draft) : Trail := t.note (t.machine.atEnd f)

def finish (t : Trail) (limit : Nat) : Trail :=
  let t := run limit ((run limit t).atEnd Draft.endReference)
  ((t.atEnd Draft.endStep).atEnd Draft.endStep).atEnd Draft.endStep

/-- The trail at the start of a text. -/
def start (text : List Char) : Trail := { text := text, machine := .start text }

end Trail

/-- The tags and comments of a page in their order, each with its place. -/
def marks (text : List Char) : List Mark :=
  ((Trail.start text).finish (Machine.stepLimit text)).marks.reverse

namespace Trail

open Machine (settle)

variable {t : Trail} {cursor : Cursor} {d : Draft}

/-! ### A trail is an ordinary reading -/

theorem machine_run (limit : Nat) (t : Trail) :
    (run limit t).machine = Machine.run limit t.machine := by
  induction limit generalizing t with
  | zero => rfl
  | succ limit ih =>
    unfold run Machine.run
    rcases t.machine.step with ⟨m, _ | _⟩
    · rfl
    · exact ih (t.note m)

theorem machine_finish (t : Trail) (limit : Nat) :
    (t.finish limit).machine = t.machine.finish limit := by
  simp [finish, Machine.finish, atEnd, note, machine_run]

/-- What every step keeps, a whole reading keeps. -/
theorem finish_keeps {P : Trail → Prop}
    (move : ∀ {t cursor d}, P t → t.machine.Moves cursor d →
      P (t.note (settle t.machine.events cursor d)))
    (stop : ∀ {t m}, P t → t.machine.step = (m, false) → P (t.note m))
    (ends : ∀ {t f}, P t → Machine.IsEndStep f → P (t.atEnd f)) (limit : Nat) (kept : P t) :
    P (t.finish limit) := by
  have runs (limit : Nat) (t : Trail) (kept : P t) : P (run limit t) := by
    induction limit generalizing t with
    | zero => exact kept
    | succ limit ih =>
      unfold run
      split
      · next m step =>
        obtain ⟨cursor, d, moves, rfl⟩ := Machine.moves_of_step step
        exact ih _ (move kept moves)
      · next m stopped => exact stop kept stopped
  have second := runs limit _ (ends (runs limit t kept) (.inl rfl))
  exact ends (ends (ends second (.inr rfl)) (.inr rfl)) (.inr rfl)

/-- What a step finds is marked with the place of the last `<` and the one reached. -/
theorem marks_note_settle (t : Trail) (cursor : Cursor) (d : Draft) :
    (t.note (settle t.machine.events cursor d)).marks =
      d.found.map (fun kind => ⟨⟨kind, cursor.line⟩, t.before,
        t.text.take (t.text.length - (d.unread ++ cursor.input).length)⟩) ++ t.marks := by
  have fresh : ∀ new old : List Event, (new ++ old).take ((new ++ old).length - old.length) = new :=
    fun new old => by simp
  unfold note
  simp only [settle, fresh, Draft.found]
  rw [List.filter_map, List.map_map]
  rfl

theorem marks_note_of_events {m : Machine} (same : m.events = t.machine.events) :
    (t.note m).marks = t.marks := by
  simp [note, same]

theorem before_note {m : Machine} (elsewhere : m.draft.mode.phase ≠ .opening) :
    (t.note m).before = t.before := if_neg elsewhere

/-- The marks are the tags and comments that were read. -/
def Accounts (t : Trail) : Prop :=
  t.marks.map (·.event) = t.machine.events.filter (·.kind.isMark)

theorem accounts_note_settle (accounts : t.Accounts) :
    (t.note (settle t.machine.events cursor d)).Accounts := by
  unfold Accounts at accounts ⊢
  rw [marks_note_settle, List.map_append, accounts]
  show _ = (d.emitted.map _ ++ t.machine.events).filter _
  rw [List.filter_append, List.filter_map, List.map_map]
  rfl

theorem accounts_finish (limit : Nat) (accounts : t.Accounts) : (t.finish limit).Accounts := by
  refine finish_keeps ?_ ?_ ?_ limit accounts
  · intro t cursor d accounts _
    exact accounts_note_settle accounts
  · intro t m accounts stopped
    have same := (Machine.stops_of_step stopped).events
    unfold Accounts
    rw [marks_note_of_events same, accounts, ← same]
    rfl
  · intro t f accounts _
    exact accounts_note_settle accounts

end Trail

theorem marks_map_event (text : List Char) :
    (marks text).map (·.event) = (events text).filter (·.kind.isMark) := by
  have accounts := Trail.accounts_finish (t := .start text) (Machine.stepLimit text) rfl
  unfold Trail.Accounts at accounts
  rw [Trail.machine_finish] at accounts
  rw [marks, List.map_reverse, accounts, ← List.filter_reverse]
  rfl

/-! ### What stands at a mark -/

/-- Behind `before` stands a tag of that name: `<`, a slash or none, the name as it is written, and
a character that ends names. -/
def Written (slash name before upTo : List Char) : Prop :=
  ∃ spelled ender rest, upTo = before ++ '<' :: (slash ++ spelled ++ ender :: rest) ∧
    spelled.map nameChar = name ∧ endsTagName [ender] = true

theorem Written.append {slash name before upTo : List Char}
    (written : Written slash name before upTo) (more : List Char) :
    Written slash name before (upTo ++ more) := by
  obtain ⟨spelled, ender, rest, rfl, named, ends⟩ := written
  exact ⟨spelled, ender, rest ++ more, by simp, named, ends⟩

theorem Written.isPrefix {slash name before upTo : List Char}
    (written : Written slash name before upTo) : before ++ ['<'] <+: upTo := by
  obtain ⟨spelled, ender, rest, rfl, -⟩ := written
  exact ⟨slash ++ spelled ++ ender :: rest, by simp⟩

/-- What stands between the two places is a tag or a comment of this kind. -/
def EventKind.Spans (before upTo : List Char) : EventKind → Prop
  | .startTag t => Written [] t.name.toList before upTo
  | .endTag name => Written ['/'] name.toList before upTo
  | _ => before ++ ['<'] <+: upTo

theorem EventKind.Spans.isPrefix {before upTo : List Char} {kind : EventKind}
    (spans : kind.Spans before upTo) : before ++ ['<'] <+: upTo := by
  cases kind with
  | startTag t => exact Written.isPrefix spans
  | endTag name => exact Written.isPrefix spans
  | comment => exact spans
  | fault cause => exact spans

/-- The mark is a part of the page, and read no earlier than on the line where it ends. -/
structure Mark.Fits (text : List Char) (mark : Mark) : Prop where
  within : mark.upTo <+: text
  spans : mark.event.kind.Spans mark.before mark.upTo
  line : 1 + mark.upTo.count '\n' ≤ mark.event.line

namespace Draft

def slash (d : Draft) : List Char := if d.isEndTag then ['/'] else []

/-- What has been passed of the tag or comment that is being read, from the text before its `<`. -/
def Stands (d : Draft) (before passed : List Char) : Prop :=
  match d.mode.phase with
  | .outside => True
  | .opening => passed = before ++ ['<']
  | .closing => passed = before ++ ['<', '/']
  | .naming => ∃ spelled, passed = before ++ '<' :: (d.slash ++ spelled) ∧
    spelled.map nameChar = d.tagName.toList
  | .inside => Written d.slash d.tagName.toList before passed
  | .aside => before ++ ['<'] <+: passed

variable {d d' : Draft} {before passed : List Char}

theorem stands_of_outside (out : d.mode.phase = .outside) (before passed : List Char) :
    d.Stands before passed := by
  simp [Stands, out]

theorem Stands.isPrefix (stands : d.Stands before passed) (begun : d.mode.phase ≠ .outside) :
    before ++ ['<'] <+: passed := by
  unfold Stands at stands
  split at stands
  · next outside => exact absurd outside begun
  · exact stands ▸ List.prefix_refl _
  · rw [stands]
    exact ⟨['/'], by simp⟩
  · obtain ⟨spelled, rfl, -⟩ := stands
    exact ⟨d.slash ++ spelled, by simp⟩
  · exact stands.isPrefix
  · exact stands

theorem Stands.append (stands : d.Stands before passed)
    (later : d.mode.phase = .outside ∨ d.mode.phase = .inside ∨ d.mode.phase = .aside)
    (more : List Char) : d.Stands before (passed ++ more) := by
  unfold Stands at stands ⊢
  rcases later with phase | phase | phase
  · rw [phase]
    trivial
  · rw [phase] at stands ⊢
    exact stands.append more
  · rw [phase] at stands ⊢
    exact stands.trans (List.prefix_append passed more)

theorem Stands.of_eq (stands : d.Stands before passed) (phase : d'.mode.phase = d.mode.phase)
    (title : d'.title = d.title) : d'.Stands before passed := by
  obtain ⟨isEndTag, name⟩ : d'.isEndTag = d.isEndTag ∧ d'.tagName = d.tagName :=
    Prod.mk.inj title
  unfold Stands slash at stands ⊢
  rwa [phase, isEndTag, name]

theorem Stands.glide (stands : d.Stands before passed) (glides : d.Glides d')
    (more : List Char) : d'.Stands before (passed ++ more) := by
  cases glides with
  | leaves same out => exact stands_of_outside out _ _
  | turns same begun aside calm =>
    unfold Stands
    rw [aside]
    exact (stands.isPrefix begun.1).trans (List.prefix_append passed more)
  | stays same inside still title =>
    exact (stands.append (.inr (.inl inside)) more).of_eq (still.trans inside.symm) title

/-- A tag whose name or what is behind it was being read ends at a `>`. -/
theorem Stands.spans {kind : EventKind} {more : List Char} (stands : d.Stands before passed)
    (names : d.Names kind) (begun : d.mode.phase = .naming ∧ more = ['>'] ∨
      d.mode.phase = .inside) : kind.Spans before (passed ++ more) := by
  have written : Written d.slash d.tagName.toList before (passed ++ more) := by
    unfold Stands at stands
    rcases begun with ⟨naming, rfl⟩ | inside
    · rw [naming] at stands
      obtain ⟨spelled, rfl, named⟩ := stands
      exact ⟨spelled, '>', [], by simp, named, by decide⟩
    · rw [inside] at stands
      exact stands.append more
  unfold Names at names
  unfold slash at written
  split at names
  · next isEnd =>
    rw [if_pos isEnd] at written
    rw [names]
    exact written
  · next isStart =>
    rw [if_neg isStart] at written
    obtain ⟨attributes, rfl⟩ := names
    exact written

/-- What an open reference holds of the text. References stand in text and in values. -/
def Holding (d : Draft) (held : List Char) : Prop :=
  match d.reference with
  | none => held = []
  | some r => r.Keeps held ∧ (d.mode.phase = .outside ∨ d.mode.phase = .inside)

theorem holding_nil (closed : d.reference = none) : d.Holding [] := by
  simp [Holding, closed]

theorem Holding.eq_nil {held : List Char} (holding : d.Holding held)
    (closed : d.reference = none) : held = [] := by
  simpa [Holding, closed] using holding

theorem holding_iff_of_open {r : Reference} {held : List Char} (opened : d.reference = some r) :
    d.Holding held ↔ r.Keeps held ∧ (d.mode.phase = .outside ∨ d.mode.phase = .inside) := by
  simp [Holding, opened]

theorem Holding.closed {held : List Char} (holding : d.Holding held)
    (elsewhere : d.mode.phase ≠ .outside ∧ d.mode.phase ≠ .inside) : d.reference = none := by
  cases opened : d.reference with
  | none => rfl
  | some r =>
    obtain ⟨-, phase⟩ := (holding_iff_of_open opened).mp holding
    exact (phase.elim elsewhere.1 elsewhere.2).elim

theorem Holding.glide {held : List Char} (holding : d.Holding held) (glides : d.Glides d') :
    d'.Holding held := by
  have same : d'.reference = d.reference :=
    (Prod.mk.inj (Prod.mk.inj glides.effects_eq).2).1
  cases opened : d.reference with
  | none =>
    rw [holding.eq_nil opened]
    exact holding_nil (same.trans opened)
  | some r =>
    obtain ⟨keeps, phase⟩ := (holding_iff_of_open opened).mp holding
    refine (holding_iff_of_open (same.trans opened)).mpr ⟨keeps, ?_⟩
    cases glides with
    | leaves same out => exact .inl out
    | turns same begun aside calm => exact (phase.elim begun.1 begun.2).elim
    | stays same inside still title => exact .inr still

/-- Is every character to be the next one of the page? So it is in references, and in tags up to the
end of their names. -/
def IsSteady (d : Draft) : Prop :=
  d.reference.isSome = true ∨ d.mode.phase = .opening ∨ d.mode.phase = .closing ∨
    d.mode.phase = .naming

theorem not_isSteady (closed : d.reference = none)
    (later : d.mode.phase = .outside ∨ d.mode.phase = .inside ∨ d.mode.phase = .aside) :
    ¬ d.IsSteady := by
  rcases later with phase | phase | phase <;> simp [IsSteady, closed, phase]

end Draft

end PageWiring.Markup
