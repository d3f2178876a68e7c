import PageWiring.Proofs.Prefixes
import PageWiring.Proofs.TwinDrafts
import PageWiring.Text.Blank

/-!
Two readings side by side.

Lines are counted, but nothing depends on them. So two readings whose cursors differ in their line
only go on step by step together, as long as their drafts ask for the text in the same way: those
that are equal, and those of one start tag with an attribute more in one of them.
-/
namespace PageWiring.Markup

namespace Cursor

variable {s s' : Cursor}

/-- Cursors that differ in their line at most. -/
def Alike (s s' : Cursor) : Prop := ∃ line, s' = { s with line := line }

theorem Alike.next (alike : s.Alike s') : s'.next.1 = s.next.1 ∧ s.next.2.Alike s'.next.2 := by
  obtain ⟨line, rfl⟩ := alike
  unfold Cursor.next
  dsimp only
  split
  · exact ⟨rfl, line, rfl⟩
  · split
    · exact ⟨rfl, line, rfl⟩
    · split
      · split
        · exact ⟨rfl, line, rfl⟩
        · exact ⟨rfl, _, rfl⟩
      · exact ⟨rfl, _, rfl⟩

theorem Alike.discard (alike : s.Alike s') : s.discard.Alike s'.discard := alike.next.2

theorem Alike.peek (alike : s.Alike s') : s'.peek = s.peek := by
  obtain ⟨line, rfl⟩ := alike
  rfl

theorem Alike.forgetReturn (alike : s.Alike s') : s.forgetReturn.Alike s'.forgetReturn := by
  have seen := alike.peek
  obtain ⟨line, rfl⟩ := alike
  unfold Cursor.forgetReturn
  dsimp only
  rw [seen]
  split
  · exact Alike.discard ⟨line, rfl⟩
  · exact ⟨line, rfl⟩

theorem Alike.eatWord (alike : s.Alike s') (word : List Char) :
    (s.eatWord word = none ∧ s'.eatWord word = none) ∨
      ∃ cursor cursor', s.eatWord word = some cursor ∧ s'.eatWord word = some cursor' ∧
        cursor.Alike cursor' := by
  obtain ⟨line, same⟩ := alike.forgetReturn
  unfold Cursor.eatWord
  dsimp only
  rw [same]
  dsimp only
  split
  · exact .inr ⟨_, _, rfl, rfl, line, rfl⟩
  · exact .inl ⟨rfl, rfl⟩

end Cursor

namespace Machine

variable {m n : Machine} {D : Cursor → Draft → Draft → Prop}

/-- What two steps leave behind when both find some text, or neither does. -/
def Abreast (D : Cursor → Draft → Draft → Prop) (m n : Machine) (left right : Machine × Bool) :
    Prop :=
  (∃ cursor cursor' d e, cursor.Alike cursor' ∧ D cursor d e ∧
      left = (settle m.events cursor d, true) ∧ right = (settle n.events cursor' e, true)) ∨
    ∃ cursor cursor', cursor.Alike cursor' ∧ left = ({ m with cursor := cursor }, false) ∧
      right = ({ n with cursor := cursor' }, false)

theorem abreast_onNext (alike : m.cursor.Alike n.cursor) {f g : Draft → Char → Draft}
    (related : ∀ c cursor, m.cursor.next = (some c, cursor) →
      D cursor (f m.draft c) (g n.draft c)) :
    Abreast D m n (m.onNext f) (n.onNext g) := by
  obtain ⟨shown, behind⟩ := alike.next
  obtain ⟨c, cursor, read, step⟩ | ⟨ended, stopped⟩ := m.onNext_cases f
  · obtain ⟨c', cursor', read', step'⟩ | ⟨ended', -⟩ := n.onNext_cases g
    · obtain rfl : c' = c := by simpa [read, read'] using shown
      refine .inl ⟨cursor, cursor', _, _, ?_, related c' cursor read, step, step'⟩
      simpa [read, read'] using behind
    · rw [read, ended'] at shown
      cases shown
  · obtain ⟨c', cursor', read', step'⟩ | ⟨-, stopped'⟩ := n.onNext_cases g
    · rw [ended, read'] at shown
      cases shown
    · exact .inr ⟨_, _, behind, stopped, stopped'⟩

theorem abreast_onText (alike : m.cursor.Alike n.cursor) {isSpecial : Char → Bool}
    {plain special : Draft → Char → Draft}
    (related : ∀ c cursor, D cursor (plain m.draft c) (plain n.draft c) ∧
      D cursor (special m.draft c) (special n.draft c)) :
    Abreast D m n (m.onText isSpecial plain special) (n.onText isSpecial plain special) := by
  have onNext := abreast_onNext alike (f := special) (g := special)
    fun c cursor _ => (related c cursor).2
  obtain ⟨line, same⟩ := alike
  have again : n.cursor.again = m.cursor.again := by rw [same]
  have afterReturn : n.cursor.afterReturn = m.cursor.afterReturn := by rw [same]
  have input : n.cursor.input = m.cursor.input := by rw [same]
  unfold onText
  rw [again, afterReturn, input]
  split
  · exact onNext
  · split
    · exact .inr ⟨m.cursor, n.cursor, ⟨line, same⟩, rfl, rfl⟩
    · split
      · exact onNext
      · exact .inl ⟨_, _, _, _, ⟨line, by rw [same]⟩, (related _ _).1, rfl, rfl⟩

theorem abreast_onPeek (alike : m.cursor.Alike n.cursor) {f : Draft → Char → Draft × Bool}
    (related : ∀ c cursor, (f n.draft c).2 = (f m.draft c).2 ∧
      D cursor (f m.draft c).1 (f n.draft c).1) :
    Abreast D m n (m.onPeek f) (n.onPeek f) := by
  unfold onPeek
  rw [alike.peek]
  split
  · exact .inr ⟨m.cursor, n.cursor, alike, rfl, rfl⟩
  · next c seen =>
    dsimp only
    rw [(related c m.cursor).1]
    split
    · exact .inl ⟨_, _, _, _, alike.discard, (related c _).2, rfl, rfl⟩
    · exact .inl ⟨_, _, _, _, alike, (related c _).2, rfl, rfl⟩

/-- Equal drafts stay equal. -/
theorem abreast_of_eq (alike : m.cursor.Alike n.cursor) (same : n.draft = m.draft) :
    Abreast (fun _ d e => e = d) m n m.step n.step := by
  unfold step
  rw [same]
  cases m.draft.intake with
  | next f => exact abreast_onNext alike fun c cursor _ => by rw [same]
  | text isSpecial plain special =>
    exact abreast_onText alike fun c cursor => ⟨by rw [same], by rw [same]⟩
  | peek f => exact abreast_onPeek alike fun c cursor => ⟨by rw [same], by rw [same]⟩
  | declaration =>
    dsimp only
    unfold declarationStep
    obtain ⟨missed, missed'⟩ | ⟨cursor, cursor', found, found', alike'⟩ :=
      alike.eatWord ['-', '-']
    · rw [missed, missed']
      obtain ⟨missed, missed'⟩ | ⟨cursor, cursor', found, found', alike'⟩ :=
        alike.eatWord "doctype".toList
      · rw [missed, missed', same]
        exact .inl ⟨_, _, _, _, alike, rfl, rfl, rfl⟩
      · rw [found, found', same]
        exact .inl ⟨_, _, _, _, alike', rfl, rfl, rfl⟩
    · rw [found, found', same]
      exact .inl ⟨_, _, _, _, alike', rfl, rfl, rfl⟩
  | doctypeWord =>
    dsimp only
    unfold doctypeWordStep
    obtain ⟨missed, missed'⟩ | ⟨cursor, cursor', found, found', alike'⟩ :=
      alike.eatWord "public".toList
    · rw [missed, missed']
      obtain ⟨missed, missed'⟩ | ⟨cursor, cursor', found, found', alike'⟩ :=
        alike.eatWord "system".toList
      · rw [missed, missed']
        exact abreast_onNext (m := { m with cursor := m.cursor.forgetReturn })
          (n := { n with cursor := n.cursor.forgetReturn }) alike.forgetReturn
          fun c cursor _ => by rw [same]
      · rw [found, found', same]
        exact .inl ⟨_, _, _, _, alike', rfl, rfl, rfl⟩
    · rw [found, found', same]
      exact .inl ⟨_, _, _, _, alike', rfl, rfl, rfl⟩

/-! ### Twins -/

/-- The start tags that were found, the latest first. -/
def tags (m : Machine) : List Tag := m.events.filterMap (·.kind.tag?)

theorem tags_settle (events : List Event) (cursor : Cursor) (d : Draft) :
    (settle events cursor d).tags = d.tags ++ events.filterMap (·.kind.tag?) := by
  rw [tags, settle, List.filterMap_append, List.filterMap_map]
  rfl

/-- The tags of two readings that differ in one attribute of one tag; those before it are `before`.
-/
def OneApart (extra : String × String) (before tags full : List Tag) : Prop :=
  ∃ later t t', tags = later ++ t :: before ∧ full = later ++ t' :: before ∧ t.name = t'.name ∧
    Inserted extra t.attributes t'.attributes

/-- No equals sign comes next, apart from blanks. -/
def Unassigned (s : Cursor) : Prop := (s.input.dropWhile Text.isAsciiBlank).head? ≠ some '='

/-- Two readings of which the second has an attribute more in the tag behind `before`. -/
inductive Twins (extra : String × String) (before : List Tag) (m n : Machine) : Prop
  /-- Only one of them is right behind the name of an attribute. -/
  | gap (alike : m.cursor.Alike n.cursor) (fresh : m.cursor.again = false)
      (unassigned : Unassigned m.cursor) (mode : m.draft.mode = .afterName)
      (beside : Draft.Beside extra (m.draft.enter .beforeName) n.draft)
      (tags : m.tags = before) (tags' : n.tags = before)
  | inside (alike : m.cursor.Alike n.cursor) (twin : Draft.Twin extra m.draft n.draft)
      (tags : m.tags = before) (tags' : n.tags = before)
  | behind (alike : m.cursor.Alike n.cursor) (same : n.draft = m.draft)
      (apart : OneApart extra before m.tags n.tags)

variable {extra : String × String} {before : List Tag} {cursor cursor' : Cursor} {d e : Draft}

/-- Both drafts have the same to say to the text. -/
theorem alike_settle (alike : cursor.Alike cursor') (again : e.again = d.again)
    (unread : e.unread = d.unread) (left right : List Event) :
    (settle left cursor d).cursor.Alike (settle right cursor' e).cursor := by
  obtain ⟨line, rfl⟩ := alike
  exact ⟨line, by simp [settle, again, unread]⟩

theorem beside_settle (beside : Draft.Beside extra d e) :
    e.again = d.again ∧ e.unread = d.unread ∧
      Draft.Beside extra { d with emitted := [], again := false, unread := [] }
        { e with emitted := [], again := false, unread := [] } := by
  obtain ⟨attributes, name, value, emitted, rfl⟩ := beside.frame
  exact ⟨rfl, rfl, beside.start, beside.closed, ⟨attributes, name, value, [], rfl⟩,
    beside.inserted, rfl, rfl⟩

theorem twin_settle (twin : Draft.Twin extra d e) :
    e.again = d.again ∧ e.unread = d.unread ∧ d.tags = [] ∧ e.tags = [] ∧
      Draft.Twin extra { d with emitted := [], again := false, unread := [] }
        { e with emitted := [], again := false, unread := [] } := by
  cases twin with
  | within mode within =>
    obtain ⟨attributes, emitted, rfl⟩ := within.frame
    refine ⟨rfl, rfl, within.silent.1, within.silent.2, .within mode ?_⟩
    exact ⟨within.start, ⟨attributes, [], rfl⟩, within.inserted, rfl, rfl⟩
  | between mode beside =>
    obtain ⟨again, unread, settled⟩ := beside_settle beside
    exact ⟨again, unread, beside.silent.1, beside.silent.2, .between mode settled⟩

theorem twins_settle (tags : m.tags = before) (tags' : n.tags = before)
    (alike : cursor.Alike cursor') (step : Draft.Step extra d e) :
    Twins extra before (settle m.events cursor d) (settle n.events cursor' e) := by
  rcases step with twin | ended
  · obtain ⟨again, unread, none, none', settled⟩ := twin_settle twin
    refine .inside (alike_settle alike again unread _ _) settled ?_ ?_
    · rw [tags_settle, none]
      exact tags
    · rw [tags_settle, none']
      exact tags'
  · obtain ⟨t, t', one, one', name, inserted⟩ := ended.tags
    have again : e.again = d.again := (congrArg Draft.again ended.frame).symm
    have unread : e.unread = d.unread := (congrArg Draft.unread ended.frame).symm
    refine .behind (alike_settle alike again unread _ _) ?_ ⟨[], t, t', ?_, ?_, name, inserted⟩
    · exact (congrArg (fun x : Draft => { x with emitted := [], again := false, unread := [] })
        ended.frame).symm
    · rw [tags_settle, one]
      exact congrArg (t :: ·) tags
    · rw [tags_settle, one']
      exact congrArg (t' :: ·) tags'

theorem behind_settle (alike : cursor.Alike cursor') (apart : OneApart extra before m.tags n.tags) :
    Twins extra before (settle m.events cursor d) (settle n.events cursor' d) := by
  obtain ⟨later, t, t', tags, tags', rest⟩ := apart
  refine .behind (alike_settle alike rfl rfl _ _) rfl ⟨d.tags ++ later, t, t', ?_, ?_, rest⟩
  · rw [tags_settle, List.append_assoc]
    exact congrArg (d.tags ++ ·) tags
  · rw [tags_settle, List.append_assoc]
    exact congrArg (d.tags ++ ·) tags'

/-! ### Both readings go on together -/

theorem isAsciiBlank_eq (raw : Char) :
    Text.isAsciiBlank raw = isBlankChar (if raw == '\r' then '\n' else raw) := by
  by_cases isReturn : raw = '\r'
  · subst isReturn
    rfl
  · simp only [Text.isAsciiBlank, isBlankChar, isReturn, beq_iff_eq, if_false]
    grind

/-- The next character is what comes next in the text, apart from blanks, or a blank. -/
theorem unassigned_next {s cursor : Cursor} {c : Char} (fresh : s.again = false)
    (unassigned : Unassigned s) (read : s.next = (some c, cursor)) :
    (isBlankChar c = true → Unassigned cursor) ∧ (isBlankChar c = false → c ≠ '=') := by
  obtain ⟨again, -⟩ | ⟨-, raw, rest, taken, input⟩ := Cursor.next_eq_some read
  · simp [fresh] at again
  · obtain ⟨-, -, left, shown, -⟩ := Cursor.take_eq taken
    have blank : Text.isAsciiBlank raw = isBlankChar c := by rw [isAsciiBlank_eq, shown]
    have behind : s.input.dropWhile Text.isAsciiBlank =
        (raw :: rest).dropWhile Text.isAsciiBlank := by
      rcases input with input | ⟨-, input⟩
      · rw [input]
      · rw [input]
        rfl
    unfold Unassigned at unassigned ⊢
    rw [behind, List.dropWhile_cons, blank] at unassigned
    constructor
    · intro isBlank
      rw [left]
      simpa [isBlank] using unassigned
    · rintro other rfl
      have plain : raw = '=' := by
        by_cases isReturn : raw = '\r'
        · simp [isReturn] at shown
        · simpa [isReturn] using shown.symm
      simp [other, plain] at unassigned

theorem finishAttribute_enter (d : Draft) (mode : Mode) :
    (d.enter mode).finishAttribute = d.finishAttribute.enter mode := by
  unfold Draft.finishAttribute Draft.enter
  dsimp only
  split
  · rfl
  · split <;> rfl

theorem startAttribute_enter (d : Draft) (mode : Mode) (c : Char) :
    (d.enter mode).startAttribute c = d.startAttribute c := by
  rw [Draft.startAttribute, finishAttribute_enter]
  rfl

theorem finishTag_enter (d : Draft) (mode : Mode) : (d.enter mode).finishTag = d.finishTag := by
  unfold Draft.finishTag
  rw [finishAttribute_enter]
  dsimp only [Draft.enter]
  split
  · repeat' split
    all_goals rfl
  · rfl

/-- Behind the name of an attribute and behind a whole attribute, a character that is neither blank
nor an equals sign does the same. -/
theorem afterNameStep_eq {d : Draft} {c : Char} (other : isBlankChar c = false) (plain : c ≠ '=') :
    d.afterNameStep c = (d.enter .beforeName).beforeNameStep c := by
  have faults : ['"', '\'', '<'].contains c = ['"', '\'', '<', '='].contains c := by
    simp [plain]
  unfold Draft.afterNameStep Draft.beforeNameStep Draft.badIf
  rw [other, faults, if_neg (by simpa using plain : ¬ (c == '=') = true)]
  simp only [Bool.false_eq_true, if_false]
  split
  · rfl
  · split
    · exact (finishTag_enter d .beforeName).symm
    · split
      · exact (startAttribute_enter d.bad .beforeName _).symm
      · split
        · exact (startAttribute_enter d.bad .beforeName _).symm
        · exact (startAttribute_enter d .beforeName _).symm

theorem settle_self (sound : m.Sound) (cursor : Cursor) :
    settle m.events cursor m.draft = { m with cursor := cursor } := by
  have draft : { m.draft with emitted := [], again := false, unread := [] } = m.draft := by
    rw [← sound.emitted, ← sound.again, ← sound.unread]
  simp [settle, sound.emitted, sound.again, sound.unread, draft]

theorem step_of_abreast {R : Machine → Machine → Prop} (abreast : Abreast D m n m.step n.step)
    (go : ∀ cursor cursor' d e, cursor.Alike cursor' → D cursor d e →
      R (settle m.events cursor d) (settle n.events cursor' e))
    (stop : ∀ cursor cursor', cursor.Alike cursor' → m.Stops { m with cursor := cursor } →
      R { m with cursor := cursor } { n with cursor := cursor' }) :
    ∃ m' n' goes, m.step = (m', goes) ∧ n.step = (n', goes) ∧ R m' n' := by
  rcases abreast with ⟨cursor, cursor', d, e, alike, related, step, step'⟩ |
    ⟨cursor, cursor', alike, stopped, stopped'⟩
  · exact ⟨_, _, true, step, step', go _ _ _ _ alike related⟩
  · exact ⟨_, _, false, stopped, stopped', stop _ _ alike (stops_of_step stopped)⟩

theorem withAttributes_of_within (sound : m.Sound) (sound' : n.Sound)
    (within : Draft.Within extra m.draft n.draft) :
    ∃ full, n.draft = m.draft.withAttributes full := by
  obtain ⟨attributes, emitted, same⟩ := within.frame
  have silent : emitted = m.draft.emitted := by
    have emittedNone := sound'.emitted
    rw [same] at emittedNone
    rw [sound.emitted]
    exact emittedNone
  exact ⟨attributes, by rw [same, silent]; rfl⟩

theorem abreast_within {full : List (String × String)} (alike : m.cursor.Alike n.cursor)
    (sound : m.Sound) (mode : Draft.Continues m.draft.mode)
    (within : Draft.Within extra m.draft (m.draft.withAttributes full))
    (same : n.draft = m.draft.withAttributes full) :
    Abreast (fun _ d e => Draft.Step extra d e) m n m.step n.step := by
  have intake : n.draft.intake = m.draft.intake := by rw [same]; rfl
  unfold step
  rw [intake]
  cases taken : m.draft.intake with
  | next f =>
    refine abreast_onNext alike fun c cursor _ => ?_
    rw [same]
    obtain ⟨closed, taken⟩ | ⟨r, opened, taken⟩ := Draft.intake_cases taken
    · exact within.step_next mode closed taken c
    · exact within.step_referenceNext mode (sound.reference r opened).1 taken c
  | text isSpecial plain special =>
    refine abreast_onText alike fun c cursor => ?_
    rw [same]
    obtain ⟨closed, taken⟩ | ⟨r, opened, taken⟩ := Draft.intake_cases taken
    · exact within.step_text mode closed taken c
    · cases mode : r.mode <;> simp [Reference.intake, mode] at taken
  | peek f =>
    refine abreast_onPeek alike fun c cursor => ?_
    rw [same]
    obtain ⟨closed, taken⟩ | ⟨r, opened, taken⟩ := Draft.intake_cases taken
    · exact within.step_peek closed taken c
    · exact within.step_referencePeek mode (sound.reference r opened).1 taken c
  | declaration =>
    obtain ⟨-, other⟩ := mode_of_intake_word.1 taken
    simp [Draft.Continues, other] at mode
  | doctypeWord =>
    obtain ⟨-, other⟩ := mode_of_intake_word.2 taken
    simp [Draft.Continues, other] at mode

theorem abreast_between (alike : m.cursor.Alike n.cursor)
    (mode : m.draft.mode = .beforeName ∨ m.draft.mode = .selfClosing)
    (beside : Draft.Beside extra m.draft n.draft) :
    Abreast (fun _ d e => Draft.Step extra d e) m n m.step n.step := by
  obtain ⟨attributes, name, value, emitted, same⟩ := beside.frame
  have intake : n.draft.intake = m.draft.intake := by rw [same]; rfl
  unfold step
  rw [intake]
  rcases mode with mode | mode
  · simp only [Draft.intake, beside.closed, mode, Mode.intake]
    exact abreast_onNext alike fun c cursor _ => beside.step_beforeName mode c
  · simp only [Draft.intake, beside.closed, mode, Mode.intake]
    exact abreast_onNext alike fun c cursor _ => beside.step_selfClosing c

theorem abreast_gap (alike : m.cursor.Alike n.cursor) (fresh : m.cursor.again = false)
    (unassigned : Unassigned m.cursor) (mode : m.draft.mode = .afterName)
    (beside : Draft.Beside extra (m.draft.enter .beforeName) n.draft) :
    Abreast (fun cursor d e => (d = m.draft ∧ e = n.draft ∧ cursor.again = false ∧
      Unassigned cursor) ∨ Draft.Step extra d e) m n m.step n.step := by
  obtain ⟨attributes, name, value, emitted, same⟩ := beside.frame
  have closed : m.draft.reference = none := beside.closed
  have intake : n.draft.intake = .next Draft.beforeNameStep := by
    rw [same]
    simp [Draft.intake, Draft.enter, closed, Mode.intake]
  unfold step
  rw [intake]
  simp only [Draft.intake, closed, mode, Mode.intake]
  refine abreast_onNext alike fun c cursor read => ?_
  obtain ⟨blank, plain⟩ := unassigned_next fresh unassigned read
  cases isBlank : isBlankChar c with
  | true =>
    refine .inl ⟨?_, ?_, (Cursor.next_pending read).1, blank isBlank⟩
    · simp [Draft.afterNameStep, isBlank]
    · simp [Draft.beforeNameStep, isBlank]
  | false =>
    rw [afterNameStep_eq isBlank (plain isBlank)]
    exact .inr (beside.step_beforeName rfl c)

theorem Twins.step (twins : Twins extra before m n) (sound : m.Sound) (sound' : n.Sound) :
    ∃ m' n' goes, m.step = (m', goes) ∧ n.step = (n', goes) ∧ Twins extra before m' n' := by
  cases twins with
  | gap alike fresh unassigned mode beside tags tags' =>
    refine step_of_abreast (abreast_gap alike fresh unassigned mode beside) ?_ ?_
    · rintro cursor cursor' d e alike (⟨rfl, rfl, fresh, unassigned⟩ | step)
      · rw [settle_self sound, settle_self sound']
        exact .gap alike fresh unassigned mode beside tags tags'
      · exact twins_settle tags tags' alike step
    · intro cursor cursor' alike stops
      have ended : cursor.input = [] := stops.input
      exact .gap alike stops.again (by simp [Unassigned, ended]) mode beside tags tags'
  | inside alike twin tags tags' =>
    refine step_of_abreast (D := fun _ d e => Draft.Step extra d e) ?_
      (fun cursor cursor' d e alike step => twins_settle tags tags' alike step)
      (fun cursor cursor' alike _ => .inside alike twin tags tags')
    cases twin with
    | within mode within =>
      obtain ⟨full, same⟩ := withAttributes_of_within sound sound' within
      exact abreast_within alike sound mode (same ▸ within) same
    | between mode beside => exact abreast_between alike mode beside
  | behind alike same apart =>
    refine step_of_abreast (abreast_of_eq alike same) ?_
      (fun cursor cursor' alike _ => .behind alike same apart)
    rintro cursor cursor' d e alike rfl
    exact behind_settle alike apart

theorem Twins.drain (twins : Twins extra before m n) (sound : m.Sound) (sound' : n.Sound) :
    Twins extra before m.drain n.drain := by
  refine reading_induction (P := fun m => ∀ n, n.Sound → Twins extra before m n →
    Twins extra before m.drain n.drain) ?_ ?_ m sound n sound' twins
  · intro m m' sound stopped n sound' twins
    obtain ⟨left, right, goes, step, step', kept⟩ := twins.step sound sound'
    obtain ⟨rfl, rfl⟩ := Prod.mk.inj (stopped.symm.trans step)
    rwa [drain_of_stop stopped, drain_of_stop step']
  · intro m m' sound step ih n sound' twins
    obtain ⟨left, right, goes, same, step', kept⟩ := twins.step sound sound'
    obtain ⟨rfl, rfl⟩ := Prod.mk.inj (step.symm.trans same)
    rw [drain_of_step sound step, drain_of_step sound' step']
    exact ih right (progress_of_step sound' step').1 kept

theorem Twins.endReference (twins : Twins extra before m n) (sound : m.Sound) (sound' : n.Sound) :
    Twins extra before (m.atEnd Draft.endReference) (n.atEnd Draft.endReference) := by
  have closed {k : Machine} (soundK : k.Sound) (none : k.draft.reference = none) :
      k.atEnd Draft.endReference = k := by
    have same : k.draft.endReference = k.draft := by simp [Draft.endReference, none]
    rw [atEnd, same, settle_self soundK]
  cases twins with
  | gap alike fresh unassigned mode beside tags tags' =>
    obtain ⟨attributes, name, value, emitted, same⟩ := beside.frame
    rw [closed sound beside.closed, closed sound' (by rw [same]; exact beside.closed)]
    exact .gap alike fresh unassigned mode beside tags tags'
  | inside alike twin tags tags' =>
    cases twin with
    | within mode within =>
      obtain ⟨full, same⟩ := withAttributes_of_within sound sound' within
      refine twins_settle tags tags' alike (.inl ?_)
      rw [same] at within ⊢
      exact within.step_endReference mode fun r opened => (sound.reference r opened).1
    | between mode beside =>
      obtain ⟨attributes, name, value, emitted, same⟩ := beside.frame
      rw [closed sound beside.closed, closed sound' (by rw [same]; exact beside.closed)]
      exact .inside alike (.between mode beside) tags tags'
  | behind alike same apart =>
    rw [atEnd, atEnd, same]
    exact behind_settle alike apart

theorem tags_endStep (sound : m.Sound) :
    (m.atEnd Draft.endStep).Sound ∧ (m.atEnd Draft.endStep).tags = m.tags := by
  obtain ⟨sound', none⟩ := sound_atEnd sound (.inr rfl)
  refine ⟨sound', ?_⟩
  rw [atEnd, tags_settle, none]
  rfl

/-- The tags of both readings as a whole: none was found from here on, or they are one attribute
apart. -/
theorem Twins.whole (twins : Twins extra before m n) (sound : m.Sound) (sound' : n.Sound) :
    (m.whole.tags = before ∧ n.whole.tags = before) ∨
      OneApart extra before m.whole.tags n.whole.tags := by
  have ends {k : Machine} (soundK : k.Sound) :
      (k.drain.atEnd Draft.endReference).Sound ∧
        k.whole.tags = (k.drain.atEnd Draft.endReference).drain.tags := by
    have given := (sound_atEnd (drain_effects soundK).1 (.inl rfl)).1
    obtain ⟨sound1, same1⟩ := tags_endStep (drain_effects given).1
    obtain ⟨sound2, same2⟩ := tags_endStep sound1
    exact ⟨given, (tags_endStep sound2).2.trans (same2.trans same1)⟩
  obtain ⟨given, tags⟩ := ends sound
  obtain ⟨given', tags'⟩ := ends sound'
  have drained := (twins.drain sound sound').endReference (drain_effects sound).1
    (drain_effects sound').1
  rw [tags, tags']
  cases drained.drain given given' with
  | gap alike fresh unassigned mode beside same same' => exact .inl ⟨same, same'⟩
  | inside alike twin same same' => exact .inl ⟨same, same'⟩
  | behind alike same apart => exact .inr apart

end Machine

end PageWiring.Markup
