import PageWiring.Proofs.Marks
import Mathlib.Data.List.Chain

/-!
Where a trail stands in its page.

`Trail.Tracks` is what every step keeps: the place of the cursor, what has been passed of the tag
that is being read, and that the marks fit and come one behind the other. So what stands at a mark
is the tag as it is written, and the line on which it was read is at least that of its last
character.
-/
namespace PageWiring.Markup

namespace Trail

open Machine (settle)

variable {t : Trail} {cursor : Cursor} {d : Draft} {passed held more : List Char} {c : Char}

/-- The page up to the end of the last mark. -/
def covered (t : Trail) : List Char := (t.marks.head?.map (·.upTo)).getD []

/-- The reading has passed `passed`, and an open reference holds `held` of what follows. -/
structure Placed (t : Trail) (passed held : List Char) : Prop where
  cursor : t.machine.cursor.At t.text (passed ++ held)
  holding : t.machine.draft.Holding held
  stands : t.machine.draft.Stands t.before passed
  covered : t.covered <+: passed
  behind : t.machine.draft.mode.phase ≠ .outside → t.covered <+: t.before
  fresh : t.machine.cursor.again = true → t.covered.length < passed.length
  steady : t.machine.draft.IsSteady →
    t.machine.cursor.again = false ∧ t.machine.cursor.afterReturn = false
  calm : t.machine.draft.mode.phase = .aside → t.machine.cursor.again = false

/-- What every reading keeps. -/
structure Tracks (t : Trail) : Prop where
  sound : t.machine.Sound
  placed : ∃ passed held, t.Placed passed held
  fits : ∀ mark ∈ t.marks, mark.Fits t.text
  ordered : t.marks.IsChain fun later earlier => earlier.upTo <+: later.before

theorem Tracks.found_eq_nil (tracks : t.Tracks) : t.machine.draft.found = [] := by
  simp [Draft.found, tracks.sound.emitted]

/-- A step that has no effect leaves nothing unread, open or found. -/
theorem Tracks.quiet (tracks : t.Tracks) (closed : t.machine.draft.reference = none)
    (same : d.effects = t.machine.draft.effects) :
    d.unread = [] ∧ d.reference = none ∧ d.found = [] := by
  simpa [Draft.effects, tracks.sound.unread, closed, tracks.found_eq_nil] using same

theorem marks_note_of_found (found : d.found = []) :
    (t.note (settle t.machine.events cursor d)).marks = t.marks := by
  rw [marks_note_settle, found]
  rfl

theorem cursor_settle (unread : d.unread = []) (calm : (cursor.again || d.again) = false)
    (events : List Event) : (settle events cursor d).cursor = cursor := by
  have again : cursor.again = false := (Bool.or_eq_false_iff.mp calm).1
  simp only [settle, unread, calm, List.nil_append]
  rw [← again]

/-- A step that finds nothing: where it leads to. -/
theorem Tracks.note {m : Machine} {passed' held' : List Char} (tracks : t.Tracks)
    (placed : t.Placed passed held) (sound : m.Sound) (marks : (t.note m).marks = t.marks)
    (cursor : m.cursor.At t.text (passed' ++ held')) (holding : m.draft.Holding held')
    (stands : m.draft.Stands (t.note m).before passed') (grows : passed <+: passed')
    (behind : m.draft.mode.phase ≠ .outside → t.covered <+: (t.note m).before)
    (fresh : m.cursor.again = true → t.covered.length < passed'.length)
    (steady : m.draft.IsSteady → m.cursor.again = false ∧ m.cursor.afterReturn = false)
    (calm : m.draft.mode.phase = .aside → m.cursor.again = false) : (t.note m).Tracks := by
  have covered : (t.note m).covered = t.covered := by rw [Trail.covered, marks, Trail.covered]
  refine ⟨sound, ⟨passed', held', cursor, holding, stands, ?_, ?_, ?_, steady, calm⟩, ?_, ?_⟩
  · rw [covered]
    exact placed.covered.trans grows
  · rw [covered]
    exact behind
  · rw [covered]
    exact fresh
  · exact marks ▸ tracks.fits
  · exact marks ▸ tracks.ordered

/-- A step that finds nothing and begins nothing. -/
theorem Tracks.glide (tracks : t.Tracks) (placed : t.Placed passed held)
    (sound : (settle t.machine.events cursor d).Sound) (glides : t.machine.draft.Glides d)
    (cursor' : (settle t.machine.events cursor d).cursor.At t.text (passed ++ more ++ held))
    (fresh : (cursor.again || d.again) = true → t.covered.length < (passed ++ more).length)
    (steady : d.reference.isSome = true →
      (cursor.again || d.again) = false ∧ cursor.afterReturn = false)
    (calm : d.mode.phase = .aside → cursor.again = false) :
    (t.note (settle t.machine.events cursor d)).Tracks := by
  obtain ⟨later, begun⟩ :
      (d.mode.phase = .outside ∨ d.mode.phase = .inside ∨ d.mode.phase = .aside) ∧
      (d.mode.phase ≠ .outside → t.machine.draft.mode.phase ≠ .outside) := by
    cases glides with
    | leaves same out => exact ⟨.inl out, fun begun => absurd out begun⟩
    | turns same begun aside calm => exact ⟨.inr (.inr aside), fun _ => begun.1⟩
    | stays same inside still title => exact ⟨.inr (.inl still), fun _ => by simp [inside]⟩
  have found : d.found = [] :=
    (Prod.mk.inj (Prod.mk.inj glides.effects_eq).2).2.trans tracks.found_eq_nil
  have before : (t.note (settle t.machine.events cursor d)).before = t.before := by
    refine before_note (show d.mode.phase ≠ .opening from ?_)
    rcases later with phase | phase | phase <;> simp [phase]
  have holding : d.Holding held := placed.holding.glide glides
  have stands : d.Stands t.before (passed ++ more) := placed.stands.glide glides more
  refine tracks.note placed sound (marks_note_of_found found) cursor' holding (before ▸ stands)
    (List.prefix_append passed more) ?_ fresh ?_ ?_
  · rw [before]
    exact fun begun' => placed.behind (begun begun')
  · rintro (opened | phase)
    · exact steady opened
    · have : ¬ (d.mode.phase = .opening ∨ d.mode.phase = .closing ∨ d.mode.phase = .naming) := by
        rcases later with phase | phase | phase <;> simp [phase]
      exact absurd phase this
  · intro aside
    have aside : d.mode.phase = .aside := aside
    show (cursor.again || d.again) = false
    rw [calm aside]
    cases glides with
    | leaves same out => simp [out] at aside
    | turns same begun aside calm => exact calm.trans tracks.sound.again
    | stays same inside still title => simp [still] at aside

/-- A tag or a comment is found, and with it the reading leaves it. -/
theorem Tracks.finds {kind : EventKind} (tracks : t.Tracks) (placed : t.Placed passed held)
    (sound : (settle t.machine.events cursor d).Sound)
    (cursor' : cursor.At t.text (passed ++ more))
    (begun : t.machine.draft.mode.phase ≠ .outside) (out : d.mode.phase = .outside)
    (spans : kind.Spans t.before (passed ++ more)) (calm : (cursor.again || d.again) = false)
    (finds : d.effects = ([], none, [kind])) :
    (t.note (settle t.machine.events cursor d)).Tracks := by
  obtain ⟨unread, reference, found⟩ : d.unread = [] ∧ d.reference = none ∧ d.found = [kind] := by
    simpa [Draft.effects] using finds
  have marks : (t.note (settle t.machine.events cursor d)).marks =
      ⟨⟨kind, cursor.line⟩, t.before, passed ++ more⟩ :: t.marks := by
    rw [marks_note_settle, found, unread, List.nil_append, cursor'.take_text]
    rfl
  have settled := cursor_settle unread calm t.machine.events
  refine ⟨sound, ⟨passed ++ more, [], ?_, Draft.holding_nil reference,
    Draft.stands_of_outside out _ _, ?_, fun begun' => absurd out begun', ?_, ?_, ?_⟩, ?_, ?_⟩
  · show (settle t.machine.events cursor d).cursor.At t.text _
    rw [settled, List.append_nil]
    exact cursor'
  · rw [covered, marks]
    exact List.prefix_refl _
  · intro again
    have : (cursor.again || d.again) = true := again
    rw [calm] at this
    cases this
  · exact fun steady => absurd steady (Draft.not_isSteady reference (.inl out))
  · exact fun aside => absurd (out.symm.trans aside) (by decide)
  · rw [marks]
    intro mark member
    rcases List.mem_cons.mp member with rfl | earlier
    · have line : 1 + (passed ++ more).count '\n' ≤ cursor.line :=
        Nat.le_trans (Nat.le_add_right _ _) cursor'.line
      exact ⟨cursor'.isPrefix, spans, line⟩
    · exact tracks.fits mark earlier
  · rw [marks]
    have covered := placed.behind begun
    unfold Trail.covered at covered
    have ordered := tracks.ordered
    cases last : t.marks with
    | nil => exact .singleton _
    | cons mark rest =>
      rw [last] at covered ordered
      exact .cons_cons covered ordered

/-! ### Characters outside references -/

theorem Placed.longer (placed : t.Placed passed held)
    (takes : t.machine.cursor.Takes t.text passed c cursor more) :
    t.covered.length < (passed ++ more).length := by
  have within := placed.covered.length_le
  rw [List.length_append]
  rcases takes.grows with again | grows
  · have := placed.fresh again
    omega
  · have := List.length_pos_iff.mpr grows
    omega

/-- In the phases of its beginning, a tag goes on with the next character of the page. -/
theorem Placed.goesOn (placed : t.Placed passed held)
    (takes : t.machine.cursor.Takes t.text passed c cursor more)
    (steady : t.machine.draft.IsSteady) : ∃ raw, more = [raw] ∧ Shows raw c :=
  (placed.steady steady).elim takes.single

/-- The page before the `<` of the tag, and what has been passed of it, with one more character. -/
theorem Placed.advance (placed : t.Placed passed [])
    (takes : t.machine.cursor.Takes t.text passed c cursor more)
    (settled : (settle t.machine.events cursor d).cursor = cursor) (plain : c ≠ '\n')
    (advances : t.machine.draft.Advances c d) :
    d.Stands (t.note (settle t.machine.events cursor d)).before (passed ++ more) ∧
      t.covered <+: (t.note (settle t.machine.events cursor d)).before := by
  have next (steady : t.machine.draft.IsSteady) : more = [c] := by
    obtain ⟨raw, same, shows⟩ := placed.goesOn takes steady
    rw [same, shows.eq_of_ne plain]
  have kept (elsewhere : d.mode.phase ≠ .opening)
      (begun : t.machine.draft.mode.phase ≠ .outside) :
      (t.note (settle t.machine.events cursor d)).before = t.before ∧ t.covered <+: t.before :=
    ⟨before_note elsewhere, placed.behind begun⟩
  have stands := placed.stands
  unfold Draft.Stands at stands ⊢
  cases advances with
  | opens less before behind =>
    obtain ⟨lead, raw, last, shows⟩ := takes.last
    have isLess : raw = '<' := (shows.eq_of_ne plain).trans less
    have here : (t.note (settle t.machine.events cursor d)).before = lead := by
      have start : t.text.take (t.text.length - cursor.input.length - 1) = lead :=
        Cursor.At.take_pred (last ▸ takes.placed)
      rw [← start]
      simp only [Trail.note, settled]
      exact if_pos behind
    rw [behind, here, last, isLess]
    refine ⟨rfl, ?_⟩
    have within : t.covered <+: lead ++ [raw] :=
      last ▸ placed.covered.trans (List.prefix_append passed more)
    refine (List.prefix_concat_iff.mp within).resolve_left fun whole => ?_
    have longer := placed.longer takes
    rw [last, whole] at longer
    exact Nat.lt_irrefl _ longer
  | slash slash before behind =>
    obtain ⟨same, covered⟩ := kept (by simp [behind]) (by simp [before])
    rw [before] at stands
    rw [behind, same, next (.inr (.inl before)), stands, slash]
    exact ⟨by simp, covered⟩
  | letter before behind name =>
    have steady : t.machine.draft.IsSteady := by
      split at before
      · exact .inr (.inr (.inl before))
      · exact .inr (.inl before)
    have reached : passed = t.before ++ '<' :: d.slash := by
      rw [before] at stands
      unfold Draft.slash
      cases isEnd : d.isEndTag <;> rw [isEnd] at stands <;> exact stands
    obtain ⟨same, covered⟩ := kept (by simp [behind]) (by rw [before]; split <;> simp)
    rw [behind, same, next steady]
    exact ⟨⟨[c], by simp [reached], name.symm⟩, covered⟩
  | spells before behind sameKind name =>
    obtain ⟨same, covered⟩ := kept (by simp [behind]) (by simp [before])
    rw [before] at stands
    obtain ⟨spelled, rfl, named⟩ := stands
    rw [behind, same, next (.inr (.inr (.inr before)))]
    refine ⟨⟨spelled ++ [c], ?_, by rw [name, ← named]; simp⟩, covered⟩
    simp [Draft.slash, sameKind]

/-- The end of a tag's name. -/
theorem Placed.named (placed : t.Placed passed [])
    (takes : t.machine.cursor.Takes t.text passed c cursor more) (ends : endsTagName [c] = true)
    (before : t.machine.draft.mode.phase = .naming) (behind : d.mode.phase = .inside)
    (title : d.title = t.machine.draft.title) : d.Stands t.before (passed ++ more) := by
  obtain ⟨isEndTag, name⟩ : d.isEndTag = t.machine.draft.isEndTag ∧
      d.tagName = t.machine.draft.tagName := Prod.mk.inj title
  have stands := placed.stands
  unfold Draft.Stands at stands ⊢
  rw [before] at stands
  rw [behind]
  obtain ⟨spelled, rfl, spelling⟩ := stands
  obtain ⟨raw, rfl, shows⟩ := placed.goesOn takes (.inr (.inr (.inr before)))
  refine ⟨spelled, raw, [], ?_, by rw [spelling, name], ?_⟩
  · simp [Draft.slash, isEndTag]
  · rcases shows with rfl | ⟨rfl, -⟩
    · exact ends
    · decide

/-- Where the cursor is behind a character, whether or not that is to be read again. -/
theorem at_settle_of_takes (takes : t.machine.cursor.Takes t.text passed c cursor more)
    (unread : d.unread = []) (events : List Event) :
    (settle events cursor d).cursor.At t.text (passed ++ more ++ []) := by
  have retried := takes.retry (cursor.again || d.again)
  rw [List.append_nil]
  simpa only [settle, unread, List.nil_append] using retried

/-- A character that the step does not ask for again. -/
theorem Tracks.cursor_settle_of_takes (tracks : t.Tracks)
    (takes : t.machine.cursor.Takes t.text passed c cursor more) (unread : d.unread = [])
    (calm : d.again = t.machine.draft.again) :
    (cursor.again || d.again) = false ∧ (settle t.machine.events cursor d).cursor = cursor := by
  have again : (cursor.again || d.again) = false := by
    rw [takes.again, calm, tracks.sound.again]
    rfl
  exact ⟨again, cursor_settle unread again _⟩

/-- A tag begins, or goes on up to the last letter of its name. -/
theorem Tracks.advance (tracks : t.Tracks) (placed : t.Placed passed [])
    (takes : t.machine.cursor.Takes t.text passed c cursor more)
    (closed : t.machine.draft.reference = none)
    (sound : (settle t.machine.events cursor d).Sound)
    (same : d.effects = t.machine.draft.effects) (calm : d.again = t.machine.draft.again)
    (plain : c ≠ '\n') (advances : t.machine.draft.Advances c d) :
    (t.note (settle t.machine.events cursor d)).Tracks := by
  obtain ⟨unread, reference, found⟩ := tracks.quiet closed same
  obtain ⟨-, still⟩ := tracks.cursor_settle_of_takes takes unread calm
  obtain ⟨stands, behind⟩ := placed.advance takes still plain advances
  refine tracks.note placed sound (marks_note_of_found found) (at_settle_of_takes takes unread _)
    (Draft.holding_nil reference) stands (List.prefix_append passed more) (fun _ => behind)
    (fun _ => placed.longer takes) ?_ ?_
  · rw [still]
    exact fun _ => ⟨takes.again, takes.settled plain⟩
  · rw [still]
    exact fun _ => takes.again

/-- The name of a tag ends, and the tag goes on. -/
theorem Tracks.named (tracks : t.Tracks) (placed : t.Placed passed [])
    (takes : t.machine.cursor.Takes t.text passed c cursor more)
    (closed : t.machine.draft.reference = none)
    (sound : (settle t.machine.events cursor d).Sound)
    (same : d.effects = t.machine.draft.effects) (ends : endsTagName [c] = true)
    (before : t.machine.draft.mode.phase = .naming) (behind : d.mode.phase = .inside)
    (title : d.title = t.machine.draft.title) :
    (t.note (settle t.machine.events cursor d)).Tracks := by
  obtain ⟨unread, reference, found⟩ := tracks.quiet closed same
  have stands := placed.named takes ends before behind title
  have kept : (t.note (settle t.machine.events cursor d)).before = t.before :=
    before_note (by simp [settle, behind])
  refine tracks.note placed sound (marks_note_of_found found) (at_settle_of_takes takes unread _)
    (Draft.holding_nil reference) (kept ▸ stands) (List.prefix_append passed more) ?_
    (fun _ => placed.longer takes) ?_ ?_
  · rw [kept]
    exact fun _ => placed.behind (by simp [before])
  · exact fun steady => absurd steady (Draft.not_isSteady reference (.inr (.inl behind)))
  · exact fun aside => absurd (behind.symm.trans aside) (by decide)

/-- A reference begins at an ampersand. -/
theorem Tracks.startReference {around : Option Char} (tracks : t.Tracks)
    (placed : t.Placed passed []) (takes : t.machine.cursor.Takes t.text passed c cursor more)
    (sound : (settle t.machine.events cursor (t.machine.draft.startReference around)).Sound)
    (ampersand : c = '&')
    (phase : t.machine.draft.mode.phase = .outside ∨ t.machine.draft.mode.phase = .inside) :
    (t.note (settle t.machine.events cursor (t.machine.draft.startReference around))).Tracks := by
  have plain : c ≠ '\n' := by
    rw [ampersand]
    decide
  have found : (t.machine.draft.startReference around).found = [] := tracks.found_eq_nil
  obtain ⟨-, still⟩ := tracks.cursor_settle_of_takes
    (d := t.machine.draft.startReference around) takes tracks.sound.unread rfl
  have kept : (t.note (settle t.machine.events cursor
      (t.machine.draft.startReference around))).before = t.before := by
    refine before_note (show t.machine.draft.mode.phase ≠ .opening from ?_)
    rcases phase with phase | phase <;> simp [phase]
  have stands := placed.stands.append (phase.imp_right .inl) more
  have holding : (t.machine.draft.startReference around).Holding [] :=
    (Draft.holding_iff_of_open (r := { around := around }) rfl).mpr ⟨⟨rfl, rfl, rfl⟩, phase⟩
  have cursor' := at_settle_of_takes (d := t.machine.draft.startReference around) takes
    tracks.sound.unread t.machine.events
  refine tracks.note placed sound (marks_note_of_found found) cursor' holding (kept ▸ stands)
    (List.prefix_append passed more) (kept ▸ placed.behind) (fun _ => placed.longer takes) ?_ ?_
  · rw [still]
    exact fun _ => ⟨takes.again, takes.settled plain⟩
  · rw [still]
    exact fun _ => takes.again

/-- A character that is read where no reference is open. -/
theorem Tracks.shift (tracks : t.Tracks) (closed : t.machine.draft.reference = none)
    (read : t.machine.cursor.next = (some c, cursor))
    (shifts : t.machine.draft.Shifts c d) (sound : (settle t.machine.events cursor d).Sound) :
    (t.note (settle t.machine.events cursor d)).Tracks := by
  obtain ⟨passed, held, placed⟩ := tracks.placed
  obtain rfl := placed.holding.eq_nil closed
  obtain ⟨more, takes⟩ := Cursor.At.next (List.append_nil passed ▸ placed.cursor) read
  cases shifts with
  | glides glides =>
    obtain ⟨unread, reference, -⟩ := tracks.quiet closed glides.effects_eq
    refine tracks.glide placed sound glides (at_settle_of_takes takes unread _)
      (fun _ => placed.longer takes) ?_ fun _ => takes.again
    simp [reference]
  | advances same calm plain advances =>
    exact tracks.advance placed takes closed sound same calm plain advances
  | named same ends before behind title =>
    exact tracks.named placed takes closed sound same ends before behind title
  | tag closing begun out names calm finds =>
    rw [tracks.sound.unread, closed, tracks.found_eq_nil] at finds
    obtain ⟨again, -⟩ := tracks.cursor_settle_of_takes takes (Prod.mk.inj finds).1 calm
    refine tracks.finds placed sound takes.placed ?_ out (placed.stands.spans names ?_) again finds
    · rcases begun with phase | phase <;> simp [phase]
    · refine begun.imp_left fun naming => ⟨naming, ?_⟩
      obtain ⟨raw, rfl, shows⟩ := placed.goesOn takes (.inr (.inr (.inr naming)))
      rw [shows.eq_of_ne (by rw [closing]; decide), closing]
  | comment begun out calm finds =>
    rw [tracks.sound.unread, closed, tracks.found_eq_nil] at finds
    obtain ⟨again, -⟩ := tracks.cursor_settle_of_takes takes (Prod.mk.inj finds).1 calm
    have begun' : t.machine.draft.mode.phase ≠ .outside := by simp [begun]
    have spans : EventKind.comment.Spans t.before (passed ++ more) :=
      (placed.stands.isPrefix begun').trans (List.prefix_append passed more)
    exact tracks.finds placed sound takes.placed begun' out spans again finds
  | reference around ampersand phase =>
    exact tracks.startReference placed takes sound ampersand phase

/-! ### Characters of references -/

/-- A step inside a reference, after which it holds `held'` or has given back the end of that. -/
theorem Tracks.proceed {held' : List Char} {r : Reference} (tracks : t.Tracks)
    (placed : t.Placed passed held) (opened : t.machine.draft.reference = some r)
    (sound : (settle t.machine.events cursor d).Sound)
    (cursor' : cursor.At t.text (passed ++ held')) (fresh : cursor.again = false)
    (proceeds : t.machine.draft.Proceeds held' d) (found : d.found = t.machine.draft.found)
    (settled : d.reference.isSome = true → cursor.afterReturn = false) :
    (t.note (settle t.machine.events cursor d)).Tracks := by
  obtain ⟨-, phase⟩ := (Draft.holding_iff_of_open opened).mp placed.holding
  have marks : (t.note (settle t.machine.events cursor d)).marks = t.marks :=
    marks_note_of_found (found.trans tracks.found_eq_nil)
  have kept (same : d.mode = t.machine.draft.mode) :
      (t.note (settle t.machine.events cursor d)).before = t.before := by
    refine before_note (show d.mode.phase ≠ .opening from ?_)
    rw [same]
    rcases phase with phase | phase <;> simp [phase]
  have notAside : t.machine.draft.mode.phase ≠ .aside := by
    rcases phase with phase | phase <;> simp [phase]
  rcases proceeds with ⟨r', rfl, keeps⟩ | ⟨lead, back, given, rfl, shown, -, value, emitted, rfl⟩
  · have still := cursor_settle (d := t.machine.draft.setReference r') tracks.sound.unread
      (by rw [fresh]; exact tracks.sound.again) t.machine.events
    have cursor' : (settle t.machine.events cursor
        (t.machine.draft.setReference r')).cursor.At t.text (passed ++ held') := by
      rw [still]
      exact cursor'
    have holding : (t.machine.draft.setReference r').Holding held' :=
      (Draft.holding_iff_of_open rfl).mpr ⟨keeps, phase⟩
    refine tracks.note placed sound marks cursor' holding (kept rfl ▸ placed.stands)
      (List.prefix_refl passed) (kept rfl ▸ placed.behind) ?_ ?_ ?_
    · simp [still, fresh]
    · rw [still]
      exact fun _ => ⟨fresh, settled rfl⟩
    · exact fun aside => absurd aside notAside
  · have read : cursor.At t.text (passed ++ lead ++ back) := by rwa [List.append_assoc]
    have left := read.giveBack fresh shown
    have stands := placed.stands.append (phase.imp_right .inl) lead
    have again : (cursor.again || t.machine.draft.again) = false := by
      rw [fresh, tracks.sound.again]
      rfl
    have settled : (settle t.machine.events cursor { t.machine.draft with
        reference := none
        unread := given ++ t.machine.draft.unread
        attributeValue := value
        emitted := emitted }).cursor.At t.text (passed ++ lead ++ []) := by
      simpa [settle, tracks.sound.unread, tracks.sound.again] using left
    refine tracks.note placed sound marks settled (Draft.holding_nil rfl) (kept rfl ▸ stands)
      (List.prefix_append passed lead) (kept rfl ▸ placed.behind) ?_ ?_ ?_
    · exact fun retried => absurd (retried.symm.trans again) (by decide)
    · exact fun steady => absurd steady (Draft.not_isSteady rfl (phase.imp_right .inl))
    · exact fun aside => absurd aside notAside

theorem Tracks.reference_next {r : Reference} {f : Draft → Char → Draft} (tracks : t.Tracks)
    (opened : t.machine.draft.reference = some r) (taken : r.intake = .next f)
    (read : t.machine.cursor.next = (some c, cursor))
    (sound : (settle t.machine.events cursor (f t.machine.draft c)).Sound) :
    (t.note (settle t.machine.events cursor (f t.machine.draft c))).Tracks := by
  obtain ⟨passed, held, placed⟩ := tracks.placed
  obtain ⟨keeps, -⟩ := (Draft.holding_iff_of_open opened).mp placed.holding
  obtain ⟨more, takes⟩ := placed.cursor.next read
  obtain ⟨raw, rfl, shows⟩ := (placed.steady (.inl (by rw [opened]; rfl))).elim takes.single
  obtain ⟨proceeds, plain⟩ := Draft.proceeds_next (d := t.machine.draft) keeps taken shows
  exact tracks.proceed placed opened sound (by simpa using takes.placed) takes.again proceeds
    (Draft.found_next taken) fun still => takes.settled (plain still)

theorem Tracks.reference_peek {r : Reference} {f : Draft → Char → Draft × Bool}
    (tracks : t.Tracks) (opened : t.machine.draft.reference = some r)
    (taken : r.intake = .peek f) (seen : t.machine.cursor.peek = some c)
    (sound : (settle t.machine.events
      (if (f t.machine.draft c).2 then t.machine.cursor.discard else t.machine.cursor)
      (f t.machine.draft c).1).Sound) :
    (t.note (settle t.machine.events
      (if (f t.machine.draft c).2 then t.machine.cursor.discard else t.machine.cursor)
      (f t.machine.draft c).1)).Tracks := by
  obtain ⟨passed, held, placed⟩ := tracks.placed
  obtain ⟨keeps, -⟩ := (Draft.holding_iff_of_open opened).mp placed.holding
  obtain ⟨fresh, settled⟩ := placed.steady (.inl (by rw [opened]; rfl))
  have proceeds := Draft.proceeds_peek (d := t.machine.draft) (c := c) keeps taken
  have found := Draft.found_peek (d := t.machine.draft) (c := c) taken
  by_cases used : (f t.machine.draft c).2 = true
  · rw [if_pos used] at sound proceeds ⊢
    -- A character that is used up is no end of a line, so it is seen as it is written.
    have fits := (Draft.reference_peek (tracks.sound.reference r opened).1 taken _ c).1 used
    have plain : c ≠ '\n' ∧ c ≠ '\r' := by
      constructor
      all_goals
        rintro rfl
        revert fits
        decide
    have read := Cursor.next_of_peek seen (.inl settled)
    rw [if_neg fun isReturn => plain.2 isReturn.2] at read
    obtain ⟨more, takes⟩ := placed.cursor.next read
    obtain ⟨raw, rfl, shows⟩ := takes.single fresh settled
    obtain rfl := shows.eq_of_ne plain.1
    exact tracks.proceed placed opened sound (by simpa using takes.placed) takes.again proceeds
      found fun _ => takes.settled plain.1
  · rw [if_neg used] at sound ⊢
    rw [if_neg used, List.append_nil] at proceeds
    exact tracks.proceed placed opened sound placed.cursor fresh proceeds found fun _ => settled

/-! ### A whole reading -/

/-- A step that asks for nothing, and at which nothing is begun or found. -/
theorem Tracks.glide_calm (tracks : t.Tracks) (placed : t.Placed passed [])
    (closed : t.machine.draft.reference = none)
    (sound : (settle t.machine.events cursor d).Sound) (glides : t.machine.draft.Glides d)
    (same : d.requests = t.machine.draft.requests) (fresh : cursor.again = false)
    (cursor' : cursor.At t.text (passed ++ more)) :
    (t.note (settle t.machine.events cursor d)).Tracks := by
  obtain ⟨again, unread, reference⟩ : d.again = false ∧ d.unread = [] ∧ d.reference = none := by
    simpa [Draft.requests, tracks.sound.again, tracks.sound.unread, closed] using same
  have calm : (cursor.again || d.again) = false := by
    rw [fresh, again]
    rfl
  have settled : (settle t.machine.events cursor d).cursor.At t.text (passed ++ more ++ []) := by
    rw [cursor_settle unread calm, List.append_nil]
    exact cursor'
  refine tracks.glide placed sound glides settled ?_ ?_ fun _ => fresh
  · simp [calm]
  · simp [reference]

/-- The words that are looked for lead into comments and document types. -/
theorem glides_word {d : Draft} {letters : List Char} {mode : Mode}
    (listed : (letters, d.mode, mode) ∈ words) : d.Glides (d.enter mode) := by
  simp only [words, List.mem_cons, Prod.mk.injEq, List.not_mem_nil, or_false] at listed
  rcases listed with ⟨-, before, rfl⟩ | ⟨-, before, rfl⟩ | ⟨-, before, rfl⟩ | ⟨-, before, rfl⟩
  · exact .turns rfl (by simp [before, Mode.phase]) rfl rfl
  · exact .leaves rfl rfl
  · exact .leaves rfl rfl
  · exact .leaves rfl rfl

theorem Tracks.move (tracks : t.Tracks) (moves : t.machine.Moves cursor d) :
    (t.note (settle t.machine.events cursor d)).Tracks := by
  have sound := (moves.progress tracks.sound).sound
  obtain ⟨passed, held, placed⟩ := tracks.placed
  have here (closed : t.machine.draft.reference = none) :
      t.Placed passed [] ∧ t.machine.cursor.At t.text passed := by
    obtain rfl := placed.holding.eq_nil closed
    exact ⟨placed, by simpa using placed.cursor⟩
  have fresh (patient : t.machine.draft.mode.patience = 1) : t.machine.cursor.again = false := by
    by_contra retried
    have := tracks.sound.retried (by simpa using retried)
    omega
  cases moves with
  | next taken read =>
    obtain ⟨closed, taken⟩ | ⟨r, opened, taken⟩ := Draft.intake_cases taken
    · exact tracks.shift closed read (Draft.shifts_next taken _) sound
    · exact tracks.reference_next opened taken read sound
  | special taken read =>
    obtain ⟨closed, taken⟩ | ⟨r, opened, taken⟩ := Draft.intake_cases taken
    · exact tracks.shift closed read (Draft.shifts_text taken _).1 sound
    · cases mode : r.mode <;> simp [Reference.intake, mode] at taken
  | @plain isSpecial plain special c rest taken settled input ordinary =>
    obtain ⟨closed, taken⟩ | ⟨r, opened, taken⟩ := Draft.intake_cases taken
    · obtain ⟨-, same, -, -, isBreak, -⟩ := Draft.reaction_text taken c
      have solid : c ≠ '\n' := by
        rintro rfl
        exact absurd (isBreak.symm.trans ordinary) (by decide)
      obtain ⟨placed, cursor⟩ := here closed
      exact tracks.glide_calm placed closed sound (Draft.shifts_text taken c).2 same settled.1
        (cursor.plain settled.1 input solid)
    · cases mode : r.mode <;> simp [Reference.intake, mode] at taken
  | @peek f c taken seen =>
    obtain ⟨closed, taken⟩ | ⟨r, opened, taken⟩ := Draft.intake_cases taken
    · obtain ⟨placed, cursor⟩ := here closed
      have same := (Draft.reaction_peek taken c).1
      rcases Draft.shifts_peek taken c with glides | ⟨used, rfl, shifts⟩
      · obtain ⟨more, cursor'⟩ : ∃ more, (if (f t.machine.draft c).2 then t.machine.cursor.discard
            else t.machine.cursor).At t.text (passed ++ more) := by
          split
          · exact cursor.discard
          · exact ⟨[], by simpa using cursor⟩
        refine tracks.glide_calm placed closed sound glides same ?_ cursor'
        split
        · exact (Cursor.discard_pending seen).1
        · exact fresh (by rw [(Draft.mode_of_intake_peek taken).1]; rfl)
      · rw [if_pos used] at sound ⊢
        have read := Cursor.next_of_peek seen (.inr (by decide))
        exact tracks.shift closed (by simpa using read) shifts sound
    · exact tracks.reference_peek opened taken seen sound
  | word closed read listed =>
    obtain ⟨placed, cursor⟩ := here closed
    have plain := (words_plain _ listed).2 '\n' (by decide)
    obtain ⟨more, cursor'⟩ := cursor.eatWord plain read
    exact tracks.glide_calm placed closed sound (glides_word listed) rfl
      (Cursor.eatWord_pending (words_plain _ listed).1 read).1 cursor'
  | declaration taken =>
    obtain ⟨closed, mode⟩ := Machine.mode_of_intake_word.1 taken
    obtain ⟨placed, cursor⟩ := here closed
    have cursor' : t.machine.cursor.At t.text (passed ++ []) := by simpa using cursor
    exact tracks.glide_calm placed closed sound
      (.turns rfl (by simp [mode, Mode.phase]) rfl rfl) rfl (fresh (by rw [mode]; rfl)) cursor'
  | @doctype c cursor taken read =>
    obtain ⟨closed, mode⟩ := Machine.mode_of_intake_word.2 taken
    obtain ⟨placed, start⟩ := here closed
    obtain ⟨skipped, beyond⟩ := start.forgetReturn
    obtain ⟨more, takes⟩ := beyond.next read
    exact tracks.glide_calm placed closed sound
      (Draft.glides_afterDoctypeNameStep (by rw [mode]; rfl) c)
      (t.machine.draft.afterDoctypeNameStep_effects c).1 takes.again
      (List.append_assoc passed skipped more ▸ takes.placed)

/-- The place of the last `<` is noted once. -/
theorem Placed.before_note (placed : t.Placed passed held) :
    (t.note t.machine).before = t.before := by
  by_cases opening : t.machine.draft.mode.phase = .opening
  · have closed := placed.holding.closed (by simp [opening])
    obtain rfl := placed.holding.eq_nil closed
    have stands := placed.stands
    unfold Draft.Stands at stands
    rw [opening] at stands
    have cursor := placed.cursor
    rw [List.append_nil, stands] at cursor
    simp only [Trail.note, opening, if_true]
    exact cursor.take_pred
  · exact Trail.before_note opening

theorem Tracks.self (tracks : t.Tracks) : (t.note t.machine).Tracks := by
  obtain ⟨passed, held, placed⟩ := tracks.placed
  have kept := placed.before_note
  exact tracks.note placed tracks.sound (marks_note_of_events rfl) placed.cursor placed.holding
    (kept ▸ placed.stands) (List.prefix_refl passed) (kept ▸ placed.behind) placed.fresh
    placed.steady placed.calm

theorem Tracks.stop {m : Machine} (tracks : t.Tracks)
    (stopped : t.machine.step = (m, false)) : (t.note m).Tracks := by
  have stops := Machine.stops_of_step stopped
  by_cases settled : t.machine.cursor.afterReturn = false
  · rw [stops.settled settled]
    exact tracks.self
  · obtain ⟨passed, held, placed⟩ := tracks.placed
    have loose : ¬ t.machine.draft.IsSteady := fun steady => settled (placed.steady steady).2
    have closed : t.machine.draft.reference = none := by
      simpa using fun opened => loose (.inl opened)
    have later : t.machine.draft.mode.phase = .outside ∨ t.machine.draft.mode.phase = .inside ∨
        t.machine.draft.mode.phase = .aside := by
      cases phase : t.machine.draft.mode.phase with
      | outside | inside | aside => simp
      | opening | closing | naming => exact absurd (by simp [Draft.IsSteady, phase]) loose
    obtain rfl := placed.holding.eq_nil closed
    obtain ⟨more, cursor⟩ := Cursor.At.stop (List.append_nil passed ▸ placed.cursor) stopped
    have kept : (t.note m).before = t.before := by
      refine Trail.before_note ?_
      rw [stops.draft]
      rcases later with phase | phase | phase <;> simp [phase]
    have stands := placed.stands.append later more
    have cursor' : m.cursor.At t.text (passed ++ more ++ []) := by rwa [List.append_nil]
    refine tracks.note placed (stops.sound tracks.sound) (marks_note_of_events stops.events) cursor'
      (by rw [stops.draft]; exact placed.holding) (by rw [kept, stops.draft]; exact stands)
      (List.prefix_append passed more) (by rw [kept, stops.draft]; exact placed.behind) ?_ ?_ ?_
    · simp [stops.again]
    · rw [stops.draft]
      exact fun steady => absurd steady loose
    · exact fun _ => stops.again

theorem settle_draft {m : Machine} (sound : m.Sound) : settle m.events m.cursor m.draft = m := by
  obtain ⟨emitted, again, unread, -, -⟩ := sound
  obtain ⟨cursor, draft, events⟩ := m
  cases draft
  cases cursor
  simp_all [settle]

/-- The page ends inside a reference, or where none is open. -/
theorem Tracks.endReference (tracks : t.Tracks) : (t.atEnd Draft.endReference).Tracks := by
  obtain ⟨passed, held, placed⟩ := tracks.placed
  cases opened : t.machine.draft.reference with
  | none =>
    have same : t.machine.draft.endReference = t.machine.draft := by
      simp [Draft.endReference, opened]
    rw [atEnd, Machine.atEnd, same, settle_draft tracks.sound]
    exact tracks.self
  | some r =>
    have sound := (Machine.sound_atEnd tracks.sound (.inl rfl)).1
    obtain ⟨keeps, -⟩ := (Draft.holding_iff_of_open opened).mp placed.holding
    obtain ⟨fresh, settled⟩ := placed.steady (.inl (by rw [opened]; rfl))
    exact tracks.proceed placed opened sound placed.cursor fresh
      (.inr (Draft.yields_endReference opened keeps)) (Draft.found_endReference _)
      fun _ => settled

/-- Once a tag has begun, no character is to be read again up to the end of its name, nor where it
turns out to be none. -/
theorem Placed.again_eq_false (placed : t.Placed passed held)
    (begun : t.machine.draft.mode.phase ≠ .outside ∧ t.machine.draft.mode.phase ≠ .inside) :
    t.machine.cursor.again = false := by
  cases phase : t.machine.draft.mode.phase with
  | outside | inside => simp [phase] at begun
  | aside => exact placed.calm phase
  | opening | closing | naming => exact (placed.steady (by simp [Draft.IsSteady, phase])).1

theorem Tracks.endStep (tracks : t.Tracks) : (t.atEnd Draft.endStep).Tracks := by
  have sound := (Machine.sound_atEnd tracks.sound (.inr rfl)).1
  obtain ⟨passed, held, placed⟩ := tracks.placed
  obtain ⟨calm, glides | ⟨aside, out, finds⟩⟩ := t.machine.draft.glides_endStep
  · have again : t.machine.draft.endStep.again = false := calm.trans tracks.sound.again
    obtain ⟨unread, reference, -⟩ : t.machine.draft.endStep.unread = [] ∧
        t.machine.draft.endStep.reference = t.machine.draft.reference ∧ _ := by
      simpa [Draft.effects, tracks.sound.unread] using glides.effects_eq
    have cursor' : (t.machine.atEnd Draft.endStep).cursor.At t.text (passed ++ [] ++ held) := by
      simpa [Machine.atEnd, settle, unread, again] using placed.cursor
    refine tracks.glide placed sound glides cursor' ?_ ?_ ?_
    · rw [again, Bool.or_false, List.append_nil]
      exact placed.fresh
    · rw [again, Bool.or_false, reference]
      exact fun opened => placed.steady (.inl opened)
    · intro aside
      cases glides with
      | leaves same out => simp [out] at aside
      | stays same inside still title => simp [still] at aside
      | turns same begun aside calm => exact placed.again_eq_false begun
  · have begun : t.machine.draft.mode.phase ≠ .outside := by simp [aside]
    have closed := placed.holding.closed (by simp [aside])
    obtain rfl := placed.holding.eq_nil closed
    have again : (t.machine.cursor.again || t.machine.draft.endStep.again) = false := by
      rw [placed.calm aside, calm, tracks.sound.again]
      rfl
    have spans : EventKind.comment.Spans t.before (passed ++ []) := by
      rw [List.append_nil]
      exact placed.stands.isPrefix begun
    refine tracks.finds placed sound placed.cursor begun out spans again ?_
    rw [finds, tracks.sound.unread, closed, tracks.found_eq_nil]

theorem tracks_start (text : List Char) : (start text).Tracks := by
  obtain ⟨lead, whole, plain⟩ : ∃ lead, text = lead ++ Text.withoutMark text ∧ '\n' ∉ lead := by
    unfold Text.withoutMark
    split
    · exact ⟨['\ufeff'], rfl, by decide⟩
    · exact ⟨[], rfl, by simp⟩
  refine ⟨Machine.sound_start text, ⟨lead, [], ⟨⟨_, ?_, forall₂_shows_refl _⟩, ?_, nofun⟩,
    Draft.holding_nil rfl, Draft.stands_of_outside rfl _ _, List.nil_prefix, nofun, nofun, ?_,
    nofun⟩, nofun, .nil⟩
  · rw [List.append_nil]
    exact whole
  · rw [List.append_nil, List.count_eq_zero_of_not_mem plain]
    exact Nat.le_refl _
  · exact fun steady => absurd steady (Draft.not_isSteady rfl (.inl rfl))

end Trail

/-- The marks of a page are those of a trail through it. -/
theorem exists_marks_eq (text : List Char) :
    ∃ t : Trail, t.Tracks ∧ t.text = text ∧ marks text = t.marks.reverse := by
  have kept : ((Trail.start text).finish (Machine.stepLimit text)).Tracks ∧
      ((Trail.start text).finish (Machine.stepLimit text)).text = text := by
    refine Trail.finish_keeps (P := fun t => t.Tracks ∧ t.text = text) ?_ ?_ ?_ _
      ⟨Trail.tracks_start text, rfl⟩
    · exact fun ⟨tracks, same⟩ moves => ⟨tracks.move moves, same⟩
    · exact fun ⟨tracks, same⟩ stopped => ⟨tracks.stop stopped, same⟩
    · rintro t f ⟨tracks, same⟩ (rfl | rfl)
      · exact ⟨tracks.endReference, same⟩
      · exact ⟨tracks.endStep, same⟩
  exact ⟨_, kept.1, kept.2, rfl⟩

theorem fits_of_mem_marks {text : List Char} {mark : Mark} (member : mark ∈ marks text) :
    mark.Fits text := by
  obtain ⟨t, tracks, rfl, same⟩ := exists_marks_eq text
  rw [same] at member
  exact tracks.fits mark (List.mem_reverse.mp member)

/-- Every mark begins where the one before it has ended, or later. -/
theorem isChain_marks (text : List Char) :
    (marks text).IsChain fun earlier later => earlier.upTo <+: later.before := by
  obtain ⟨t, tracks, -, same⟩ := exists_marks_eq text
  rw [same, List.isChain_reverse]
  exact tracks.ordered

end PageWiring.Markup
