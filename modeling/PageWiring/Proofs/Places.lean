import PageWiring.Proofs.Phases
import Mathlib.Data.List.Forall2

/-!
Where a cursor stands in the text of a page.

`Cursor.At` says which part of the text has been passed. What is left of the text is the page behind
that part, where a carriage return that was read and given back has become a line feed. The line
that the cursor counts is never too low: characters that are read again are counted again.
-/
namespace PageWiring.Markup

/-- The page holds `raw`, and `c` is what is seen of it. -/
def Shows (raw c : Char) : Prop := c = raw ∨ raw = '\r' ∧ c = '\n'

theorem Shows.eq_of_ne {raw c : Char} (shows : Shows raw c) (plain : c ≠ '\n') : raw = c := by
  rcases shows with same | ⟨-, isBreak⟩
  · exact same.symm
  · exact absurd isBreak plain

theorem forall₂_shows_refl (text : List Char) : List.Forall₂ Shows text text :=
  List.forall₂_same.mpr fun _ _ => .inl rfl

namespace Cursor

variable {s cursor : Cursor} {text passed : List Char} {c : Char}

/-- The cursor stands behind `passed`, at least on the line that follows so many line feeds; a line
feed after a carriage return has been counted beforehand. -/
structure At (text passed : List Char) (s : Cursor) : Prop where
  ahead : ∃ ahead, text = passed ++ ahead ∧ List.Forall₂ Shows ahead s.input
  line : 1 + passed.count '\n' + s.afterReturn.toNat ≤ s.line
  last : s.again = true → (∃ lead raw, passed = lead ++ [raw] ∧ Shows raw s.current) ∧
    (s.current ≠ '\n' → s.afterReturn = false)

theorem At.length (placed : s.At text passed) :
    text.length = passed.length + s.input.length := by
  obtain ⟨ahead, rfl, shown⟩ := placed.ahead
  rw [List.length_append, shown.length_eq]

theorem At.isPrefix (placed : s.At text passed) : passed <+: text := by
  obtain ⟨ahead, rfl, -⟩ := placed.ahead
  exact List.prefix_append passed ahead

/-- What has been passed is told by the length of what is left. -/
theorem At.take_text (placed : s.At text passed) :
    text.take (text.length - s.input.length) = passed := by
  rw [placed.length, Nat.add_sub_cancel, ← List.prefix_iff_eq_take.mp placed.isPrefix]

theorem At.take_pred {lead : List Char} (placed : s.At text (lead ++ [c])) :
    text.take (text.length - s.input.length - 1) = lead := by
  have length := placed.length
  obtain ⟨ahead, rfl, -⟩ := placed.ahead
  rw [length, Nat.add_sub_cancel, List.length_append, List.length_singleton, Nat.add_sub_cancel,
    List.append_assoc, List.take_left]

theorem At.take {seen : Char} {rest : List Char} (placed : s.At text passed)
    (fresh : s.again = false) (input : s.input = seen :: rest)
    (taken : s.take seen rest = (some c, cursor)) :
    ∃ raw, Shows raw c ∧ cursor.At text (passed ++ [raw]) := by
  obtain ⟨ahead, whole, shown⟩ := placed.ahead
  rw [input] at shown
  obtain ⟨raw, behind, shows, left, rfl⟩ := List.forall₂_cons_right_iff.mp shown
  obtain ⟨again, -, sameInput, current, afterReturn⟩ := take_eq taken
  have line := placed.line
  have counted : cursor.line = if seen == '\r' || seen == '\n' then s.line + 1 else s.line := by
    rw [← (Prod.mk.inj taken).2]
  refine ⟨raw, ?_, ⟨behind, by simp [whole], sameInput ▸ left⟩, ?_, ?_⟩
  · rcases shows with rfl | ⟨rfl, rfl⟩
    · by_cases isReturn : seen = '\r'
      · exact .inr ⟨isReturn, by simpa [isReturn] using current⟩
      · exact .inl (by simpa [isReturn] using current)
    · exact .inr ⟨rfl, by simpa using current⟩
  · -- A line feed of the page is one for the cursor; the slack is for a carriage return.
    rw [counted, afterReturn, List.count_append]
    rcases shows with rfl | ⟨rfl, rfl⟩
    · by_cases isReturn : seen = '\r'
      · simp [isReturn]
        omega
      · by_cases isBreak : seen = '\n'
        · simp [isBreak]
          omega
        · have none : [seen].count '\n' = 0 :=
            List.count_eq_zero.mpr (by simpa using Ne.symm isBreak)
          simp [beq_false_of_ne isReturn, beq_false_of_ne isBreak, none]
          omega
    · simp
      omega
  · rw [again, fresh]
    exact nofun

/-- A character that is taken as it is written. -/
theorem At.plain {rest : List Char} (placed : s.At text passed) (fresh : s.again = false)
    (input : s.input = c :: rest) (solid : c ≠ '\n') :
    At text (passed ++ [c]) { s with input := rest } := by
  obtain ⟨ahead, whole, shown⟩ := placed.ahead
  rw [input] at shown
  obtain ⟨raw, behind, shows, left, rfl⟩ := List.forall₂_cons_right_iff.mp shown
  obtain rfl := shows.eq_of_ne solid
  refine ⟨⟨behind, by simp [whole], left⟩, ?_, ?_⟩
  · have none : [raw].count '\n' = 0 := List.count_eq_zero.mpr (by simpa using Ne.symm solid)
    rw [List.count_append, none]
    exact placed.line
  · intro again
    exact absurd (again.symm.trans fresh) (by decide)

/-- A line feed after a carriage return is passed over. -/
theorem At.skip {rest : List Char} (placed : s.At text passed) (fresh : s.again = false)
    (after : s.afterReturn = true) (input : s.input = '\n' :: rest) :
    ∃ raw, At text (passed ++ [raw]) { s with input := rest, afterReturn := false } := by
  obtain ⟨ahead, whole, shown⟩ := placed.ahead
  rw [input] at shown
  obtain ⟨raw, behind, shows, left, rfl⟩ := List.forall₂_cons_right_iff.mp shown
  refine ⟨raw, ⟨behind, by simp [whole], left⟩, ?_, ?_⟩
  · have line := placed.line
    have once : [raw].count '\n' ≤ 1 := List.count_le_length
    simp only [after, Bool.toNat_true, Bool.toNat_false, List.count_append] at line ⊢
    omega
  · intro again
    exact absurd (again.symm.trans fresh) (by decide)

theorem afterReturn_of_take {seen : Char} {rest : List Char}
    (taken : s.take seen rest = (some c, cursor)) (plain : c ≠ '\n') :
    cursor.afterReturn = false := by
  obtain ⟨-, -, -, shown, afterReturn⟩ := take_eq taken
  rw [afterReturn, beq_eq_false_iff_ne]
  rintro rfl
  exact plain (by simpa using shown)

/-- The cursor takes the character `c` and passes `more` with it. -/
structure Takes (s : Cursor) (text passed : List Char) (c : Char) (cursor : Cursor)
    (more : List Char) : Prop where
  placed : cursor.At text (passed ++ more)
  again : cursor.again = false
  current : cursor.current = c
  grows : s.again = true ∨ more ≠ []
  last : ∃ lead raw, passed ++ more = lead ++ [raw] ∧ Shows raw c
  settled : c ≠ '\n' → cursor.afterReturn = false
  single : s.again = false → s.afterReturn = false → ∃ raw, more = [raw] ∧ Shows raw c

theorem At.next (placed : s.At text passed) (read : s.next = (some c, cursor)) :
    ∃ more, s.Takes text passed c cursor more := by
  obtain ⟨again', current, -⟩ := next_pending read
  obtain ⟨again, rfl, rfl⟩ | ⟨fresh, seen, rest, taken, input | ⟨after, input⟩⟩ :=
    next_eq_some read
  · obtain ⟨last, settled⟩ := placed.last again
    refine ⟨[], ⟨by simpa using placed.ahead, by simpa using placed.line, nofun⟩, again', current,
      .inl again, by simpa using last, settled, fun fresh => ?_⟩
    exact absurd (again.symm.trans fresh) (by decide)
  · obtain ⟨raw, shows, placed'⟩ := placed.take fresh input taken
    exact ⟨[raw], placed', again', current, .inr (by simp), ⟨passed, raw, rfl, shows⟩,
      afterReturn_of_take taken, fun _ _ => ⟨raw, rfl, shows⟩⟩
  · obtain ⟨skipped, beyond⟩ := placed.skip fresh after input
    obtain ⟨raw, shows, placed'⟩ := beyond.take fresh rfl taken
    refine ⟨[skipped, raw], by simpa using placed', again', current, .inr (by simp),
      ⟨passed ++ [skipped], raw, by simp, shows⟩, afterReturn_of_take taken, fun _ settled => ?_⟩
    exact absurd (after.symm.trans settled) (by decide)

/-- The character that was taken may be taken again. -/
theorem Takes.retry {more : List Char} (takes : s.Takes text passed c cursor more) (again : Bool) :
    At text (passed ++ more) { cursor with again := again } :=
  ⟨takes.placed.ahead, takes.placed.line, fun _ => ⟨takes.current ▸ takes.last,
    fun plain => takes.settled (takes.current ▸ plain)⟩⟩

theorem At.discard (placed : s.At text passed) : ∃ more, s.discard.At text (passed ++ more) := by
  unfold Cursor.discard
  cases read : s.next.1 with
  | some c =>
    have whole : s.next = (some c, s.next.2) := by rw [← read]
    obtain ⟨more, takes⟩ := placed.next whole
    exact ⟨more, takes.placed⟩
  | none =>
    obtain ⟨fresh, ⟨-, same⟩ | ⟨input, same⟩⟩ := next_eq_none read
    · exact ⟨[], by simpa [same] using placed⟩
    · have after : s.afterReturn = true := by
        by_contra settled
        simp [Cursor.next, fresh, input, settled, Cursor.take] at read
      obtain ⟨skipped, placed'⟩ := placed.skip fresh after input
      exact ⟨[skipped], same ▸ placed'⟩

theorem At.forgetReturn (placed : s.At text passed) :
    ∃ more, s.forgetReturn.At text (passed ++ more) := by
  have plain : At text passed { s with afterReturn := false } := by
    refine ⟨placed.ahead, ?_, fun again => ⟨(placed.last again).1, fun _ => rfl⟩⟩
    have := placed.line
    simp only [Bool.toNat_false]
    omega
  unfold Cursor.forgetReturn
  dsimp only
  split
  · exact plain.discard
  · exact ⟨[], by simpa using plain⟩

/-- Letters and dashes are seen as they are written. -/
theorem At.eatWord {word : List Char} (placed : s.At text passed) (plain : '\n' ∉ word)
    (read : s.eatWord word = some cursor) : ∃ more, cursor.At text (passed ++ more) := by
  obtain ⟨skipped, beyond⟩ := placed.forgetReturn
  unfold Cursor.eatWord at read
  dsimp only at read
  split at read
  · next comes =>
    obtain rfl := Option.some.inj read
    obtain ⟨ahead, whole, shown⟩ := beyond.ahead
    have taken := List.forall₂_take word.length shown
    have noBreak : '\n' ∉ ahead.take word.length := by
      intro member
      -- The word is the lower case of what is taken, and as long.
      have seen : '\n' ∈ s.forgetReturn.input.take word.length := by
        obtain ⟨n, bound, same⟩ := List.mem_iff_getElem.mp member
        have shows := taken.get bound (taken.length_eq ▸ bound)
        rw [List.get_eq_getElem, same] at shows
        rcases shows with same' | ⟨isReturn, -⟩
        · exact same' ▸ List.get_mem _ _
        · exact absurd isReturn (by decide)
      have lowered : '\n' ∈ Text.asciiLower (s.forgetReturn.input.take word.length) :=
        List.mem_map.mpr ⟨'\n', seen, rfl⟩
      have long : (Text.asciiLower (s.forgetReturn.input.take word.length)).length ≤
          word.length := by
        simp only [Text.asciiLower, List.length_map, List.length_take]
        omega
      rw [(List.isPrefixOf_iff_prefix.mp comes).eq_of_length_le long] at plain
      exact plain lowered
    refine ⟨skipped ++ ahead.take word.length, ⟨ahead.drop word.length, ?_, ?_⟩, ?_, by simp⟩
    · rw [whole]
      simp
    · exact List.forall₂_drop word.length shown
    · have line := beyond.line
      rw [← List.append_assoc, List.count_append, List.count_eq_zero_of_not_mem noBreak]
      exact line
  · cases read

/-- Where the text has ended, at most a line feed after a carriage return is passed over. -/
theorem At.stop {m m' : Machine} (placed : m.cursor.At text passed)
    (stopped : m.step = (m', false)) : ∃ more, m'.cursor.At text (passed ++ more) := by
  have onNext {m : Machine} {passed : List Char} {f : Draft → Char → Draft}
      (placed : m.cursor.At text passed) (stopped : m.onNext f = (m', false)) :
      ∃ more, m'.cursor.At text (passed ++ more) := by
    obtain ⟨c, cursor, -, same⟩ | ⟨-, same⟩ := m.onNext_cases f
    · cases (Prod.mk.inj (stopped.symm.trans same)).2
    · rw [(Prod.mk.inj (stopped.symm.trans same)).1]
      exact placed.discard
  by_cases settled : m.cursor.afterReturn = false
  · rw [(Machine.stops_of_step stopped).settled settled]
    exact ⟨[], by rwa [List.append_nil]⟩
  · unfold Machine.step at stopped
    cases taken : m.draft.intake with
    | next f => exact onNext placed (f := f) (by simpa only [taken] using stopped)
    | text isSpecial plain special =>
      simp only [taken, Machine.onText] at stopped
      rw [if_pos (by simp [settled])] at stopped
      exact onNext placed stopped
    | peek f =>
      simp only [taken, Machine.onPeek] at stopped
      split at stopped
      · rw [← (Prod.mk.inj stopped).1]
        exact ⟨[], by rwa [List.append_nil]⟩
      · cases stopped
    | declaration =>
      simp only [taken] at stopped
      cases (Prod.mk.inj stopped).2
    | doctypeWord =>
      simp only [taken, Machine.doctypeWordStep] at stopped
      split at stopped
      · cases (Prod.mk.inj stopped).2
      · split at stopped
        · cases (Prod.mk.inj stopped).2
        · obtain ⟨skipped, beyond⟩ := placed.forgetReturn
          obtain ⟨more, placed'⟩ := onNext (m := { m with cursor := m.cursor.forgetReturn })
            beyond stopped
          exact ⟨skipped ++ more, by rwa [← List.append_assoc]⟩

/-- Characters that go back to the text were passed before. -/
theorem At.giveBack {lead back given : List Char} (placed : s.At text (lead ++ back))
    (fresh : s.again = false) (shown : List.Forall₂ Shows back given) :
    At text lead { s with input := given ++ s.input } := by
  obtain ⟨ahead, whole, left⟩ := placed.ahead
  refine ⟨⟨back ++ ahead, by simp [whole], List.rel_append shown left⟩, ?_, ?_⟩
  · have line := placed.line
    rw [List.count_append] at line
    show 1 + lead.count '\n' + s.afterReturn.toNat ≤ s.line
    omega
  · intro again
    exact absurd (again.symm.trans fresh) (by decide)

end Cursor

/-! ### References -/

/-- What of the page behind its `&` an open reference may still give back. -/
def Reference.Keeps (r : Reference) (held : List Char) : Prop :=
  match r.mode with
  | .begin => held = [] ∧ r.name = [] ∧ r.marker = none
  | .hash => held = ['#'] ∧ r.marker = none
  | .digits _ => r.hasDigit = true ∨ held = '#' :: r.marker.toList
  | .numberEnd => True
  | .named | .unknown => held = r.name

namespace Draft

variable {r : Reference} {held : List Char} {d d' : Draft} {c raw : Char}

/-- The reference is closed, and the end of what was read of it goes back. -/
def Yields (d : Draft) (held : List Char) (d' : Draft) : Prop :=
  ∃ lead back given, held = lead ++ back ∧ List.Forall₂ Shows back given ∧ d.Closes given d'

def Proceeds (d : Draft) (held : List Char) (d' : Draft) : Prop :=
  (∃ r, d' = d.setReference r ∧ r.Keeps held) ∨ d.Yields held d'

theorem yields_nothing (closes : d.Closes [] d') : d.Yields held d' :=
  ⟨held, [], [], (List.append_nil held).symm, .nil, closes⟩

theorem yields_all (closes : d.Closes held d') : d.Yields held d' :=
  ⟨[], held, held, rfl, forall₂_shows_refl held, closes⟩

/-- A name that is read on is given back from its start, or from the end of its known part. -/
theorem yields_push (shows : Shows raw c) (kept : held = r.name)
    (closes : d.Closes (r.push c).beyond d' ∨ d.Closes (r.push c).name d') :
    d.Yields (held ++ [raw]) d' := by
  have shown (text : List Char) : List.Forall₂ Shows (text ++ [raw]) (text ++ [c]) :=
    List.rel_append (forall₂_shows_refl text) (.cons shows .nil)
  subst kept
  rcases closes with closes | closes
  · exact ⟨r.known, r.beyond ++ [raw], r.beyond ++ [c], List.append_assoc _ _ _, shown _, closes⟩
  · exact ⟨[], r.name ++ [raw], r.name ++ [c], rfl, shown _, Reference.name_push r c ▸ closes⟩

theorem ne_break_of_isNameChar (fits : isNameChar c = true) : c ≠ '\n' := by
  rintro rfl
  exact absurd fits (by decide)

/-- A name with one more character. Where it is read on, that character is none that ends lines. -/
theorem proceeds_finishName (shows : Shows raw c) (kept : held = r.name) :
    d.Proceeds (held ++ [raw]) (d.finishName (r.push c) (some c)) ∧
      ((d.finishName (r.push c) (some c)).reference.isSome = true → c ≠ '\n') := by
  obtain ⟨letter, same⟩ | closes := finishName_cases d (r.push c) (some c)
  · have plain := ne_break_of_isNameChar (Reference.isNameChar_of_letter letter)
    refine ⟨.inl ⟨_, same, ?_⟩, fun _ => plain⟩
    rw [shows.eq_of_ne plain, kept]
    exact (Reference.name_push r c).symm
  · have yields := yields_push shows kept closes
    refine ⟨.inr yields, fun opened => ?_⟩
    obtain ⟨_, _, _, -, -, -, value, emitted, same⟩ := yields
    rw [same] at opened
    cases opened

theorem proceeds_next {f : Draft → Char → Draft} (keeps : r.Keeps held)
    (taken : r.intake = .next f) (shows : Shows raw c) :
    d.Proceeds (held ++ [raw]) (f d c) ∧ ((f d c).reference.isSome = true → c ≠ '\n') := by
  unfold Reference.intake at taken
  unfold Reference.Keeps at keeps
  split at taken
  case h_5 mode =>
    cases taken
    rw [mode] at keeps
    unfold namedStep
    dsimp only
    split
    · next fits =>
      have plain := ne_break_of_isNameChar fits
      have same : held ++ [raw] = (r.push c).name := by
        rw [shows.eq_of_ne plain, keeps, Reference.name_push]
      have kept {r' : Reference} (mode : r'.mode = .named) (name : r'.name = (r.push c).name) :
          r'.Keeps (held ++ [raw]) := by
        unfold Reference.Keeps
        rw [mode, same]
        exact name.symm
      split
      · exact ⟨.inl ⟨_, rfl, kept mode (List.append_nil _)⟩, fun _ => plain⟩
      · exact ⟨.inl ⟨_, rfl, kept mode rfl⟩, fun _ => plain⟩
      · exact proceeds_finishName shows keeps
    · exact proceeds_finishName shows keeps
  case h_6 mode =>
    cases taken
    rw [mode] at keeps
    unfold unknownStep
    dsimp only
    split
    · next letter =>
      have plain := ne_break_of_isNameChar (Reference.isNameChar_of_letter letter)
      refine ⟨.inl ⟨_, rfl, ?_⟩, fun _ => plain⟩
      unfold Reference.Keeps
      rw [show (r.push c).mode = .unknown from mode, shows.eq_of_ne plain, keeps,
        Reference.name_push]
    · have closed {d' : Draft} (closes : d.Closes (r.push c).name d') :
          d.Proceeds (held ++ [raw]) d' ∧ (d'.reference.isSome = true → c ≠ '\n') := by
        refine ⟨.inr (yields_push shows keeps (.inr closes)), fun opened => ?_⟩
        obtain ⟨-, value, emitted, same⟩ := closes
        rw [same] at opened
        cases opened
      split
      · exact closed (closes_finishReference rfl rfl [])
      · exact closed (closes_finishReference rfl rfl [])
  all_goals cases taken

theorem proceeds_peek {f : Draft → Char → Draft × Bool} (keeps : r.Keeps held)
    (taken : r.intake = .peek f) :
    d.Proceeds (held ++ if (f d c).2 then [c] else []) (f d c).1 := by
  unfold Reference.intake at taken
  unfold Reference.Keeps at keeps
  split at taken
  case h_1 mode =>
    cases taken
    rw [mode] at keeps
    obtain ⟨rfl, name, marker⟩ := keeps
    unfold beginStep
    split
    · exact .inr (yields_nothing (closes_finishReference rfl rfl []))
    · split
      · next sign => exact .inl ⟨_, rfl, by simp [beq_iff_eq.mp sign], marker⟩
      · exact .inl ⟨_, rfl, name.symm⟩
  case h_2 mode =>
    cases taken
    rw [mode] at keeps
    obtain ⟨rfl, marker⟩ := keeps
    unfold hashStep
    split
    · exact .inl ⟨_, rfl, .inr rfl⟩
    · exact .inl ⟨_, rfl, .inr (by simp [marker])⟩
  case h_3 base mode =>
    cases taken
    rw [mode] at keeps
    unfold digitsStep
    split
    · exact .inl ⟨_, rfl, by simp [Reference.Keeps, mode]⟩
    · split
      · exact .inl ⟨_, rfl, trivial⟩
      · next none =>
        have all : held = '#' :: r.marker.toList := keeps.resolve_left none
        refine .inr ?_
        simp only [Bool.false_eq_true, if_false, List.append_nil]
        exact yields_all (all ▸ closes_unreadNumber d r)
  case h_4 mode =>
    cases taken
    unfold numberEndStep
    split
    · exact .inr (yields_nothing (closes_finishNumber rfl rfl r))
    · refine .inr (yields_nothing (closes_finishNumber rfl ?_ r))
      rfl
  all_goals cases taken

theorem yields_endReference (opened : d.reference = some r) (keeps : r.Keeps held) :
    d.Yields held d.endReference := by
  unfold endReference
  unfold Reference.Keeps at keeps
  simp only [opened]
  split
  · exact yields_nothing (closes_finishReference rfl rfl [])
  · next mode =>
    rw [mode] at keeps
    refine yields_all (closes_finishReference (by rw [keeps.1]; rfl) ?_ [])
    rfl
  · next mode =>
    rw [mode] at keeps
    split
    · refine yields_nothing (closes_finishNumber rfl ?_ r)
      rfl
    · next none => exact yields_all (keeps.resolve_left none ▸ closes_unreadNumber d r)
  · refine yields_nothing (closes_finishNumber rfl ?_ r)
    rfl
  · next mode =>
    rw [mode] at keeps
    obtain ⟨letter, -⟩ | closes | closes := finishName_cases d r none
    · cases letter
    · exact ⟨r.known, r.beyond, r.beyond, keeps, forall₂_shows_refl _, closes⟩
    · exact yields_all (keeps ▸ closes)
  · next mode =>
    rw [mode] at keeps
    exact yields_all (keeps ▸ closes_finishReference rfl rfl [])

/-! Only mistakes are found in a reference. -/

@[simp] theorem found_finishReference (d : Draft) (chars : List Char) :
    (d.finishReference chars).found = d.found := by
  obtain ⟨value, same⟩ := finishReference_eq d chars
  rw [same]
  rfl

@[simp] theorem found_fault (d : Draft) (cause : Fault) : (d.fault cause).found = d.found := rfl

@[simp] theorem found_giveBack (d : Draft) (cs : List Char) : (d.giveBack cs).found = d.found := rfl

@[simp] theorem found_setReference (d : Draft) (r : Reference) :
    (d.setReference r).found = d.found := rfl

@[simp] theorem found_finishNumber (d : Draft) (r : Reference) :
    (d.finishNumber r).found = d.found := by
  unfold finishNumber
  dsimp only
  split <;> simp

@[simp] theorem found_unreadNumber (d : Draft) (r : Reference) :
    (d.unreadNumber r).found = d.found := by
  simp [unreadNumber]

@[simp] theorem found_finishName (d : Draft) (r : Reference) (last : Option Char) :
    (d.finishName r last).found = d.found := by
  unfold finishName finishKnownName
  repeat' split
  all_goals simp

theorem found_next {f : Draft → Char → Draft} (taken : r.intake = .next f) :
    (f d c).found = d.found := by
  unfold Reference.intake at taken
  split at taken
  case h_5 | h_6 =>
    cases taken
    simp only [namedStep, unknownStep]
    repeat' split
    all_goals simp
  all_goals cases taken

theorem found_peek {f : Draft → Char → Draft × Bool} (taken : r.intake = .peek f) :
    (f d c).1.found = d.found := by
  unfold Reference.intake at taken
  split at taken
  case h_5 | h_6 => cases taken
  all_goals
    cases taken
    simp only [beginStep, hashStep, digitsStep, numberEndStep]
    repeat' split
    all_goals simp

theorem found_endReference (d : Draft) : d.endReference.found = d.found := by
  unfold endReference
  repeat' split
  all_goals simp

end Draft

end PageWiring.Markup
