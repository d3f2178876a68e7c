import PageWiring.Proofs.Steps

/-!
Readings of a page, step after step.

`Machine.Moves` lists how a step moves through the text. Every move lowers the weight of what is
left to read, so a reading comes to the end of its text within the limit that is set for it.
-/
namespace PageWiring.Markup

/-! ### How a step moves through the text -/

/-- The words that are looked for, with the mode before them and the one behind them. -/
def words : List (List Char × Mode × Mode) :=
  [(['-', '-'], .declaration, .commentStart),
    ("doctype".toList, .declaration, .doctype),
    ("public".toList, .afterDoctypeName, .afterDoctypeWord .visible),
    ("system".toList, .afterDoctypeName, .afterDoctypeWord .system)]

/-- Blanks and the end of a tag. -/
def breaks : List Char := ['\t', '\n', '\x0c', '\r', ' ', '>']

theorem forall_mem_breaks {P : Char → Prop} :
    (∀ c ∈ breaks, P c) ↔ P '\t' ∧ P '\n' ∧ P '\x0c' ∧ P '\r' ∧ P ' ' ∧ P '>' := by
  simp [breaks]

theorem words_plain : ∀ word ∈ words, 1 < word.1.length ∧ ∀ c ∈ breaks, c ∉ word.1 := by
  simp only [forall_mem_breaks]
  decide

namespace Machine

/-- How far a step goes in the text, and the draft that it leaves behind. -/
inductive Moves (m : Machine) : Cursor → Draft → Prop
  | next {f : Draft → Char → Draft} {c : Char} {cursor : Cursor}
      (taken : m.draft.intake = .next f) (read : m.cursor.next = (some c, cursor)) :
      Moves m cursor (f m.draft c)
  | special {isSpecial : Char → Bool} {plain special : Draft → Char → Draft} {c : Char}
      {cursor : Cursor} (taken : m.draft.intake = .text isSpecial plain special)
      (read : m.cursor.next = (some c, cursor)) : Moves m cursor (special m.draft c)
  | plain {isSpecial : Char → Bool} {plain special : Draft → Char → Draft} {c : Char}
      {rest : List Char} (taken : m.draft.intake = .text isSpecial plain special)
      (settled : m.cursor.again = false ∧ m.cursor.afterReturn = false)
      (input : m.cursor.input = c :: rest) (ordinary : isSpecial c = false) :
      Moves m { m.cursor with input := rest } (plain m.draft c)
  | peek {f : Draft → Char → Draft × Bool} {c : Char} (taken : m.draft.intake = .peek f)
      (seen : m.cursor.peek = some c) :
      Moves m (if (f m.draft c).2 then m.cursor.discard else m.cursor) (f m.draft c).1
  | word {letters : List Char} {cursor : Cursor} {mode : Mode}
      (closed : m.draft.reference = none) (read : m.cursor.eatWord letters = some cursor)
      (listed : (letters, m.draft.mode, mode) ∈ words) :
      Moves m cursor (m.draft.enter mode)
  | declaration (taken : m.draft.intake = .declaration) :
      Moves m m.cursor (m.draft.bad.enter .bogusComment)
  | doctype {c : Char} {cursor : Cursor} (taken : m.draft.intake = .doctypeWord)
      (read : m.cursor.forgetReturn.next = (some c, cursor)) :
      Moves m cursor (Draft.afterDoctypeNameStep m.draft c)

theorem onNext_cases (m : Machine) (f : Draft → Char → Draft) :
    (∃ c cursor, m.cursor.next = (some c, cursor) ∧
      m.onNext f = (settle m.events cursor (f m.draft c), true)) ∨
    (m.cursor.next.1 = none ∧ m.onNext f = ({ m with cursor := m.cursor.next.2 }, false)) := by
  unfold onNext
  split
  · next c cursor read => exact .inl ⟨c, cursor, read, rfl⟩
  · next cursor read => exact .inr ⟨by rw [read], by rw [read]⟩

theorem moves_onNext {m m' : Machine} {f : Draft → Char → Draft}
    (taken : m.draft.intake = .next f) (step : m.onNext f = (m', true)) :
    ∃ cursor d, m.Moves cursor d ∧ m' = settle m.events cursor d := by
  obtain ⟨c, cursor, read, same⟩ | ⟨-, same⟩ := m.onNext_cases f
  · exact ⟨cursor, _, .next taken read, (Prod.mk.inj (step.symm.trans same)).1⟩
  · cases (Prod.mk.inj (step.symm.trans same)).2

theorem moves_special {m m' : Machine} {isSpecial : Char → Bool}
    {plain special : Draft → Char → Draft}
    (taken : m.draft.intake = .text isSpecial plain special)
    (step : m.onNext special = (m', true)) :
    ∃ cursor d, m.Moves cursor d ∧ m' = settle m.events cursor d := by
  obtain ⟨c, cursor, read, same⟩ | ⟨-, same⟩ := m.onNext_cases special
  · exact ⟨cursor, _, .special taken read, (Prod.mk.inj (step.symm.trans same)).1⟩
  · cases (Prod.mk.inj (step.symm.trans same)).2

theorem moves_onText {m m' : Machine} {isSpecial : Char → Bool}
    {plain special : Draft → Char → Draft}
    (taken : m.draft.intake = .text isSpecial plain special)
    (step : m.onText isSpecial plain special = (m', true)) :
    ∃ cursor d, m.Moves cursor d ∧ m' = settle m.events cursor d := by
  unfold onText at step
  split at step
  · exact moves_special taken step
  · next settled =>
    split at step
    · cases step
    · next c rest input =>
      split at step
      · exact moves_special taken step
      · next ordinary =>
        refine ⟨_, _, .plain taken ?_ input (Bool.not_eq_true _ ▸ ordinary), ?_⟩
        · simpa using settled
        · exact (Prod.mk.inj step).1.symm

theorem moves_onPeek {m m' : Machine} {f : Draft → Char → Draft × Bool}
    (taken : m.draft.intake = .peek f) (step : m.onPeek f = (m', true)) :
    ∃ cursor d, m.Moves cursor d ∧ m' = settle m.events cursor d := by
  unfold onPeek at step
  split at step
  · cases step
  · next c seen => exact ⟨_, _, .peek taken seen, (Prod.mk.inj step).1.symm⟩

/-- Words are looked for in two modes only, and not inside a reference. -/
theorem mode_of_intake_word {d : Draft} :
    (d.intake = .declaration → d.reference = none ∧ d.mode = .declaration) ∧
      (d.intake = .doctypeWord → d.reference = none ∧ d.mode = .afterDoctypeName) := by
  unfold Draft.intake
  cases d.reference with
  | some r => cases mode : r.mode <;> simp [Reference.intake, mode]
  | none =>
    cases mode : d.mode with
    | raw kind => cases kind <;> simp [Mode.intake, Mode.rawIntake, Mode.dataIntake]
    | value quoting => cases quoting <;> simp [Mode.intake, Mode.valueIntake]
    | _ => simp [Mode.intake, Mode.dataIntake]

/-- Every step that finds some text is one of the moves. -/
theorem moves_of_step {m m' : Machine} (step : m.step = (m', true)) :
    ∃ cursor d, m.Moves cursor d ∧ m' = settle m.events cursor d := by
  unfold Machine.step at step
  cases taken : m.draft.intake with
  | next f => exact moves_onNext taken (by simpa only [taken] using step)
  | text isSpecial plain special => exact moves_onText taken (by simpa only [taken] using step)
  | peek f => exact moves_onPeek taken (by simpa only [taken] using step)
  | declaration =>
    obtain ⟨closed, mode⟩ := mode_of_intake_word.1 taken
    simp only [taken, declarationStep] at step
    split at step
    · next cursor read =>
      exact ⟨_, _, .word closed read (by simp [mode, words]), (Prod.mk.inj step).1.symm⟩
    · split at step
      · next cursor read =>
        exact ⟨_, _, .word closed read (by simp [mode, words]), (Prod.mk.inj step).1.symm⟩
      · exact ⟨_, _, .declaration taken, (Prod.mk.inj step).1.symm⟩
  | doctypeWord =>
    obtain ⟨closed, mode⟩ := mode_of_intake_word.2 taken
    simp only [taken, doctypeWordStep] at step
    split at step
    · next cursor read =>
      exact ⟨_, _, .word closed read (by simp [mode, words]), (Prod.mk.inj step).1.symm⟩
    · split at step
      · next cursor read =>
        exact ⟨_, _, .word closed read (by simp [mode, words]), (Prod.mk.inj step).1.symm⟩
      · obtain ⟨c, cursor, read, same⟩ | ⟨-, same⟩ := onNext_cases
          { m with cursor := m.cursor.forgetReturn } Draft.afterDoctypeNameStep
        · exact ⟨cursor, _, .doctype taken read, (Prod.mk.inj (step.symm.trans same)).1⟩
        · cases (Prod.mk.inj (step.symm.trans same)).2

end Machine

/-! ### The weight of what is left to read -/

/-- How much reading a text may cause. From the first `&` on a character may be read twice: in a
reference, and after it was given back. -/
def cost : List Char → Nat
  | [] => 0
  | c :: cs => if c = '&' then 6 * (cs.length + 1) else 3 + cost cs

theorem cost_le (text : List Char) : cost text ≤ 6 * text.length := by
  induction text with
  | nil => exact Nat.le_refl 0
  | cons c cs ih =>
    unfold cost
    split
    · exact Nat.le_refl _
    · simp only [List.length_cons]
      omega

theorem cost_cons_ge (c : Char) (text : List Char) : cost text + 3 ≤ cost (c :: text) := by
  have := cost_le text
  rw [cost]
  split <;> omega

theorem cost_append_le {before : List Char} (plain : ∀ c ∈ before, c ≠ '&') (after : List Char) :
    cost (before ++ after) ≤ 3 * before.length + cost after := by
  induction before with
  | nil => simp
  | cons c cs ih =>
    have rest := ih fun x member => plain x (List.mem_cons_of_mem c member)
    rw [List.cons_append, cost, if_neg (plain c List.mem_cons_self), List.length_cons]
    omega

theorem ne_ampersand {given : List Char} (plain : ∀ x ∈ given, x = '#' ∨ isNameChar x = true) :
    ∀ x ∈ given, x ≠ '&' := by
  rintro x member rfl
  rcases plain _ member with sign | named
  · exact absurd sign (by decide)
  · exact absurd named (by decide)

theorem cost_drop_le (text : List Char) (n : Nat) : cost (text.drop n) ≤ cost text := by
  induction text generalizing n with
  | nil => simp
  | cons c cs ih =>
    cases n with
    | zero => exact Nat.le_refl _
    | succ n =>
      have := ih n
      have := cost_cons_ge c cs
      rw [List.drop_succ_cons]
      omega

namespace Cursor

/-- The text that is left, with a character that is to be read again. -/
def pending (s : Cursor) : List Char := if s.again then s.current :: s.input else s.input

/-- The next character is the one to be read again, or the first one of the text; then a line feed
after a carriage return may have been passed over. -/
theorem next_eq_some {s cursor : Cursor} {c : Char} (read : s.next = (some c, cursor)) :
    (s.again = true ∧ c = s.current ∧ cursor = { s with again := false }) ∨
      s.again = false ∧ ∃ raw rest, s.take raw rest = (some c, cursor) ∧
        (s.input = raw :: rest ∨ s.afterReturn = true ∧ s.input = '\n' :: raw :: rest) := by
  unfold next at read
  split at read
  · next again =>
    obtain ⟨rfl, rfl⟩ : s.current = c ∧ { s with again := false } = cursor := by simpa using read
    exact .inl ⟨again, rfl, rfl⟩
  · next fresh =>
    refine .inr ⟨by simpa using fresh, ?_⟩
    split at read
    · cases read
    · next raw rest input =>
      split at read
      · next skipped =>
        split at read
        · cases read
        · next raw' rest' =>
          obtain ⟨afterReturn, isBreak⟩ := Bool.and_eq_true_iff.mp skipped
          obtain rfl := beq_iff_eq.mp isBreak
          exact ⟨raw', rest', read, .inr ⟨afterReturn, input⟩⟩
      · exact ⟨raw, rest, read, .inl input⟩

theorem take_eq {s cursor : Cursor} {raw c : Char} {rest : List Char}
    (read : s.take raw rest = (some c, cursor)) :
    cursor.again = s.again ∧ cursor.current = c ∧ cursor.input = rest ∧
      c = (if raw == '\r' then '\n' else raw) ∧ cursor.afterReturn = (raw == '\r') := by
  obtain ⟨shown, rfl⟩ := Prod.mk.inj read
  obtain rfl := Option.some.inj shown
  exact ⟨rfl, rfl, rfl, rfl, rfl⟩

/-- What is left behind the next character. -/
theorem next_pending {s cursor : Cursor} {c : Char} (read : s.next = (some c, cursor)) :
    cursor.again = false ∧ cursor.current = c ∧ cost (c :: cursor.input) ≤ cost s.pending ∧
      cursor.input.length < s.pending.length := by
  obtain ⟨again, rfl, rfl⟩ | ⟨fresh, raw, rest, taken, input⟩ := next_eq_some read
  · simp [pending, again]
  · obtain ⟨sameAgain, current, left, rfl, -⟩ := take_eq taken
    refine ⟨sameAgain.trans fresh, current, ?_⟩
    have shown : cost ((if raw == '\r' then '\n' else raw) :: rest) = cost (raw :: rest) := by
      by_cases isReturn : raw = '\r'
      · simp [isReturn, cost]
      · simp [isReturn]
    rw [left, shown, pending, if_neg (by simp [fresh])]
    rcases input with input | ⟨-, input⟩ <;> rw [input]
    · exact ⟨Nat.le_refl _, by simp⟩
    · have := cost_cons_ge '\n' (raw :: rest)
      refine ⟨by omega, ?_⟩
      rw [List.length_cons, List.length_cons]
      omega

/-- Where there is no next character, at most a line feed after a carriage return was left. -/
theorem next_eq_none {s : Cursor} (ended : s.next.1 = none) :
    s.again = false ∧ (s.input = [] ∧ s.next.2 = s ∨
      s.input = ['\n'] ∧ s.next.2 = { s with input := [], afterReturn := false }) := by
  unfold next at ended ⊢
  split at ended
  · cases ended
  · next fresh =>
    rw [if_neg fresh]
    refine ⟨by simpa using fresh, ?_⟩
    split at ended
    · next input => exact .inl ⟨input, rfl⟩
    · next raw rest input =>
      split at ended
      · next skipped =>
        split at ended
        · obtain ⟨afterReturn, isBreak⟩ := Bool.and_eq_true_iff.mp skipped
          obtain rfl := beq_iff_eq.mp isBreak
          exact .inr ⟨input, by simp [afterReturn]⟩
        · cases ended
      · cases ended

theorem discard_pending {s : Cursor} {c : Char} (seen : s.peek = some c) :
    s.discard.again = false ∧ cost s.discard.pending + 3 ≤ cost s.pending ∧
      s.discard.pending.length < s.pending.length := by
  unfold discard
  cases read : s.next.1 with
  | some c' =>
    have whole : s.next = (some c', s.next.2) := by rw [← read]
    obtain ⟨fresh, -, lower, shorter⟩ := next_pending whole
    have := cost_cons_ge c' s.next.2.input
    rw [show s.next.2.pending = s.next.2.input by simp [pending, fresh]]
    exact ⟨fresh, by omega, shorter⟩
  | none =>
    obtain ⟨fresh, ⟨input, -⟩ | ⟨input, after⟩⟩ := next_eq_none read
    · simp [peek, fresh, input] at seen
    · rw [after]
      simp [pending, fresh, input, cost]

/-- A character that was looked at is read next, unless it is a line feed that counts for nothing.
-/
theorem next_of_peek {s : Cursor} {c : Char} (seen : s.peek = some c)
    (counts : s.afterReturn = false ∨ c ≠ '\n') :
    s.next = (some (if s.again = false ∧ c = '\r' then '\n' else c), s.discard) := by
  have shown : s.next.1 = some (if s.again = false ∧ c = '\r' then '\n' else c) := by
    unfold peek at seen
    unfold next
    split at seen
    · next again => simpa [again] using seen
    · next fresh =>
      match input : s.input with
      | [] => simp [input] at seen
      | raw :: rest =>
        obtain rfl : raw = c := by simpa [input] using seen
        rcases counts with settled | plain
        · simp [fresh, settled, take]
        · simp [fresh, plain, take]
  rw [discard, ← shown]

theorem forgetReturn_pending (s : Cursor) : cost s.forgetReturn.pending ≤ cost s.pending := by
  unfold forgetReturn
  dsimp only
  split
  · next skipped =>
    have seen : Cursor.peek { s with afterReturn := false } = some '\n' :=
      beq_iff_eq.mp (Bool.and_eq_true_iff.mp skipped).2
    have lower := (discard_pending seen).2.1
    exact Nat.le_trans (Nat.le_of_add_right_le lower) (Nat.le_refl _)
  · exact Nat.le_refl _

theorem eatWord_room {s cursor : Cursor} {word : List Char} (read : s.eatWord word = some cursor) :
    word.length ≤ s.forgetReturn.input.length := by
  unfold eatWord at read
  dsimp only at read
  split at read
  · next comes =>
    have := (List.isPrefixOf_iff_prefix.mp comes).length_le
    simp only [Text.asciiLower, List.length_map, List.length_take] at this
    omega
  · cases read

theorem eatWord_pending {s cursor : Cursor} {word : List Char} (long : 1 < word.length)
    (read : s.eatWord word = some cursor) :
    cursor.again = false ∧ cost cursor.input + 6 ≤ cost s.pending := by
  have room := eatWord_room read
  unfold eatWord at read
  dsimp only at read
  split at read
  · obtain rfl := Option.some.inj read
    refine ⟨rfl, ?_⟩
    have lower := forgetReturn_pending s
    have below : cost s.forgetReturn.input ≤ cost s.forgetReturn.pending := by
      unfold pending
      split
      · have := cost_cons_ge s.forgetReturn.current s.forgetReturn.input
        omega
      · exact Nat.le_refl _
    -- At least two characters are passed over, and each counts three.
    match input : s.forgetReturn.input, long, room with
    | a :: b :: rest, long, _ =>
      have first := cost_cons_ge a (b :: rest)
      have second := cost_cons_ge b rest
      have dropped : cost ((a :: b :: rest).drop word.length) ≤ cost rest := by
        obtain ⟨n, same⟩ : ∃ n, word.length = n + 2 := ⟨word.length - 2, by omega⟩
        rw [same, List.drop_succ_cons, List.drop_succ_cons]
        exact cost_drop_le rest n
      rw [input] at below
      show cost ((a :: b :: rest).drop word.length) + 6 ≤ _
      omega
    | [a], long, room => exact absurd (Nat.lt_of_lt_of_le long room) (Nat.lt_irrefl 1)
    | [], long, room => exact absurd (Nat.lt_of_lt_of_le long room) (Nat.not_lt_zero 1)
  · cases read

theorem forgetReturn_eq_self {s : Cursor} (settled : s.afterReturn = false) :
    s.forgetReturn = s := by
  cases s
  subst settled
  rfl

/-! Lines are never counted back. -/

theorem line_le_next (s : Cursor) : s.line ≤ s.next.2.line := by
  have taken (c : Char) (rest : List Char) : s.line ≤ (s.take c rest).2.line := by
    simp only [take]
    split <;> omega
  unfold next
  split
  · exact Nat.le_refl _
  · split
    · exact Nat.le_refl _
    · split
      · split
        · exact Nat.le_refl _
        · exact taken _ _
      · exact taken _ _

theorem line_le_forgetReturn (s : Cursor) : s.line ≤ s.forgetReturn.line := by
  unfold forgetReturn
  dsimp only
  split
  · exact line_le_next { s with afterReturn := false }
  · exact Nat.le_refl _

theorem line_le_eatWord {s cursor : Cursor} {word : List Char}
    (read : s.eatWord word = some cursor) : s.line ≤ cursor.line := by
  unfold eatWord at read
  dsimp only at read
  split at read
  · obtain rfl := Option.some.inj read
    exact line_le_forgetReturn s
  · cases read

end Cursor

theorem Draft.intake_cases {d : Draft} {intake : Intake} (taken : d.intake = intake) :
    (d.reference = none ∧ d.mode.intake = intake) ∨
      ∃ r, d.reference = some r ∧ r.intake = intake := by
  unfold Draft.intake at taken
  cases reference : d.reference with
  | none => exact .inl ⟨rfl, by simpa only [reference] using taken⟩
  | some r => exact .inr ⟨r, rfl, by simpa only [reference] using taken⟩

theorem Mode.patience_le (mode : Mode) : mode.patience ≤ 1 := by
  cases mode <;> simp [patience]

namespace Machine

/-- Between steps a draft has nothing to say, and an open reference is sound and stands where no
character is read again. -/
structure Sound (m : Machine) : Prop where
  emitted : m.draft.emitted = []
  again : m.draft.again = false
  unread : m.draft.unread = []
  retried : m.cursor.again = true → m.draft.mode.patience = 0
  reference : ∀ r, m.draft.reference = some r →
    r.Sound ∧ m.draft.mode.patience = 0 ∧ m.cursor.again = false

/-- How much reading is left. -/
def weight (m : Machine) : Nat :=
  match m.draft.reference with
  | none => cost m.cursor.pending + m.draft.mode.patience
  | some r => 6 * m.cursor.pending.length + r.weight

variable {m : Machine} {cursor : Cursor} {d : Draft} {events : List Event}

theorem sound_settle_closed (closed : d.reference = none)
    (retried : (cursor.again || d.again) = true → d.mode.patience = 0) :
    (settle events cursor d).Sound where
  emitted := rfl
  again := rfl
  unread := rfl
  retried := retried
  reference r opened := by
    have same : d.reference = some r := opened
    rw [closed] at same
    cases same

theorem weight_of_closed (closed : m.draft.reference = none) :
    m.weight = cost m.cursor.pending + m.draft.mode.patience := by
  simp only [weight, closed]

theorem weight_of_open {r : Reference} (opened : m.draft.reference = some r) :
    m.weight = 6 * m.cursor.pending.length + r.weight := by
  simp only [weight, opened]

/-- What a move leaves to read is sound and weighs less. -/
structure Progress (m : Machine) (cursor : Cursor) (d : Draft) : Prop where
  sound : (settle m.events cursor d).Sound
  lighter : (settle m.events cursor d).weight < m.weight

/-- A step that asks nothing of the text, after some text was used up. -/
theorem progress_quiet (sound : m.Sound) (closed : m.draft.reference = none)
    (same : d.requests = m.draft.requests) (fresh : cursor.again = false)
    (used : cost cursor.input + 3 ≤ cost m.cursor.pending) : Progress m cursor d := by
  obtain ⟨again, unread, reference⟩ : d.again = false ∧ d.unread = [] ∧ d.reference = none := by
    simpa [Draft.requests, sound.again, sound.unread, closed] using same
  refine ⟨sound_settle_closed reference (by simp [fresh, again]), ?_⟩
  have left : (settle m.events cursor d).cursor.pending = cursor.input := by
    simp [settle, Cursor.pending, fresh, again, unread]
  have patience := d.mode.patience_le
  rw [weight_of_closed reference, weight_of_closed closed, left]
  show cost cursor.input + d.mode.patience < _
  omega

theorem progress_reaction (sound : m.Sound) (closed : m.draft.reference = none) {c : Char}
    (read : m.cursor.next = (some c, cursor)) (reaction : m.draft.Reaction c d) :
    Progress m cursor d := by
  obtain ⟨fresh, current, lower, shorter⟩ := Cursor.next_pending read
  have used := cost_cons_ge c cursor.input
  cases reaction with
  | quiet same tags => exact progress_quiet sound closed same fresh (by omega)
  | tag closing same tags => exact progress_quiet sound closed same fresh (by omega)
  | retry requests tags less =>
    obtain ⟨again, unread, reference⟩ : d.again = true ∧ d.unread = [] ∧ d.reference = none := by
      simpa [Draft.requests, sound.unread, closed] using requests
    have calm : d.mode.patience = 0 := by
      have := m.draft.mode.patience_le
      omega
    refine ⟨sound_settle_closed reference fun _ => calm, ?_⟩
    have left : (settle m.events cursor d).cursor.pending = c :: cursor.input := by
      simp [settle, Cursor.pending, again, unread, current]
    rw [weight_of_closed reference, weight_of_closed closed, left]
    show cost (c :: cursor.input) + d.mode.patience < _
    omega
  | reference around ampersand calm =>
    subst ampersand
    refine ⟨⟨rfl, rfl, rfl, fun _ => calm, ?_⟩, ?_⟩
    · intro r opened
      obtain rfl : { around := around } = r := Option.some.inj opened
      refine ⟨⟨nofun, nofun⟩, calm, ?_⟩
      simp [settle, fresh, Draft.startReference, Draft.setReference, sound.again]
    · have left : (settle m.events cursor (m.draft.startReference around)).cursor.pending =
          cursor.input := by
        simp [settle, Cursor.pending, fresh, Draft.startReference, Draft.setReference, sound.again,
          sound.unread]
      have fixed : ({ around := around } : Reference).weight = 4 := rfl
      rw [weight_of_open (r := { around := around }) rfl, weight_of_closed closed, left, fixed]
      simp only [cost, if_true] at lower
      omega

/-- A reference that is closed, so that some characters go back. -/
theorem progress_closes (sound : m.Sound) {r : Reference} (opened : m.draft.reference = some r)
    {given : List Char} (closes : m.draft.Closes given d) (fresh : cursor.again = false)
    (lighter : cost (given ++ cursor.input) < 6 * m.cursor.pending.length + r.weight) :
    Progress m cursor d := by
  obtain ⟨-, value, emitted, rfl⟩ := closes
  obtain ⟨-, calm, -⟩ := sound.reference r opened
  refine ⟨sound_settle_closed rfl fun _ => calm, ?_⟩
  have left : (settle m.events cursor { m.draft with
      reference := none
      unread := given ++ m.draft.unread
      attributeValue := value
      emitted := emitted }).cursor.pending = given ++ cursor.input := by
    simp [settle, Cursor.pending, fresh, sound.again, sound.unread]
  rw [weight_of_closed rfl, weight_of_open opened, left]
  show _ + m.draft.mode.patience < _
  omega

/-- A reference that stays open. -/
theorem progress_open (sound : m.Sound) {r r' : Reference} (opened : m.draft.reference = some r)
    (kept : d = m.draft.setReference r') (sound' : r'.Sound) (fresh : cursor.again = false)
    (lighter : 6 * cursor.input.length + r'.weight < 6 * m.cursor.pending.length + r.weight) :
    Progress m cursor d := by
  subst kept
  obtain ⟨-, calm, -⟩ := sound.reference r opened
  have left : (settle m.events cursor (m.draft.setReference r')).cursor.pending = cursor.input := by
    simp [settle, Cursor.pending, fresh, Draft.setReference, sound.again, sound.unread]
  refine ⟨⟨rfl, rfl, rfl, fun _ => calm, ?_⟩, ?_⟩
  · intro r'' opened'
    obtain rfl : r' = r'' := Option.some.inj opened'
    exact ⟨sound', calm, by simp [settle, fresh, Draft.setReference, sound.again]⟩
  · rw [weight_of_open (r := r') rfl, weight_of_open opened, left]
    exact lighter

/-- One more character in the name of a reference. -/
theorem progress_extends (sound : m.Sound) {r : Reference} (opened : m.draft.reference = some r)
    {c : Char} (read : m.cursor.next = (some c, cursor)) (extended : Draft.Extends r c m.draft d) :
    Progress m cursor d := by
  obtain ⟨fresh, -, -, shorter⟩ := Cursor.next_pending read
  rcases extended with ⟨r', kept, sound', lighter⟩ | ⟨lead, nameChars, short, closes⟩
  · exact progress_open sound opened kept sound' fresh (by omega)
  · refine progress_closes sound opened closes fresh ?_
    have plain := ne_ampersand fun x member => .inr (nameChars x member)
    have lower := cost_append_le plain (c :: cursor.input)
    have bound := cost_le (c :: cursor.input)
    rw [List.length_cons] at bound
    rw [List.append_assoc, List.singleton_append]
    omega

/-- A character of a reference that was looked at first. -/
theorem progress_peek (sound : m.Sound) {r : Reference} (opened : m.draft.reference = some r)
    {f : Draft → Char → Draft × Bool} (taken : r.intake = .peek f) {c : Char}
    (seen : m.cursor.peek = some c) :
    Progress m (if (f m.draft c).2 then m.cursor.discard else m.cursor) (f m.draft c).1 := by
  obtain ⟨soundRef, -, still⟩ := sound.reference r opened
  obtain ⟨fresh, -, shorter⟩ := Cursor.discard_pending seen
  have here : m.cursor.pending = m.cursor.input := by simp [Cursor.pending, still]
  have beyond : m.cursor.discard.pending = m.cursor.discard.input := by
    simp [Cursor.pending, fresh]
  rw [beyond] at shorter
  obtain ⟨-, ⟨r', kept, sound', lighter⟩ | ⟨given, plain, short, closes⟩⟩ :=
    Draft.reference_peek soundRef taken m.draft c
  · refine progress_open sound opened kept sound' ?_ ?_
    · split <;> assumption
    · split
      · next used =>
        rw [if_pos used] at lighter
        omega
      · next unused =>
        rw [if_neg unused] at lighter
        rw [here]
        omega
  · have lower := cost_append_le (ne_ampersand plain)
    refine progress_closes sound opened closes (by split <;> assumption) ?_
    split
    · have := lower m.cursor.discard.input
      have := cost_le m.cursor.discard.input
      omega
    · have := lower m.cursor.input
      have := cost_le m.cursor.input
      rw [here]
      omega

/-- A step that uses up no text, and asks for none back. -/
theorem progress_waits (closed : m.draft.reference = none) (sound : m.Sound)
    (same : d.requests = m.draft.requests) (less : d.mode.patience < m.draft.mode.patience) :
    Progress m m.cursor d := by
  obtain ⟨again, unread, reference⟩ : d.again = false ∧ d.unread = [] ∧ d.reference = none := by
    simpa [Draft.requests, sound.again, sound.unread, closed] using same
  have left : (settle m.events m.cursor d).cursor.pending = m.cursor.pending := by
    simp [settle, Cursor.pending, again, unread]
  have calm : d.mode.patience = 0 := by
    have := m.draft.mode.patience_le
    omega
  refine ⟨sound_settle_closed reference fun _ => calm, ?_⟩
  rw [weight_of_closed reference, weight_of_closed closed, left]
  exact Nat.add_lt_add_left less _

/-- Every move leaves less to read. -/
theorem Moves.progress (sound : m.Sound) (moves : m.Moves cursor d) : Progress m cursor d := by
  cases moves with
  | next taken read =>
    obtain ⟨closed, taken⟩ | ⟨r, opened, taken⟩ := Draft.intake_cases taken
    · exact progress_reaction sound closed read (Draft.reaction_next taken _)
    · exact progress_extends sound opened read
        (Draft.reference_next (sound.reference r opened).1 taken _ _)
  | special taken read =>
    obtain ⟨closed, taken⟩ | ⟨r, opened, taken⟩ := Draft.intake_cases taken
    · exact progress_reaction sound closed read (Draft.reaction_text taken _).1
    · cases mode : r.mode <;> simp [Reference.intake, mode] at taken
  | @plain isSpecial plain special c rest taken settled input ordinary =>
    obtain ⟨closed, taken⟩ | ⟨r, opened, taken⟩ := Draft.intake_cases taken
    · refine progress_quiet sound closed (Draft.reaction_text taken c).2.1 settled.1 ?_
      rw [show m.cursor.pending = c :: rest by simp [Cursor.pending, settled, input]]
      exact cost_cons_ge c rest
    · cases mode : r.mode <;> simp [Reference.intake, mode] at taken
  | @peek f c taken seen =>
    obtain ⟨closed, taken⟩ | ⟨r, opened, taken⟩ := Draft.intake_cases taken
    · obtain ⟨same, ⟨unused, less, -⟩ | ⟨used, -⟩⟩ := Draft.reaction_peek taken c
      · rw [unused]
        exact progress_waits closed sound same less
      · obtain ⟨fresh, lower, -⟩ := Cursor.discard_pending seen
        rw [used]
        refine progress_quiet sound closed same fresh ?_
        simpa [Cursor.pending, fresh] using lower
    · exact progress_peek sound opened taken seen
  | word closed read listed =>
    obtain ⟨fresh, used⟩ := Cursor.eatWord_pending (words_plain _ listed).1 read
    exact progress_quiet sound closed rfl fresh (by omega)
  | declaration taken =>
    obtain ⟨closed, mode⟩ := mode_of_intake_word.1 taken
    exact progress_waits closed sound rfl (mode ▸ Nat.zero_lt_one)
  | @doctype c cursor taken read =>
    obtain ⟨fresh, -, lower, -⟩ := Cursor.next_pending read
    have := Cursor.forgetReturn_pending m.cursor
    have := cost_cons_ge c cursor.input
    exact progress_quiet sound (mode_of_intake_word.2 taken).1
      (m.draft.afterDoctypeNameStep_effects c).1 fresh (by omega)

/-- A start tag is found only at the `>` behind it. -/
theorem Moves.tags (sound : m.Sound) (moves : m.Moves cursor d) :
    d.tags = [] ∨ ∃ attributes, d.tags = [⟨m.draft.tagName, attributes⟩] ∧
      m.cursor.next = (some '>', cursor) := by
  have before : m.draft.tags = [] := by simp [Draft.tags, sound.emitted]
  have onReaction {c : Char} (read : m.cursor.next = (some c, cursor))
      (reaction : m.draft.Reaction c d) : d.tags = [] ∨ ∃ attributes,
        d.tags = [⟨m.draft.tagName, attributes⟩] ∧ m.cursor.next = (some '>', cursor) := by
    cases reaction with
    | quiet same tags => exact .inl (tags.trans before)
    | retry again tags less => exact .inl (tags.trans before)
    | tag closing same tags =>
      rcases tags with none | ⟨attributes, one⟩
      · exact .inl (none.trans before)
      · exact .inr ⟨attributes, before ▸ one, closing ▸ read⟩
    | reference around ampersand calm => exact .inl before
  cases moves with
  | next taken read =>
    obtain ⟨closed, taken⟩ | ⟨r, opened, taken⟩ := Draft.intake_cases taken
    · exact onReaction read (Draft.reaction_next taken _)
    · obtain ⟨r', kept, -⟩ | ⟨lead, -, -, tags, -⟩ :=
        Draft.reference_next (sound.reference r opened).1 taken m.draft _
      · exact .inl (kept ▸ before)
      · exact .inl (tags.trans before)
  | special taken read =>
    obtain ⟨closed, taken⟩ | ⟨r, opened, taken⟩ := Draft.intake_cases taken
    · exact onReaction read (Draft.reaction_text taken _).1
    · cases mode : r.mode <;> simp [Reference.intake, mode] at taken
  | @plain isSpecial plain special c rest taken settled input ordinary =>
    obtain ⟨closed, taken⟩ | ⟨r, opened, taken⟩ := Draft.intake_cases taken
    · exact .inl ((Draft.reaction_text taken c).2.2.1.trans before)
    · cases mode : r.mode <;> simp [Reference.intake, mode] at taken
  | @peek f c taken seen =>
    obtain ⟨closed, taken⟩ | ⟨r, opened, taken⟩ := Draft.intake_cases taken
    · obtain ⟨-, ⟨-, -, none⟩ | ⟨used, none | ⟨rfl, attributes, one⟩⟩⟩ :=
        Draft.reaction_peek taken c
      · exact .inl (none.trans before)
      · exact .inl (none.trans before)
      · refine .inr ⟨attributes, before ▸ one, ?_⟩
        rw [used]
        simpa using Cursor.next_of_peek seen (.inr (by decide))
    · obtain ⟨-, ⟨r', kept, -⟩ | ⟨given, -, -, tags, -⟩⟩ :=
        Draft.reference_peek (sound.reference r opened).1 taken m.draft c
      · exact .inl (kept ▸ before)
      · exact .inl (tags.trans before)
  | word closed read listed => exact .inl before
  | declaration taken => exact .inl before
  | @doctype c cursor taken read =>
    exact .inl ((m.draft.afterDoctypeNameStep_effects c).2.trans before)

/-! ### What a whole reading keeps -/

theorem Moves.line_le (moves : m.Moves cursor d) : m.cursor.line ≤ cursor.line := by
  have onNext {s cursor : Cursor} {c : Char} (read : s.next = (some c, cursor)) :
      s.line ≤ cursor.line := by
    simpa [read] using s.line_le_next
  cases moves with
  | next taken read => exact onNext read
  | special taken read => exact onNext read
  | plain taken settled input ordinary => exact Nat.le_refl _
  | peek taken seen =>
    split
    · exact m.cursor.line_le_next
    · exact Nat.le_refl _
  | word closed read listed => exact Cursor.line_le_eatWord read
  | declaration taken => exact Nat.le_refl _
  | doctype taken read => exact Nat.le_trans m.cursor.line_le_forgetReturn (onNext read)

/-- What a step does where the text has ended: at most a line feed after a carriage return is
dropped. -/
structure Stops (m m' : Machine) : Prop where
  draft : m'.draft = m.draft
  events : m'.events = m.events
  again : m'.cursor.again = false
  input : m'.cursor.input = []
  line : m.cursor.line ≤ m'.cursor.line
  settled : m.cursor.afterReturn = false → m' = m

theorem stops_onNext {m m' : Machine} {f : Draft → Char → Draft}
    (stopped : m.onNext f = (m', false)) :
    m.Stops m' := by
  obtain ⟨c, cursor, -, same⟩ | ⟨ended, same⟩ := m.onNext_cases f
  · cases (Prod.mk.inj (stopped.symm.trans same)).2
  · obtain rfl := (Prod.mk.inj (stopped.symm.trans same)).1
    obtain ⟨fresh, ⟨input, left⟩ | ⟨input, left⟩⟩ := Cursor.next_eq_none ended
    · exact ⟨rfl, rfl, by simpa only [left] using fresh, by simpa only [left] using input,
        m.cursor.line_le_next, fun _ => by rw [left]⟩
    · refine ⟨rfl, rfl, by simpa only [left] using fresh, by rw [left], m.cursor.line_le_next,
        fun settled => ?_⟩
      simp [Cursor.next, fresh, input, settled, Cursor.take] at ended

theorem stops_of_step {m' : Machine} (stopped : m.step = (m', false)) : m.Stops m' := by
  unfold step at stopped
  cases taken : m.draft.intake with
  | next f => exact stops_onNext (f := f) (by simpa only [taken] using stopped)
  | text isSpecial plain special =>
    simp only [taken, onText] at stopped
    split at stopped
    · exact stops_onNext stopped
    · next settled =>
      have fresh : m.cursor.again = false ∧ m.cursor.afterReturn = false := by simpa using settled
      split at stopped
      · next input =>
        obtain rfl := (Prod.mk.inj stopped).1
        exact ⟨rfl, rfl, fresh.1, input, Nat.le_refl _, fun _ => rfl⟩
      · split at stopped
        · exact stops_onNext stopped
        · cases stopped
  | peek f =>
    simp only [taken, onPeek] at stopped
    split at stopped
    · next seen =>
      obtain rfl := (Prod.mk.inj stopped).1
      have ended : m.cursor.again = false ∧ m.cursor.input = [] := by
        simp only [Cursor.peek] at seen
        split at seen
        · cases seen
        · next fresh => exact ⟨by simpa using fresh, List.head?_eq_none_iff.mp seen⟩
      exact ⟨rfl, rfl, ended.1, ended.2, Nat.le_refl _, fun _ => rfl⟩
    · cases stopped
  | declaration =>
    simp only [taken] at stopped
    cases (Prod.mk.inj stopped).2
  | doctypeWord =>
    simp only [taken, doctypeWordStep] at stopped
    split at stopped
    · cases (Prod.mk.inj stopped).2
    · split at stopped
      · cases (Prod.mk.inj stopped).2
      · have stops := stops_onNext stopped
        refine ⟨stops.draft, stops.events, stops.again, stops.input,
          Nat.le_trans m.cursor.line_le_forgetReturn stops.line, fun settled => ?_⟩
        have same : m.cursor.forgetReturn = m.cursor := Cursor.forgetReturn_eq_self settled
        simpa only [same] using stops.settled (by simpa only [same] using settled)

theorem Stops.sound {m' : Machine} (stops : m.Stops m') (sound : m.Sound) : m'.Sound where
  emitted := stops.draft ▸ sound.emitted
  again := stops.draft ▸ sound.again
  unread := stops.draft ▸ sound.unread
  retried := by simp [stops.again]
  reference r opened := by
    obtain ⟨soundRef, calm, -⟩ := sound.reference r (stops.draft ▸ opened)
    exact ⟨soundRef, stops.draft ▸ calm, stops.again⟩

/-- The steps at the end of the text. -/
def IsEndStep (f : Draft → Draft) : Prop := f = Draft.endReference ∨ f = Draft.endStep

theorem sound_atEnd {f : Draft → Draft} (sound : m.Sound) (isEnd : IsEndStep f) :
    (m.atEnd f).Sound ∧ (f m.draft).tags = [] := by
  have noTags : m.draft.tags = [] := by simp [Draft.tags, sound.emitted]
  rcases isEnd with rfl | rfl
  · obtain ⟨closed, same⟩ | ⟨r, opened, closes⟩ := m.draft.endReference_cases
    · refine ⟨sound_settle_closed (by rw [same, closed]) ?_, by rw [same, noTags]⟩
      simpa [same, sound.again] using sound.retried
    · obtain ⟨soundRef, calm, -⟩ := sound.reference r opened
      obtain ⟨given, -, -, tags, value, emitted, same⟩ := closes soundRef
      exact ⟨sound_settle_closed (by rw [same]) fun _ => by rw [same, calm], tags.trans noTags⟩
  · obtain ⟨requests, tags, calm⟩ := m.draft.endStep_effects
    obtain ⟨again, -, reference⟩ : m.draft.endStep.again = false ∧ _ ∧
        m.draft.endStep.reference = m.draft.reference := by
      simpa [Draft.requests, sound.again] using requests
    refine ⟨⟨rfl, rfl, rfl, fun _ => calm, fun r opened => ?_⟩, tags.trans noTags⟩
    obtain ⟨soundRef, -, still⟩ := sound.reference r (reference ▸ opened)
    exact ⟨soundRef, calm, by simp [atEnd, settle, still, again]⟩

/-- What every move and every stop keeps, a run keeps. -/
theorem run_keeps {P : Machine → Prop}
    (move : ∀ {m cursor d}, P m → m.Moves cursor d → P (settle m.events cursor d))
    (stop : ∀ {m m'}, P m → m.Stops m' → P m') (limit : Nat) (m : Machine) (kept : P m) :
    P (run limit m) := by
  induction limit generalizing m with
  | zero => exact kept
  | succ limit ih =>
    unfold run
    split
    · next m' step =>
      obtain ⟨cursor, d, moves, rfl⟩ := moves_of_step step
      exact ih _ (move kept moves)
    · next m' stopped => exact stop kept (stops_of_step stopped)

theorem finish_keeps {P : Machine → Prop}
    (move : ∀ {m cursor d}, P m → m.Moves cursor d → P (settle m.events cursor d))
    (stop : ∀ {m m'}, P m → m.Stops m' → P m')
    (atEnd : ∀ {m f}, P m → IsEndStep f → P (m.atEnd f)) (limit : Nat) (m : Machine) (kept : P m) :
    P (m.finish limit) := by
  have first := atEnd (run_keeps move stop limit m kept) (.inl rfl)
  have second := run_keeps move stop limit _ first
  exact atEnd (atEnd (atEnd second (.inr rfl)) (.inr rfl)) (.inr rfl)

/-- The machine at the start of a text. -/
def start (text : List Char) : Machine := { cursor := { input := Text.withoutMark text } }

theorem sound_start (text : List Char) : (start text).Sound where
  emitted := rfl
  again := rfl
  unread := rfl
  retried := by
    intro again
    cases again
  reference := by
    intro r opened
    cases opened

/-- The events of a text are those of a machine with all that its reading keeps. -/
theorem exists_events_eq {P : Machine → Prop}
    (move : ∀ {m cursor d}, P m → m.Moves cursor d → P (settle m.events cursor d))
    (stop : ∀ {m m'}, P m → m.Stops m' → P m')
    (atEnd : ∀ {m f}, P m → IsEndStep f → P (m.atEnd f)) {text : List Char}
    (kept : P (start text)) : ∃ m, P m ∧ Markup.events text = m.events.reverse :=
  ⟨_, finish_keeps move stop atEnd (stepLimit text) _ kept, rfl⟩

end Machine

end PageWiring.Markup
