import PageWiring.Proofs.Runs

/-!
Readings that are taken up in the middle.

The limit of steps is never reached, so a reading may be followed from any machine that it comes to.
And what is read of a text that is cut short is read in the same way when the text goes on, unless
the end of the text was taken for the end of a word.
-/
namespace PageWiring.Markup

namespace Machine

variable {m m' : Machine}

/-! ### The limit is never reached -/

theorem progress_of_step (sound : m.Sound) (step : m.step = (m', true)) :
    m'.Sound ∧ m'.weight < m.weight := by
  obtain ⟨cursor, d, moves, rfl⟩ := moves_of_step step
  have progress := moves.progress sound
  exact ⟨progress.sound, progress.lighter⟩

/-- Induction along a reading, from its end. -/
theorem reading_induction {P : Machine → Prop}
    (stop : ∀ m m', m.Sound → m.step = (m', false) → P m)
    (go : ∀ m m', m.Sound → m.step = (m', true) → P m' → P m) (m : Machine) (sound : m.Sound) :
    P m := by
  induction weight : m.weight using Nat.strongRecOn generalizing m with
  | ind w ih =>
    cases next : m.step with
    | mk m' goes =>
      cases goes with
      | false => exact stop m m' sound next
      | true =>
        obtain ⟨sound', lighter⟩ := progress_of_step sound next
        exact go m m' sound next (ih m'.weight (weight ▸ lighter) m' sound' rfl)

theorem run_of_step {limit : Nat} (step : m.step = (m', true)) :
    run (limit + 1) m = run limit m' := by
  simp [run, step]

theorem run_of_stop {limit : Nat} (stopped : m.step = (m', false)) : run (limit + 1) m = m' := by
  simp [run, stopped]

/-- The machine where the text has ended. -/
def drain (m : Machine) : Machine := run (m.weight + 1) m

theorem run_eq_drain (sound : m.Sound) {limit : Nat} (enough : m.weight < limit) :
    run limit m = m.drain := by
  suffices same : ∀ limit other, m.weight < limit → m.weight < other →
      run limit m = run other m from same _ _ enough (Nat.lt_succ_self _)
  refine reading_induction (P := fun m => ∀ limit other, m.weight < limit → m.weight < other →
    run limit m = run other m) ?_ ?_ m sound
  · rintro m m' sound stopped (_ | limit) (_ | other) enough enough'
    · rfl
    · omega
    · omega
    · rw [run_of_stop stopped, run_of_stop stopped]
  · rintro m m' sound step ih (_ | limit) (_ | other) enough enough'
    · rfl
    · omega
    · omega
    · have lighter := (progress_of_step sound step).2
      rw [run_of_step step, run_of_step step]
      exact ih limit other (by omega) (by omega)

theorem drain_of_step (sound : m.Sound) (step : m.step = (m', true)) : m.drain = m'.drain := by
  obtain ⟨sound', lighter⟩ := progress_of_step sound step
  rw [drain, run_of_step step, run_eq_drain sound' lighter]

theorem drain_of_stop (stopped : m.step = (m', false)) : m.drain = m' := run_of_stop stopped

/-- Where the text has ended, the reading is sound and no heavier than before. -/
theorem drain_effects (sound : m.Sound) :
    m.drain.Sound ∧ m.drain.cursor.pending = [] ∧ m.drain.weight ≤ m.weight := by
  refine reading_induction (P := fun m => m.drain.Sound ∧ m.drain.cursor.pending = [] ∧
    m.drain.weight ≤ m.weight) ?_ ?_ m sound
  · intro m m' sound stopped
    have stops := stops_of_step stopped
    have ended : m'.cursor.pending = [] := by simp [Cursor.pending, stops.again, stops.input]
    rw [drain_of_stop stopped]
    refine ⟨stops.sound sound, ended, ?_⟩
    simp only [weight, stops.draft, ended, cost, List.length_nil]
    cases m.draft.reference with
    | none => exact Nat.add_le_add_right (Nat.zero_le _) _
    | some r => exact Nat.add_le_add_right (Nat.zero_le _) _
  · intro m m' sound step ih
    have lighter := (progress_of_step sound step).2
    rw [drain_of_step sound step]
    exact ⟨ih.1, ih.2.1, by omega⟩

/-- The whole of a reading, its end with it. -/
def whole (m : Machine) : Machine :=
  let m := (m.drain.atEnd Draft.endReference).drain
  ((m.atEnd Draft.endStep).atEnd Draft.endStep).atEnd Draft.endStep

/-- What an open reference gives back at the end of the text weighs no more than the reference. -/
theorem weight_endReference (sound : m.Sound) (ended : m.cursor.pending = []) :
    (m.atEnd Draft.endReference).weight ≤ m.weight := by
  obtain ⟨closed, same⟩ | ⟨r, opened, closes⟩ := m.draft.endReference_cases
  · have left : (m.atEnd Draft.endReference).cursor.pending = m.cursor.pending := by
      simp [atEnd, settle, same, Cursor.pending, sound.unread, sound.again]
    have still : (m.atEnd Draft.endReference).draft.reference = none := by
      simp [atEnd, settle, same, closed]
    rw [weight_of_closed still, weight_of_closed closed, left]
    simp [atEnd, settle, same]
  · obtain ⟨soundRef, calm, still⟩ := sound.reference r opened
    obtain ⟨given, plain, short, -, value, emitted, same⟩ := closes soundRef
    have input : m.cursor.input = [] := by simpa [Cursor.pending, still] using ended
    have left : (m.atEnd Draft.endReference).cursor.pending = given := by
      simp [atEnd, settle, same, Cursor.pending, sound.unread, sound.again, still, input]
    have closed : (m.atEnd Draft.endReference).draft.reference = none := by
      simp [atEnd, settle, same]
    have mode : (m.atEnd Draft.endReference).draft.mode.patience = 0 := by
      simp [atEnd, settle, same, calm]
    have bound := cost_append_le (ne_ampersand plain) []
    rw [weight_of_closed closed, weight_of_open opened, left, mode]
    simp only [List.append_nil, cost] at bound
    omega

theorem finish_eq_whole (sound : m.Sound) {limit : Nat} (enough : m.weight < limit) :
    m.finish limit = m.whole := by
  obtain ⟨drained, ended, lighter⟩ := drain_effects sound
  have again := weight_endReference drained ended
  unfold finish whole
  rw [run_eq_drain sound enough, run_eq_drain (sound_atEnd drained (.inl rfl)).1 (by omega)]

theorem events_eq_whole (text : List Char) :
    Markup.events text = (start text).whole.events.reverse := by
  have enough : (start text).weight < stepLimit text := by
    have short : (Text.withoutMark text).length ≤ text.length := by
      unfold Text.withoutMark
      split
      · exact Nat.le_succ _
      · exact Nat.le_refl _
    have bound := cost_le (Text.withoutMark text)
    have fresh : (start text).weight = cost (Text.withoutMark text) := rfl
    rw [fresh, stepLimit]
    omega
  rw [← finish_eq_whole (sound_start text) enough]
  rfl

theorem whole_of_step (sound : m.Sound) (step : m.step = (m', true)) : m.whole = m'.whole := by
  rw [whole, whole, drain_of_step sound step]

end Machine

/-! ### A text that goes on -/

namespace Cursor

variable {s cursor : Cursor} {c : Char}

/-- The same place in a text that goes on with `more`. -/
def feed (s : Cursor) (more : List Char) : Cursor := { s with input := s.input ++ more }

theorem next_feed (read : s.next = (some c, cursor)) (more : List Char) :
    (s.feed more).next = (some c, cursor.feed more) := by
  unfold next at read ⊢
  split at read
  · next again =>
    obtain ⟨rfl, rfl⟩ : s.current = c ∧ { s with again := false } = cursor := by simpa using read
    simp [feed, again]
  · next fresh =>
    have still : ¬ (s.feed more).again = true := fresh
    rw [if_neg still]
    split at read
    · cases read
    · next raw rest input =>
      have input' : (s.feed more).input = raw :: (rest ++ more) := by simp [feed, input]
      rw [input']
      dsimp only
      split at read
      · next skipped =>
        have skipped' : ((s.feed more).afterReturn && raw == '\n') = true := skipped
        rw [if_pos skipped']
        split at read
        · cases read
        · next raw' rest' =>
          obtain ⟨shown, rfl⟩ := Prod.mk.inj read
          exact Prod.ext shown rfl
      · next plain =>
        have plain' : ¬ ((s.feed more).afterReturn && raw == '\n') = true := plain
        rw [if_neg plain']
        obtain ⟨shown, rfl⟩ := Prod.mk.inj read
        exact Prod.ext shown rfl

/-- The next character, and what is left behind it, come from the text. -/
theorem next_within (fresh : s.again = false) (read : s.next = (some c, cursor)) :
    (c ∈ s.input ∨ c = '\n' ∧ '\r' ∈ s.input) ∧ cursor.again = false ∧
      ∀ x ∈ cursor.input, x ∈ s.input := by
  obtain ⟨again, -⟩ | ⟨-, raw, rest, taken, input⟩ := next_eq_some read
  · simp [fresh] at again
  · obtain ⟨sameAgain, -, left, shown, -⟩ := take_eq taken
    have inside : raw ∈ s.input ∧ ∀ x ∈ rest, x ∈ s.input := by
      rcases input with input | ⟨-, input⟩ <;> simp +contextual [input]
    refine ⟨?_, sameAgain.trans fresh, left ▸ inside.2⟩
    rw [shown]
    split
    · next isReturn => exact .inr ⟨rfl, beq_iff_eq.mp isReturn ▸ inside.1⟩
    · exact .inl inside.1

theorem peek_feed (seen : s.peek = some c) (more : List Char) : (s.feed more).peek = some c := by
  unfold peek at seen ⊢
  split at seen
  · next again => simpa [feed, again] using seen
  · next fresh => simp [feed, fresh, seen]

theorem discard_feed (seen : s.peek = some c) (counts : s.afterReturn = false ∨ c ≠ '\n')
    (more : List Char) : (s.feed more).discard = s.discard.feed more := by
  rw [discard, next_feed (next_of_peek seen counts) more]

theorem forgetReturn_feed (seen : s.peek = some c) (more : List Char) :
    (s.feed more).forgetReturn = s.forgetReturn.feed more := by
  have seen' := peek_feed seen more
  have same : (s.feed more).afterReturn = s.afterReturn := rfl
  unfold forgetReturn
  dsimp only
  rw [seen, seen', same]
  split
  · exact discard_feed (s := { s with afterReturn := false }) seen (.inl rfl) more
  · rfl

/-- The text ends in the middle of a word. -/
structure EndsIn (s : Cursor) (word : List Char) : Prop where
  starts : Text.asciiLower s.forgetReturn.input <+: word
  short : s.forgetReturn.input.length < word.length

/-- A word is found, or not, in a text that goes on as in the text by itself, unless the text ends
in the middle of it. -/
theorem eatWord_feed (s : Cursor) {word : List Char} (nonempty : word ≠ []) :
    (∀ more, (s.feed more).eatWord word = (s.eatWord word).map (·.feed more)) ∨
      (s.eatWord word = none ∧ s.EndsIn word) := by
  cases seen : s.peek with
  | none =>
    have input : s.forgetReturn.input = [] := by
      have ended : s.input = [] := by
        unfold peek at seen
        split at seen
        · cases seen
        · exact List.head?_eq_none_iff.mp seen
      simp [forgetReturn, seen, ended]
    cases word with
    | nil => exact absurd rfl nonempty
    | cons w ws =>
      exact .inr ⟨by simp [eatWord, input, Text.asciiLower],
        by simp [input, Text.asciiLower], by simp [input]⟩
  | some c =>
    have forgotten (more : List Char) :
        (s.feed more).forgetReturn.input = s.forgetReturn.input ++ more := by
      rw [forgetReturn_feed seen more]
      rfl
    by_cases room : word.length ≤ s.forgetReturn.input.length
    · refine .inl fun more => ?_
      unfold eatWord
      dsimp only
      rw [forgotten, List.take_append_of_le_length room, List.drop_append_of_le_length room,
        forgetReturn_feed seen more]
      split <;> rfl
    · have missed : s.eatWord word = none := by
        refine if_neg fun comes => room ?_
        have := (List.isPrefixOf_iff_prefix.mp comes).length_le
        simp only [Text.asciiLower, List.length_map, List.length_take] at this
        omega
      by_cases starts : Text.asciiLower s.forgetReturn.input <+: word
      · exact .inr ⟨missed, starts, by omega⟩
      · refine .inl fun more => ?_
        rw [missed]
        refine if_neg fun comes => starts ?_
        rw [forgotten, List.take_append, Text.asciiLower, List.map_append] at comes
        refine List.prefix_of_prefix_length_le ?_ (List.isPrefixOf_iff_prefix.mp comes) ?_
        · rw [List.take_of_length_le (by omega)]
          exact List.prefix_append _ _
        · simp only [Text.asciiLower, List.length_map]
          omega

/-- The same where one of two words is looked for, the shorter one first. -/
theorem eatWords_feed (s : Cursor) {first second : List Char} (nonempty : first ≠ [])
    (order : first.length ≤ second.length) :
    (∀ more, (s.feed more).eatWord first = (s.eatWord first).map (·.feed more) ∧
        (s.eatWord first = none →
          (s.feed more).eatWord second = (s.eatWord second).map (·.feed more))) ∨
      (s.eatWord first = none ∧ s.eatWord second = none ∧
        (s.EndsIn first ∨ s.EndsIn second)) := by
  have nonempty' : second ≠ [] := by
    rintro rfl
    exact nonempty (List.length_eq_zero_iff.mp (Nat.le_zero.mp order))
  obtain onFirst | ⟨missed, ends⟩ := s.eatWord_feed nonempty
  · cases found : s.eatWord first with
    | some cursor => exact .inl fun more => ⟨found ▸ onFirst more, nofun⟩
    | none =>
      obtain onSecond | ⟨missed, ends⟩ := s.eatWord_feed nonempty'
      · exact .inl fun more => ⟨found ▸ onFirst more, fun _ => onSecond more⟩
      · exact .inr ⟨rfl, missed, .inr ends⟩
  · cases found : s.eatWord second with
    | some cursor =>
      have room := eatWord_room found
      have short := ends.short
      omega
    | none => exact .inr ⟨missed, rfl, .inl ends⟩

/-- A text that ends in the middle of a word holds no blanks and no end of a tag. -/
theorem EndsIn.plain {word : List Char} (ends : s.EndsIn word) (plain : ∀ c ∈ breaks, c ∉ word) :
    ∀ c ∈ breaks, c ∉ s.forgetReturn.input := by
  have fixed : ∀ c ∈ breaks, c.toLower = c := forall_mem_breaks.mpr (by decide)
  intro c isBreak member
  have lowered := List.mem_map.mpr ⟨c, member, fixed c isBreak⟩
  exact plain c isBreak (ends.starts.subset lowered)

/-- Forgetting a carriage return drops at most a line feed. -/
theorem forgetReturn_effects (fresh : s.again = false) :
    s.forgetReturn.again = false ∧ (s.input = s.forgetReturn.input ∨
      s.input = '\n' :: s.forgetReturn.input) := by
  unfold forgetReturn
  dsimp only
  split
  · next skipped =>
    have seen : s.input.head? = some '\n' := by
      simpa [peek, fresh] using (Bool.and_eq_true_iff.mp skipped).2
    obtain ⟨rest, input⟩ := List.head?_eq_some_iff.mp seen
    simp [discard, next, fresh, input, take]
  · exact ⟨fresh, .inl rfl⟩

end Cursor

namespace Machine

variable {m m' : Machine}

/-- The same reading of a text that goes on with `more`. -/
def feed (m : Machine) (more : List Char) : Machine := { m with cursor := m.cursor.feed more }

theorem settle_feed (events : List Event) (cursor : Cursor) (d : Draft) (more : List Char) :
    settle events (cursor.feed more) d = (settle events cursor d).feed more := by
  simp [settle, feed, Cursor.feed]

/-- A reading that took the end of the text for the end of something else, and does not leave that
mode any more. -/
structure Misled (m : Machine) : Prop where
  closed : m.draft.reference = none
  fresh : m.cursor.again = false
  rest : '>' ∉ m.cursor.input
  mode : m.draft.mode = .bogusComment ∨ m.draft.mode = .bogusDoctype ∨
    (m.draft.mode = .beforeValue ∧ m.cursor.input = [])

theorem Misled.step (misled : m.Misled) (sound : m.Sound) (step : m.step = (m', true)) :
    m'.Misled := by
  have onNext {f : Draft → Char → Draft} (same : m.step = m.onNext f)
      (keeps : ∀ c, c ≠ '>' → f m.draft c = m.draft)
      (mode : m.draft.mode = .bogusComment ∨ m.draft.mode = .bogusDoctype) : m'.Misled := by
    rw [same] at step
    obtain ⟨c, cursor, read, stepped⟩ | ⟨-, stopped⟩ := m.onNext_cases f
    · obtain rfl := (Prod.mk.inj (step.symm.trans stepped)).1
      obtain ⟨shown, fresh, left⟩ := Cursor.next_within misled.fresh read
      have other : c ≠ '>' := by
        rintro rfl
        rcases shown with inside | ⟨isBreak, -⟩
        · exact misled.rest inside
        · exact absurd isBreak (by decide)
      rw [keeps c other]
      refine ⟨misled.closed, by simp [settle, fresh, sound.again], ?_, mode.imp_right .inl⟩
      simpa [settle, sound.unread] using fun inside => misled.rest (left _ inside)
    · cases (Prod.mk.inj (step.symm.trans stopped)).2
  rcases misled.mode with mode | mode | ⟨mode, ended⟩
  · refine onNext (f := Draft.bogusCommentStep) ?_ (fun c other => ?_) (.inl mode)
    · simp [Machine.step, Draft.intake, misled.closed, mode, Mode.intake]
    · simp [Draft.bogusCommentStep, other]
  · refine onNext (f := Draft.bogusDoctypeStep) ?_ (fun c other => ?_) (.inr mode)
    · simp [Machine.step, Draft.intake, misled.closed, mode, Mode.intake]
    · simp [Draft.bogusDoctypeStep, other]
  · simp [Machine.step, Draft.intake, misled.closed, mode, Mode.intake, onPeek, Cursor.peek,
      misled.fresh, ended] at step

theorem onNext_feed {f : Draft → Char → Draft} (step : m.onNext f = (m', true))
    (more : List Char) : (m.feed more).onNext f = (m'.feed more, true) := by
  obtain ⟨c, cursor, read, stepped⟩ | ⟨-, stopped⟩ := m.onNext_cases f
  · obtain rfl := (Prod.mk.inj (step.symm.trans stepped)).1
    unfold onNext
    simp only [feed, Cursor.next_feed read more, settle_feed]
  · cases (Prod.mk.inj (step.symm.trans stopped)).2

theorem onText_feed {isSpecial : Char → Bool} {plain special : Draft → Char → Draft}
    (step : m.onText isSpecial plain special = (m', true)) (more : List Char) :
    (m.feed more).onText isSpecial plain special = (m'.feed more, true) := by
  have same : (m.feed more).cursor.again = m.cursor.again ∧
    (m.feed more).cursor.afterReturn = m.cursor.afterReturn := ⟨rfl, rfl⟩
  unfold onText at step ⊢
  rw [same.1, same.2]
  split at step
  · next special => rw [if_pos special, onNext_feed step more]
  · next settled =>
    rw [if_neg settled]
    split at step
    · cases step
    · next c rest input =>
      have input' : (m.feed more).cursor.input = c :: (rest ++ more) := by
        simp [feed, Cursor.feed, input]
      rw [input']
      dsimp only
      split at step
      · next special => rw [if_pos special, onNext_feed step more]
      · next ordinary =>
        obtain rfl := (Prod.mk.inj step).1
        rw [if_neg ordinary]
        simp [settle, feed, Cursor.feed]

theorem onPeek_feed (sound : m.Sound) {f : Draft → Char → Draft × Bool}
    (taken : m.draft.intake = .peek f) (step : m.onPeek f = (m', true)) :
    (∀ more, (m.feed more).onPeek f = (m'.feed more, true)) ∨ m'.Misled := by
  unfold onPeek at step
  split at step
  · cases step
  · next c seen =>
    obtain rfl := (Prod.mk.inj step).1
    have fed (more : List Char) : (m.feed more).onPeek f =
        (settle m.events (if (f m.draft c).2 then (m.cursor.feed more).discard
          else m.cursor.feed more) (f m.draft c).1, true) := by
      unfold onPeek
      rw [show (m.feed more).cursor.peek = some c from Cursor.peek_feed seen more]
      rfl
    by_cases used : (f m.draft c).2 = true
    · simp only [fed, used, if_true]
      cases read : m.cursor.next.1 with
      | some d =>
        refine .inl fun more => ?_
        have whole : m.cursor.next = (some d, m.cursor.discard) := by rw [← read]; rfl
        rw [Cursor.discard, Cursor.next_feed whole more, settle_feed]
      | none =>
        obtain ⟨fresh, ⟨input, -⟩ | ⟨input, after⟩⟩ := Cursor.next_eq_none read
        · simp [Cursor.peek, fresh, input] at seen
        · obtain rfl : '\n' = c := by simpa [Cursor.peek, fresh, input] using seen
          have left : m.cursor.discard = _ := after
          obtain ⟨closed, taken⟩ | ⟨r, opened, taken⟩ := Draft.intake_cases taken
          · obtain ⟨mode, rfl⟩ := Draft.mode_of_intake_peek taken
            have waits : (Draft.beforeValueStep m.draft '\n').1 = m.draft := rfl
            rw [waits, left]
            refine .inr ⟨closed, ?_, ?_, .inr (.inr ⟨mode, ?_⟩)⟩
            · simp [settle, fresh, sound.again]
            · simp [settle, sound.unread]
            · simp [settle, sound.unread]
          · have plain := (Draft.reference_peek (sound.reference r opened).1 taken m.draft '\n').1
            rcases plain used with sign | named
            · exact absurd sign (by decide)
            · exact absurd named (by decide)
    · simp only [fed, used]
      exact .inl fun more => congrArg (·, true) (settle_feed _ _ _ more)

/-- Where words are looked for, no character is read again. -/
theorem fresh_of_words (sound : m.Sound)
    (mode : m.draft.mode = .declaration ∨ m.draft.mode = .afterDoctypeName) :
    m.cursor.again = false := by
  have retried := sound.retried
  rcases mode with mode | mode <;> simpa [mode, Mode.patience] using retried

theorem declarationStep_feed (sound : m.Sound) (taken : m.draft.intake = .declaration) :
    (∀ more, (m.feed more).declarationStep = m.declarationStep.feed more) ∨
      m.declarationStep.Misled := by
  obtain ⟨closed, mode⟩ := mode_of_intake_word.1 taken
  have fresh := fresh_of_words sound (.inl mode)
  have same (more : List Char) : (m.feed more).cursor = m.cursor.feed more := rfl
  unfold declarationStep
  simp only [same]
  obtain fed | ⟨missed, missed', ends⟩ := m.cursor.eatWords_feed
    (show ['-', '-'] ≠ [] by decide) (show _ ≤ "doctype".toList.length by decide)
  · refine .inl fun more => ?_
    obtain ⟨onFirst, onSecond⟩ := fed more
    rw [onFirst]
    cases first : m.cursor.eatWord ['-', '-'] with
    | some cursor => exact settle_feed _ _ _ more
    | none =>
      rw [onSecond first]
      cases second : m.cursor.eatWord "doctype".toList with
      | some cursor => exact settle_feed _ _ _ more
      | none => exact settle_feed _ _ _ more
  · refine .inr ?_
    rw [missed, missed']
    have plain : '>' ∉ m.cursor.forgetReturn.input := by
      rcases ends with ends | ends
      · exact ends.plain (forall_mem_breaks.mpr (by decide)) '>' (by decide)
      · exact ends.plain (forall_mem_breaks.mpr (by decide)) '>' (by decide)
    have input : '>' ∉ m.cursor.input := by
      rcases (Cursor.forgetReturn_effects fresh).2 with same | dropped
      · rwa [same]
      · rw [dropped]
        simpa using plain
    refine ⟨closed, ?_, ?_, .inl rfl⟩
    · simp [settle, fresh, sound.again, Draft.bad, Draft.fault, Draft.emit, Draft.enter]
    · simpa [settle, sound.unread, Draft.bad, Draft.fault, Draft.emit, Draft.enter] using input

theorem doctypeWordStep_feed (sound : m.Sound) (taken : m.draft.intake = .doctypeWord)
    (step : m.doctypeWordStep = (m', true)) :
    (∀ more, (m.feed more).doctypeWordStep = (m'.feed more, true)) ∨ m'.Misled := by
  obtain ⟨closed, mode⟩ := mode_of_intake_word.2 taken
  have fresh := fresh_of_words sound (.inr mode)
  have same (more : List Char) : (m.feed more).cursor = m.cursor.feed more := rfl
  unfold doctypeWordStep at step ⊢
  simp only [same]
  obtain fed | ⟨missed, missed', ends⟩ := m.cursor.eatWords_feed
    (show "public".toList ≠ [] by decide) (show _ ≤ "system".toList.length by decide)
  · refine .inl fun more => ?_
    obtain ⟨onFirst, onSecond⟩ := fed more
    rw [onFirst]
    cases first : m.cursor.eatWord "public".toList with
    | some cursor =>
      rw [first] at step
      obtain rfl := (Prod.mk.inj step).1
      exact congrArg (·, true) (settle_feed _ _ _ more)
    | none =>
      rw [onSecond first]
      rw [first] at step
      cases second : m.cursor.eatWord "system".toList with
      | some cursor =>
        rw [second] at step
        obtain rfl := (Prod.mk.inj step).1
        exact congrArg (·, true) (settle_feed _ _ _ more)
      | none =>
        rw [second] at step
        cases seen : m.cursor.peek with
        | some c =>
          rw [show (m.cursor.feed more).forgetReturn = _ from Cursor.forgetReturn_feed seen more]
          exact onNext_feed step more
        | none =>
          have ended : m.cursor.input = [] := by simpa [Cursor.peek, fresh] using seen
          simp [onNext, Cursor.forgetReturn, Cursor.next, seen, fresh, ended] at step
  · refine .inr ?_
    rw [missed, missed'] at step
    have plain : ∀ c ∈ breaks, c ∉ m.cursor.forgetReturn.input := by
      rcases ends with ends | ends
      · exact ends.plain (forall_mem_breaks.mpr (by decide))
      · exact ends.plain (forall_mem_breaks.mpr (by decide))
    have fresh' := (Cursor.forgetReturn_effects fresh).1
    obtain ⟨c, cursor, read, stepped⟩ | ⟨-, stopped⟩ := onNext_cases
      { m with cursor := m.cursor.forgetReturn } Draft.afterDoctypeNameStep
    · obtain rfl := (Prod.mk.inj (step.symm.trans stepped)).1
      obtain ⟨shown, still, left⟩ := Cursor.next_within fresh' read
      have inside : c ∈ m.cursor.forgetReturn.input := by
        rcases shown with inside | ⟨-, isReturn⟩
        · exact inside
        · exact absurd isReturn (plain '\r' (by decide))
      have other : c ∉ breaks := fun isBreak => plain c isBreak inside
      have bogus : m.draft.afterDoctypeNameStep c = m.draft.bad.enter .bogusDoctype := by
        simp only [breaks, List.mem_cons, List.not_mem_nil, not_or] at other
        simp [Draft.afterDoctypeNameStep, isBlankChar, other]
      rw [bogus]
      refine ⟨closed, ?_, ?_, .inr (.inl rfl)⟩
      · simp [settle, still, sound.again, Draft.bad, Draft.fault, Draft.emit, Draft.enter]
      · have behind : '>' ∉ cursor.input := fun member =>
          plain '>' (by decide) (left _ member)
        simpa [settle, sound.unread, Draft.bad, Draft.fault, Draft.emit, Draft.enter] using behind
    · cases (Prod.mk.inj (step.symm.trans stopped)).2

/-- A step does the same where the text goes on, or it has been misled by the end of the text. -/
theorem step_feed (sound : m.Sound) (step : m.step = (m', true)) :
    (∀ more, (m.feed more).step = (m'.feed more, true)) ∨ m'.Misled := by
  have same (more : List Char) : (m.feed more).draft = m.draft := rfl
  unfold Machine.step at step ⊢
  simp only [same]
  cases taken : m.draft.intake with
  | next f => exact .inl (onNext_feed (by simpa only [taken] using step))
  | text isSpecial plain special => exact .inl (onText_feed (by simpa only [taken] using step))
  | peek f => exact onPeek_feed sound taken (by simpa only [taken] using step)
  | declaration =>
    simp only [taken] at step
    obtain rfl := (Prod.mk.inj step).1
    obtain fed | misled := declarationStep_feed sound taken
    · exact .inl fun more => congrArg (·, true) (fed more)
    · exact .inr misled
  | doctypeWord => exact doctypeWordStep_feed sound taken (by simpa only [taken] using step)

/-- The machine after so many steps that found some text. -/
def advance : Nat → Machine → Option Machine
  | 0, m => some m
  | steps + 1, m =>
    match m.step with
    | (m, true) => advance steps m
    | (_, false) => none

/-- A reading comes from one machine to another. -/
def Reaches (m m' : Machine) : Prop := ∃ steps, m.advance steps = some m'

theorem whole_of_reaches (sound : m.Sound) (reaches : m.Reaches m') :
    m'.Sound ∧ m.whole = m'.whole := by
  obtain ⟨steps, advances⟩ := reaches
  induction steps generalizing m with
  | zero =>
    obtain rfl : m = m' := Option.some.inj advances
    exact ⟨sound, rfl⟩
  | succ steps ih =>
    unfold advance at advances
    split at advances
    · next next step =>
      obtain ⟨sound', same⟩ := ih (progress_of_step sound step).1 advances
      exact ⟨sound', (whole_of_step sound step).trans same⟩
    · cases advances

theorem Misled.reaches (misled : m.Misled) (sound : m.Sound) (reaches : m.Reaches m') :
    m'.Misled := by
  obtain ⟨steps, advances⟩ := reaches
  induction steps generalizing m with
  | zero =>
    obtain rfl : m = m' := Option.some.inj advances
    exact misled
  | succ steps ih =>
    unfold advance at advances
    split at advances
    · next next step => exact ih (misled.step sound step) (progress_of_step sound step).1 advances
    · cases advances

/-- A reading that has not been misled is the same where the text goes on. -/
theorem Reaches.feed (sound : m.Sound) (reaches : m.Reaches m') (guided : ¬ m'.Misled)
    (more : List Char) : (m.feed more).Reaches (m'.feed more) := by
  obtain ⟨steps, advances⟩ := reaches
  refine ⟨steps, ?_⟩
  induction steps generalizing m with
  | zero =>
    obtain rfl : m = m' := Option.some.inj advances
    rfl
  | succ steps ih =>
    unfold advance at advances ⊢
    split at advances
    · next next step =>
      have sound' := (progress_of_step sound step).1
      obtain fed | misled := step_feed sound step
      · rw [fed more]
        exact ih sound' advances
      · exact absurd (misled.reaches sound' ⟨steps, advances⟩) guided
    · cases advances

end Machine

end PageWiring.Markup
