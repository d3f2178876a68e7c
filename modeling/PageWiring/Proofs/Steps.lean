import PageWiring.Markup.Reading

/-!
What one character makes of a draft.

`Draft.Reaction` lists what may happen where no reference is open: nothing that concerns the text,
another look at the same character, a finished tag, or an open reference. Inside a reference, a
character is kept, used up, or the reference is closed and some characters go back to the text.
-/
namespace PageWiring.Markup

def EventKind.tag? : EventKind → Option Tag
  | .startTag t => some t
  | _ => none

/-- How often a character may be looked at again, or not be used up, from a mode on: at most so many
times. No mode with some patience is entered to look at a character again. -/
def Mode.patience : Mode → Nat
  | .tagOpen | .rawLess _ | .rawEndOpen _ | .rawEndName _ | .escapeStart | .escapeStartDash
  | .doubleEscapeStart | .doubleEscapeEnd | .beforeValue | .afterValue | .selfClosing
  | .declaration | .doctype | .afterDoctypeName => 1
  | _ => 0

namespace Draft

/-- The start tags that were found, the latest first. -/
def tags (d : Draft) : List Tag := d.emitted.filterMap EventKind.tag?

/-- What a draft has to say to the text: whether the character is read again, what goes back, and
the open reference. -/
def requests (d : Draft) : Bool × List Char × Option Reference := (d.again, d.unread, d.reference)

/-- What a step on the character `c` makes of a draft that has no open reference. -/
inductive Reaction (c : Char) (d : Draft) : Draft → Prop
  | quiet {d' : Draft} (same : d'.requests = d.requests) (tags : d'.tags = d.tags) : Reaction c d d'
  | retry {d' : Draft} (again : d'.requests = (true, d.unread, d.reference))
      (tags : d'.tags = d.tags) (less : d'.mode.patience < d.mode.patience) : Reaction c d d'
  | tag {d' : Draft} (closing : c = '>') (same : d'.requests = d.requests)
      (tags : d'.tags = d.tags ∨ ∃ attributes, d'.tags = ⟨d.tagName, attributes⟩ :: d.tags) :
      Reaction c d d'
  | reference (around : Option Char) (ampersand : c = '&') (calm : d.mode.patience = 0) :
      Reaction c d (d.startReference around)

@[simp] theorem requests_finishAttribute (d : Draft) :
    d.finishAttribute.requests = d.requests := by
  unfold finishAttribute
  split
  · rfl
  · dsimp only
    split <;> rfl

@[simp] theorem tags_finishAttribute (d : Draft) : d.finishAttribute.tags = d.tags := by
  unfold finishAttribute
  split
  · rfl
  · dsimp only
    split <;> rfl

theorem requests_finishTag (d : Draft) : d.finishTag.requests = d.requests := by
  rw [← requests_finishAttribute d]
  unfold finishTag
  dsimp only
  repeat' split
  all_goals rfl

theorem tagName_finishAttribute (d : Draft) : d.finishAttribute.tagName = d.tagName := by
  unfold finishAttribute
  split
  · rfl
  · dsimp only
    split <;> rfl

theorem tags_finishTag (d : Draft) :
    d.finishTag.tags = d.tags ∨
      ∃ attributes, d.finishTag.tags = ⟨d.tagName, attributes⟩ :: d.tags := by
  rw [← tags_finishAttribute d, ← tagName_finishAttribute d]
  unfold finishTag
  dsimp only
  split
  · refine .inl ?_
    repeat' split
    all_goals rfl
  · exact .inr ⟨_, rfl⟩

theorem Reaction.startAttribute {c : Char} {d d' : Draft} (first : Char)
    (same : d'.requests = d.requests) (tags : d'.tags = d.tags) :
    Reaction c d (d'.startAttribute first) :=
  .quiet ((requests_finishAttribute d').trans same) ((tags_finishAttribute d').trans tags)

theorem requests_badIf (d : Draft) (cs : List Char) (c : Char) :
    (d.badIf cs c).requests = d.requests := by
  unfold badIf
  split <;> rfl

theorem tags_badIf (d : Draft) (cs : List Char) (c : Char) : (d.badIf cs c).tags = d.tags := by
  unfold badIf
  split <;> rfl

theorem Reaction.finishTag {c : Char} {d d' : Draft} (closing : (c == '>') = true)
    (same : d'.requests = d.requests) (tags : d'.tags = d.tags) (name : d'.tagName = d.tagName) :
    Reaction c d d'.finishTag :=
  .tag (beq_iff_eq.mp closing) ((requests_finishTag d').trans same)
    (by rw [← tags, ← name]; exact tags_finishTag d')

/-- The modes that look at one character at a time. Each branch of each of them is one of the
reactions. -/
theorem reaction_next {d : Draft} {f : Draft → Char → Draft} (taken : d.mode.intake = .next f)
    (c : Char) : Reaction c d (f d c) := by
  cases mode : d.mode with
  | data => simp [mode, Mode.intake, Mode.dataIntake] at taken
  | raw kind => cases kind <;> simp [mode, Mode.intake, Mode.rawIntake, Mode.dataIntake] at taken
  | value quoting => cases quoting <;> simp [mode, Mode.intake, Mode.valueIntake] at taken
  | beforeValue => simp [mode, Mode.intake] at taken
  | declaration => simp [mode, Mode.intake] at taken
  | afterDoctypeName => simp [mode, Mode.intake] at taken
  | _ =>
    rw [mode] at taken
    cases taken
    simp only [tagOpenStep, endTagOpenStep, tagNameStep, rawLessStep, rawEndOpenStep,
      rawEndNameStep, escapeStartStep, escapeStartDashStep, doubleEscapeStartStep,
      doubleEscapeEndStep, escapedDashStep, escapedDashDashStep, beforeNameStep, nameStep,
      afterNameStep, afterValueStep, selfClosingStep, commentStartStep, commentStartDashStep,
      commentStep, commentEndDashStep, commentEndStep, commentEndBangStep, bogusCommentStep,
      doctypeStep, beforeDoctypeNameStep, doctypeNameStep, afterDoctypeWordStep,
      beforeDoctypeIdStep, doctypeIdStep, afterDoctypeIdStep, betweenDoctypeIdsStep,
      bogusDoctypeStep]
    repeat' split
    all_goals
      first
      | exact .quiet rfl rfl
      | exact .retry rfl rfl (mode ▸ Nat.zero_lt_one)
      | exact .finishTag (by simp_all) rfl rfl rfl
      | exact .startAttribute _ rfl rfl
      | exact .startAttribute _ (requests_badIf d _ c) (tags_badIf d _ c)
      | exact .quiet (requests_badIf d _ c) (tags_badIf d _ c)

theorem reaction_dataStep {d : Draft} (less : Mode) (c : Char) (calm : d.mode.patience = 0) :
    Reaction c d (dataStep less d c) := by
  unfold dataStep
  split
  · exact .quiet rfl rfl
  · split
    · next ampersand => exact .reference _ (beq_iff_eq.mp ampersand) calm
    · split <;> exact .quiet rfl rfl

theorem reaction_quotedStep {d : Draft} (quote c : Char) (calm : d.mode.patience = 0) :
    Reaction c d (quotedStep quote d c) := by
  unfold quotedStep
  split
  · exact .quiet rfl rfl
  · split
    · next ampersand => exact .reference _ (beq_iff_eq.mp ampersand) calm
    · split <;> exact .quiet rfl rfl

theorem reaction_unquotedStep {d : Draft} (c : Char) (calm : d.mode.patience = 0) :
    Reaction c d (unquotedStep d c) := by
  unfold unquotedStep
  split
  · exact .quiet rfl rfl
  · split
    · next ampersand => exact .reference _ (beq_iff_eq.mp ampersand) calm
    · split
      · next closing => exact .finishTag closing rfl rfl rfl
      · split
        · exact .quiet rfl rfl
        · exact .quiet (requests_badIf d _ c) (tags_badIf d _ c)

/-- The modes in which most characters are plain. Ends of lines never are. -/
theorem reaction_text {d : Draft} {isSpecial : Char → Bool} {plain special : Draft → Char → Draft}
    (taken : d.mode.intake = .text isSpecial plain special) (c : Char) :
    Reaction c d (special d c) ∧ (plain d c).requests = d.requests ∧ (plain d c).tags = d.tags ∧
      (plain d c).mode = d.mode ∧ isSpecial '\n' = true ∧ isSpecial '\r' = true := by
  cases mode : d.mode with
  | data =>
    rw [mode] at taken
    cases taken
    exact ⟨reaction_dataStep _ c (by rw [mode]; rfl), rfl, rfl, mode, rfl, rfl⟩
  | raw kind =>
    rw [mode] at taken
    cases kind with
    | replaceable =>
      cases taken
      exact ⟨reaction_dataStep _ c (by rw [mode]; rfl), rfl, rfl, mode, rfl, rfl⟩
    | text | script =>
      cases taken
      refine ⟨?_, rfl, rfl, mode, rfl, rfl⟩
      unfold rawTextStep
      repeat' split
      all_goals exact .quiet rfl rfl
    | scriptEscaped | scriptDoubleEscaped =>
      cases taken
      refine ⟨?_, rfl, rfl, mode, rfl, rfl⟩
      unfold escapedStep
      repeat' split
      all_goals exact .quiet rfl rfl
  | value quoting =>
    rw [mode] at taken
    cases quoting with
    | double | single =>
      cases taken
      exact ⟨reaction_quotedStep _ c (by rw [mode]; rfl), rfl, rfl, mode, rfl, rfl⟩
    | none =>
      cases taken
      exact ⟨reaction_unquotedStep c (by rw [mode]; rfl), rfl, rfl, mode, rfl, rfl⟩
  | _ => simp [mode, Mode.intake] at taken

theorem mode_of_intake_peek {mode : Mode} {f : Draft → Char → Draft × Bool}
    (taken : mode.intake = .peek f) : mode = .beforeValue ∧ f = beforeValueStep := by
  cases mode with
  | beforeValue =>
    cases taken
    exact ⟨rfl, rfl⟩
  | data => simp [Mode.intake, Mode.dataIntake] at taken
  | raw kind => cases kind <;> simp [Mode.intake, Mode.rawIntake, Mode.dataIntake] at taken
  | value quoting => cases quoting <;> simp [Mode.intake, Mode.valueIntake] at taken
  | _ => simp [Mode.intake] at taken

/-- Only the start of a value is looked at before it is read, and left unread but once. -/
theorem reaction_peek {d : Draft} {f : Draft → Char → Draft × Bool}
    (taken : d.mode.intake = .peek f) (c : Char) :
    (f d c).1.requests = d.requests ∧
      (((f d c).2 = false ∧ (f d c).1.mode.patience < d.mode.patience ∧ (f d c).1.tags = d.tags) ∨
        ((f d c).2 = true ∧ ((f d c).1.tags = d.tags ∨
          c = '>' ∧ ∃ attributes, (f d c).1.tags = ⟨d.tagName, attributes⟩ :: d.tags))) := by
  obtain ⟨mode, rfl⟩ := mode_of_intake_peek taken
  unfold beforeValueStep
  split
  · exact ⟨rfl, .inr ⟨rfl, .inl rfl⟩⟩
  · split
    · exact ⟨rfl, .inr ⟨rfl, .inl rfl⟩⟩
    · split
      · exact ⟨rfl, .inr ⟨rfl, .inl rfl⟩⟩
      · split
        · next closing =>
          refine ⟨requests_finishTag d.bad, .inr ⟨rfl, ?_⟩⟩
          exact (tags_finishTag d.bad).imp_right fun tag => ⟨beq_iff_eq.mp closing, tag⟩
        · exact ⟨rfl, .inl ⟨rfl, mode ▸ Nat.zero_lt_one, rfl⟩⟩

theorem afterDoctypeNameStep_effects (d : Draft) (c : Char) :
    (d.afterDoctypeNameStep c).requests = d.requests ∧
      (d.afterDoctypeNameStep c).tags = d.tags := by
  unfold afterDoctypeNameStep
  repeat' split
  all_goals exact ⟨rfl, rfl⟩

end Draft

/-! ### References -/

namespace Draft

/-- A reference is closed: `given` goes back to the text. Apart from that only the value of the
attribute around it and the mistakes have changed. -/
def Closes (d : Draft) (given : List Char) (d' : Draft) : Prop :=
  d'.tags = d.tags ∧ ∃ value emitted, d' = { d with
    reference := none
    unread := given ++ d.unread
    attributeValue := value
    emitted := emitted }

theorem finishReference_eq (d : Draft) (chars : List Char) :
    ∃ value, d.finishReference chars = { d with reference := none, attributeValue := value } := by
  have pushed (chars : List Char) (d : Draft) :
      ∃ value, chars.foldl pushValue d = { d with attributeValue := value } := by
    induction chars generalizing d with
    | nil => exact ⟨_, rfl⟩
    | cons c rest ih => exact ih (d.pushValue c)
  unfold finishReference
  dsimp only
  split
  · obtain ⟨value, same⟩ := pushed (if chars.isEmpty then ['&'] else chars)
      { d with reference := none }
    exact ⟨value, same⟩
  · exact ⟨_, rfl⟩

theorem closes_finishReference {d d' : Draft} {given : List Char} {emitted : List EventKind}
    (noted : d' = { d with unread := given ++ d.unread, emitted := emitted })
    (tags : emitted.filterMap EventKind.tag? = d.tags) (chars : List Char) :
    d.Closes given (d'.finishReference chars) := by
  obtain ⟨value, same⟩ := finishReference_eq d' chars
  rw [same, noted]
  exact ⟨tags, value, emitted, rfl⟩

theorem closes_finishKnownName (d : Draft) (r : Reference) (chars : List Char) :
    d.Closes r.beyond (d.finishKnownName r chars) ∨
      d.Closes r.name (d.finishKnownName r chars) := by
  unfold finishKnownName
  split
  · exact .inl (closes_finishReference rfl rfl chars)
  · split
    · exact .inr (closes_finishReference rfl rfl [])
    · split
      · exact .inr (closes_finishReference rfl rfl [])
      · exact .inl (closes_finishReference rfl rfl chars)
    · exact .inl (closes_finishReference rfl rfl chars)

/-- A name that is not known is closed, or read on as long as letters and digits follow. -/
theorem finishName_cases (d : Draft) (r : Reference) (last : Option Char) :
    (last.any Text.isAsciiAlphanumeric = true ∧
        d.finishName r last = d.setReference { r with mode := .unknown }) ∨
      d.Closes r.beyond (d.finishName r last) ∨ d.Closes r.name (d.finishName r last) := by
  unfold finishName
  split
  · exact .inr (closes_finishKnownName d r _)
  · split
    · next letter => exact .inl ⟨letter, rfl⟩
    · dsimp only
      split
      · exact .inr (.inr (closes_finishReference rfl rfl []))
      · exact .inr (.inr (closes_finishReference rfl rfl []))

theorem closes_unreadNumber (d : Draft) (r : Reference) :
    d.Closes ('#' :: r.marker.toList) (d.unreadNumber r) := by
  refine closes_finishReference rfl ?_ []
  rfl

theorem closes_finishNumber {d d' : Draft} {emitted : List EventKind}
    (noted : d' = { d with emitted := emitted })
    (tags : emitted.filterMap EventKind.tag? = d.tags) (r : Reference) :
    d.Closes [] (d'.finishNumber r) := by
  unfold finishNumber
  dsimp only
  subst noted
  split
  · exact closes_finishReference rfl tags _
  · refine closes_finishReference rfl ?_ _
    exact tags

end Draft

/-- The number of changes of mode that may follow in a reference before a character is used up. -/
def RefMode.patience : RefMode → Nat
  | .begin => 4
  | .hash => 3
  | .digits _ => 2
  | .numberEnd | .named | .unknown => 1

/-- Is a number sign to be given back when no digits follow? -/
def RefMode.hasSign : RefMode → Bool
  | .hash | .digits _ | .numberEnd => true
  | _ => false

namespace Reference

/-- The characters that a reference keeps are those that names are made of. -/
structure Sound (r : Reference) : Prop where
  name : ∀ c ∈ r.name, isNameChar c = true
  marker : ∀ c ∈ r.marker, isNameChar c = true

/-- How much reading a reference may still cause apart from the text behind it: three steps for each
character that may go back, and the changes of its mode. -/
def weight (r : Reference) : Nat :=
  3 * (r.name.length + r.marker.toList.length + r.mode.hasSign.toNat) + r.mode.patience

theorem name_push (r : Reference) (c : Char) : (r.push c).name = r.name ++ [c] :=
  (List.append_assoc _ _ _).symm

theorem isNameChar_of_letter {c : Char} (letter : Text.isAsciiAlphanumeric c = true) :
    isNameChar c = true := by
  simp [isNameChar, letter]

theorem name_lt_weight (r : Reference) : 3 * r.name.length < r.weight := by
  have positive : 0 < r.mode.patience := by
    cases r.mode <;> simp [RefMode.patience]
  unfold weight
  omega

theorem Sound.of_append {r r' : Reference} {c : Char} (sound : r.Sound)
    (name : r'.name = r.name ++ [c]) (marker : r'.marker = r.marker) (fits : isNameChar c = true) :
    r'.Sound where
  name x member := by
    rw [name, List.mem_append, List.mem_singleton] at member
    rcases member with old | rfl
    · exact sound.name x old
    · exact fits
  marker := marker ▸ sound.marker

end Reference

namespace Draft

/-- What becomes of a name with one more character in it. -/
def Extends (r : Reference) (c : Char) (d d' : Draft) : Prop :=
  (∃ r', d' = d.setReference r' ∧ r'.Sound ∧ r'.weight < r.weight + 6) ∨
    ∃ lead, (∀ x ∈ lead, isNameChar x = true) ∧ 3 * lead.length < r.weight ∧
      d.Closes (lead ++ [c]) d'

theorem extends_setReference {r r' : Reference} {c : Char} {d : Draft} (sound : r.Sound)
    (name : r'.name = r.name ++ [c]) (marker : r'.marker = r.marker) (fits : isNameChar c = true)
    (mode : r'.mode = .named ∨ r'.mode = .unknown) : Extends r c d (d.setReference r') := by
  refine .inl ⟨r', rfl, sound.of_append name marker fits, ?_⟩
  have length : r'.name.length = r.name.length + 1 := by simp [name]
  have settled : r'.mode.hasSign = false ∧ r'.mode.patience = 1 := by
    rcases mode with named | unknown <;> simp [*, RefMode.hasSign, RefMode.patience]
  simp only [Reference.weight, length, marker, settled, Bool.toNat_false]
  omega

theorem extends_of_closes {r : Reference} {c : Char} {d d' : Draft} (sound : r.Sound)
    (closes : d.Closes (r.push c).beyond d' ∨ d.Closes (r.push c).name d') : Extends r c d d' := by
  have short := r.name_lt_weight
  rcases closes with closes | closes
  · refine .inr ⟨r.beyond, fun x member => sound.name x (List.mem_append_right _ member), ?_,
      closes⟩
    have : r.name.length = r.known.length + r.beyond.length := List.length_append
    omega
  · exact .inr ⟨r.name, sound.name, short, Reference.name_push r c ▸ closes⟩

theorem extends_finishName {r : Reference} {c : Char} {d : Draft} (sound : r.Sound) :
    Extends r c d (d.finishName (r.push c) (some c)) := by
  obtain ⟨letter, same⟩ | closes := finishName_cases d (r.push c) (some c)
  · rw [same]
    exact extends_setReference sound (Reference.name_push r c) rfl
      (Reference.isNameChar_of_letter letter) (.inr rfl)
  · exact extends_of_closes sound closes

/-- Reading on in a name keeps one more character, or closes the reference; then that character goes
back, with some of those before it. -/
theorem reference_next {r : Reference} {f : Draft → Char → Draft} (sound : r.Sound)
    (taken : r.intake = .next f) (d : Draft) (c : Char) : Extends r c d (f d c) := by
  unfold Reference.intake at taken
  split at taken
  case h_5 mode =>
    cases taken
    unfold namedStep
    dsimp only
    split
    · next fits =>
      split
      · refine extends_setReference sound ?_ rfl fits (.inl mode)
        simpa [Reference.name] using Reference.name_push r c
      · exact extends_setReference sound (Reference.name_push r c) rfl fits (.inl mode)
      · exact extends_finishName sound
    · exact extends_finishName sound
  case h_6 mode =>
    cases taken
    unfold unknownStep
    dsimp only
    split
    · next letter =>
      exact extends_setReference sound (Reference.name_push r c) rfl
        (Reference.isNameChar_of_letter letter) (.inr mode)
    · split
      · exact extends_of_closes sound (.inr (closes_finishReference rfl rfl []))
      · exact extends_of_closes sound (.inr (closes_finishReference rfl rfl []))
  all_goals cases taken

theorem isNameChar_of_digitValue? {base digit : Nat} {c : Char}
    (value : digitValue? base c = some digit) : isNameChar c = true := by
  have widen {low high top : Char} (within : (low ≤ c && c ≤ high) = true) (below : high ≤ top) :
      (low ≤ c && c ≤ top) = true := by
    simp only [Bool.and_eq_true, decide_eq_true_eq] at within ⊢
    exact ⟨within.1, Char.le_trans within.2 below⟩
  apply Reference.isNameChar_of_letter
  unfold Text.isAsciiAlphanumeric
  by_cases isDigit : ('0' ≤ c && c ≤ '9') = true
  · simp [isDigit]
  · by_cases isSmall : ('a' ≤ c && c ≤ 'f') = true
    · simp [widen isSmall (show 'f' ≤ 'z' by decide)]
    · by_cases isBig : ('A' ≤ c && c ≤ 'F') = true
      · simp [widen isBig (show 'F' ≤ 'Z' by decide)]
      · simp [digitValue?, isDigit, isSmall, isBig] at value

/-! ### Looking at a character of a reference -/

section Glances

variable {r r' : Reference} {c : Char} {d d' : Draft}

/-- The reference is closed, and what goes back to the text is less than what was read of it. -/
def Returns (d : Draft) (r : Reference) (d' : Draft) : Prop :=
  ∃ given, (∀ x ∈ given, x = '#' ∨ isNameChar x = true) ∧ 3 * given.length < r.weight ∧
    d.Closes given d'

theorem returns_nothing (closes : d.Closes [] d') : d.Returns r d' :=
  ⟨[], by simp, Nat.zero_lt_of_lt r.name_lt_weight, closes⟩

/-- A number without digits goes back with its sign and its marker. -/
theorem returns_number {base : Nat} (sound : r.Sound) (mode : r.mode = .digits base) :
    d.Returns r (d.unreadNumber r) := by
  refine ⟨'#' :: r.marker.toList, ?_, ?_, closes_unreadNumber d r⟩
  · intro x member
    rcases List.mem_cons.mp member with rfl | marked
    · exact .inl rfl
    · exact .inr (sound.marker x (by simpa using marked))
  · simp [Reference.weight, mode, RefMode.hasSign, RefMode.patience]
    omega

/-- What a look at a character makes of a reference. The character is used up only if it is a number
sign or one that names are made of, and the reference comes nearer to its end or is closed. -/
def Glances (r : Reference) (c : Char) (d : Draft) (result : Draft × Bool) : Prop :=
  (result.2 = true → c = '#' ∨ isNameChar c = true) ∧
    ((∃ r', result.1 = d.setReference r' ∧ r'.Sound ∧
        r'.weight < r.weight + if result.2 then 6 else 0) ∨
      d.Returns r result.1)

theorem glances_used (fits : c = '#' ∨ isNameChar c = true) (sound : r'.Sound)
    (lighter : r'.weight < r.weight + 6) : Glances r c d (d.setReference r', true) :=
  ⟨fun _ => fits, .inl ⟨r', rfl, sound, lighter⟩⟩

theorem glances_unused (sound : r'.Sound) (lighter : r'.weight < r.weight) :
    Glances r c d (d.setReference r', false) :=
  ⟨fun used => absurd used Bool.false_ne_true, .inl ⟨r', rfl, sound, lighter⟩⟩

theorem glances_returns (returns : d.Returns r d') : Glances r c d (d', false) :=
  ⟨fun used => absurd used Bool.false_ne_true, .inr returns⟩

theorem glances_beginStep (sound : r.Sound) (mode : r.mode = .begin) :
    Glances r c d (beginStep r d c) := by
  unfold beginStep
  split
  · exact glances_returns (returns_nothing (closes_finishReference rfl rfl []))
  · split
    · next sign =>
      refine glances_used (.inl (beq_iff_eq.mp sign)) ⟨sound.name, sound.marker⟩ ?_
      simp [Reference.weight, mode, Reference.name, RefMode.hasSign, RefMode.patience]
      omega
    · refine glances_unused ⟨sound.name, sound.marker⟩ ?_
      simp [Reference.weight, mode, Reference.name, RefMode.hasSign, RefMode.patience]

theorem glances_hashStep (sound : r.Sound) (mode : r.mode = .hash) :
    Glances r c d (hashStep r d c) := by
  unfold hashStep
  split
  · next marked =>
    have fits : isNameChar c = true := by
      rcases Bool.or_eq_true_iff.mp marked with small | big
      · rw [beq_iff_eq.mp small]
        decide
      · rw [beq_iff_eq.mp big]
        decide
    refine glances_used (.inr fits) ⟨sound.name, ?_⟩ ?_
    · rintro x ⟨⟩
      exact fits
    · simp [Reference.weight, mode, Reference.name, RefMode.hasSign, RefMode.patience]
      omega
  · refine glances_unused ⟨sound.name, sound.marker⟩ ?_
    simp [Reference.weight, mode, Reference.name, RefMode.hasSign, RefMode.patience]

theorem glances_digitsStep {base : Nat} (sound : r.Sound) (mode : r.mode = .digits base) :
    Glances r c d (digitsStep r base d c) := by
  unfold digitsStep
  split
  · next digit value =>
    refine glances_used (.inr (isNameChar_of_digitValue? value)) ⟨sound.name, sound.marker⟩ ?_
    simp [Reference.weight, mode, Reference.name]
  · split
    · refine glances_unused ⟨sound.name, sound.marker⟩ ?_
      simp [Reference.weight, mode, Reference.name, RefMode.hasSign, RefMode.patience]
    · exact glances_returns (returns_number sound mode)

theorem glances_numberEndStep : Glances r c d (numberEndStep r d c) := by
  unfold numberEndStep
  split
  · next closed =>
    refine ⟨fun _ => .inr ?_, .inr (returns_nothing (closes_finishNumber rfl rfl r))⟩
    rw [beq_iff_eq.mp closed]
    decide
  · refine glances_returns (returns_nothing (closes_finishNumber rfl ?_ r))
    rfl

theorem reference_peek {f : Draft → Char → Draft × Bool} (sound : r.Sound)
    (taken : r.intake = .peek f) (d : Draft) (c : Char) : Glances r c d (f d c) := by
  unfold Reference.intake at taken
  split at taken
  case h_1 mode =>
    cases taken
    exact glances_beginStep sound mode
  case h_2 mode =>
    cases taken
    exact glances_hashStep sound mode
  case h_3 base mode =>
    cases taken
    exact glances_digitsStep sound mode
  case h_4 mode =>
    cases taken
    exact glances_numberEndStep
  all_goals cases taken

end Glances

/-! ### The end of the text -/

/-- At the end of the text a name goes back, or what stands behind its known part. -/
theorem returns_name {r : Reference} {d d' : Draft} (sound : r.Sound)
    (closes : d.Closes r.beyond d' ∨ d.Closes r.name d') : d.Returns r d' := by
  have short := r.name_lt_weight
  rcases closes with closes | closes
  · refine ⟨r.beyond, fun x member => .inr (sound.name x (List.mem_append_right _ member)), ?_,
      closes⟩
    have parts : r.name.length = r.known.length + r.beyond.length := List.length_append
    omega
  · exact ⟨r.name, fun x member => .inr (sound.name x member), short, closes⟩

/-- The end of the text closes every reference. -/
theorem endReference_cases (d : Draft) :
    (d.reference = none ∧ d.endReference = d) ∨
      ∃ r, d.reference = some r ∧ (r.Sound → d.Returns r d.endReference) := by
  unfold endReference
  split
  · next closed => exact .inl ⟨closed, rfl⟩
  · next r opened =>
    refine .inr ⟨r, opened, fun sound => ?_⟩
    split
    · exact returns_nothing (closes_finishReference rfl rfl [])
    · next mode =>
      refine ⟨['#'], fun x member => .inl (List.mem_singleton.mp member), ?_,
        closes_finishReference rfl ?_ []⟩
      · simp [Reference.weight, mode, RefMode.patience, RefMode.hasSign]
      · rfl
    · next base mode =>
      split
      · refine returns_nothing (closes_finishNumber rfl ?_ r)
        rfl
      · exact returns_number sound mode
    · refine returns_nothing (closes_finishNumber rfl ?_ r)
      rfl
    · obtain ⟨letter, -⟩ | closes := finishName_cases d r none
      · cases letter
      · exact returns_name sound closes
    · exact returns_name sound (.inr (closes_finishReference rfl rfl []))

/-- The end of the text finds no tag, asks nothing of the text, and leaves a mode that is not to be
waited for. -/
theorem endStep_effects (d : Draft) :
    d.endStep.requests = d.requests ∧ d.endStep.tags = d.tags ∧ d.endStep.mode.patience = 0 := by
  unfold endStep
  dsimp only
  split
  · next mode => exact ⟨rfl, rfl, by rw [mode]; rfl⟩
  all_goals first
    | exact ⟨rfl, rfl, rfl⟩
    | next mode => exact ⟨rfl, rfl, by rw [mode]; rfl⟩

end Draft

end PageWiring.Markup
