import PageWiring.Proofs.Runs
import PageWiring.Markup.Locator

/-!
What a character means for the tag or the comment around it.

A tag is read in phases: behind its `<` or `</`, in its name, and behind its name up to the `>`.
`Draft.Shifts` lists how a character leads from one phase to another, and what is found on the way.
-/
namespace PageWiring.Markup

/-- Is it a tag or a comment, and not a mistake? -/
def EventKind.isMark : EventKind → Bool
  | .fault _ => false
  | _ => true

inductive Phase where
  /-- In text, or in a document type. -/
  | outside
  /-- Behind `<`. -/
  | opening
  /-- Behind `</`. -/
  | closing
  | naming
  /-- In a tag, behind its name. -/
  | inside
  /-- In a comment, or in what is taken for one. -/
  | aside
  deriving DecidableEq, Repr

def Mode.phase : Mode → Phase
  | .tagOpen | .rawLess _ => .opening
  | .endTagOpen | .rawEndOpen _ => .closing
  | .tagName | .rawEndName _ => .naming
  | .beforeName | .name | .afterName | .beforeValue | .value _ | .afterValue | .selfClosing =>
    .inside
  | .declaration | .commentStart | .commentStartDash | .comment | .commentEndDash | .commentEnd
  | .commentEndBang | .bogusComment => .aside
  | _ => .outside

/-- How a character of a tag's name is kept. -/
def nameChar (c : Char) : Char := if c == '\x00' then '�' else c.toLower

namespace Draft

/-- The tags and comments that were found, the latest first. -/
def found (d : Draft) : List EventKind := d.emitted.filter EventKind.isMark

/-- What goes back to the text, the open reference, and what was found. -/
def effects (d : Draft) : List Char × Option Reference × List EventKind :=
  (d.unread, d.reference, d.found)

/-- The kind and the name of the tag that is being read. -/
def title (d : Draft) : Bool × String := (d.isEndTag, d.tagName)

/-- Nothing is found, and the reading stays in its tag or comment, turns to a comment, or leaves it.
-/
inductive Glides (d : Draft) : Draft → Prop
  | leaves {d' : Draft} (same : d'.effects = d.effects) (out : d'.mode.phase = .outside) :
      Glides d d'
  | turns {d' : Draft} (same : d'.effects = d.effects)
      (begun : d.mode.phase ≠ .outside ∧ d.mode.phase ≠ .inside)
      (aside : d'.mode.phase = .aside) (calm : d'.again = d.again) : Glides d d'
  | stays {d' : Draft} (same : d'.effects = d.effects) (inside : d.mode.phase = .inside)
      (still : d'.mode.phase = .inside) (title : d'.title = d.title) : Glides d d'

theorem Glides.effects_eq {d d' : Draft} (glides : d.Glides d') : d'.effects = d.effects := by
  cases glides with
  | leaves same | turns same | stays same => exact same

/-- One more character of a tag, up to the end of its name. -/
inductive Advances (c : Char) (d : Draft) : Draft → Prop
  | opens {d' : Draft} (less : c = '<') (before : d.mode.phase = .outside)
      (behind : d'.mode.phase = .opening) : Advances c d d'
  | slash {d' : Draft} (slash : c = '/') (before : d.mode.phase = .opening)
      (behind : d'.mode.phase = .closing) : Advances c d d'
  | letter {d' : Draft} (before : d.mode.phase = if d'.isEndTag then .closing else .opening)
      (behind : d'.mode.phase = .naming) (name : d'.tagName.toList = [nameChar c]) :
      Advances c d d'
  | spells {d' : Draft} (before : d.mode.phase = .naming) (behind : d'.mode.phase = .naming)
      (same : d'.isEndTag = d.isEndTag)
      (name : d'.tagName.toList = d.tagName.toList ++ [nameChar c]) : Advances c d d'

/-- What the tag that is being read is found to be. -/
def Names (d : Draft) (kind : EventKind) : Prop :=
  if d.isEndTag then kind = .endTag d.tagName
  else ∃ attributes, kind = .startTag ⟨d.tagName, attributes⟩

/-- What the character `c` makes of a draft that has no open reference. -/
inductive Shifts (c : Char) (d : Draft) : Draft → Prop
  | glides {d' : Draft} (glides : Glides d d') : Shifts c d d'
  | advances {d' : Draft} (same : d'.effects = d.effects) (calm : d'.again = d.again)
      (plain : c ≠ '\n') (advances : Advances c d d') : Shifts c d d'
  | named {d' : Draft} (same : d'.effects = d.effects) (ends : endsTagName [c] = true)
      (before : d.mode.phase = .naming) (behind : d'.mode.phase = .inside)
      (title : d'.title = d.title) : Shifts c d d'
  | tag {d' : Draft} {kind : EventKind} (closing : c = '>')
      (begun : d.mode.phase = .naming ∨ d.mode.phase = .inside) (out : d'.mode.phase = .outside)
      (names : d.Names kind) (calm : d'.again = d.again)
      (finds : d'.effects = (d.unread, d.reference, kind :: d.found)) : Shifts c d d'
  | comment {d' : Draft} (begun : d.mode.phase = .aside) (out : d'.mode.phase = .outside)
      (calm : d'.again = d.again)
      (finds : d'.effects = (d.unread, d.reference, .comment :: d.found)) : Shifts c d d'
  | reference (around : Option Char) (ampersand : c = '&')
      (calm : d.mode.phase = .outside ∨ d.mode.phase = .inside) :
      Shifts c d (d.startReference around)

/-! ### Attributes and the ends of tags -/

@[simp] theorem effects_finishAttribute (d : Draft) : d.finishAttribute.effects = d.effects := by
  unfold finishAttribute
  split
  · rfl
  · dsimp only
    split <;> rfl

@[simp] theorem title_finishAttribute (d : Draft) : d.finishAttribute.title = d.title := by
  unfold finishAttribute
  split
  · rfl
  · dsimp only
    split <;> rfl

@[simp] theorem effects_badIf (d : Draft) (cs : List Char) (c : Char) :
    (d.badIf cs c).effects = d.effects := by
  unfold badIf
  split <;> rfl

@[simp] theorem title_badIf (d : Draft) (cs : List Char) (c : Char) :
    (d.badIf cs c).title = d.title := by
  unfold badIf
  split <;> rfl

@[simp] theorem mode_badIf (d : Draft) (cs : List Char) (c : Char) :
    (d.badIf cs c).mode = d.mode := by
  unfold badIf
  split <;> rfl

theorem phase_contentMode (name : String) : (contentMode name).phase = .outside := by
  unfold contentMode
  repeat' split
  all_goals rfl

/-- A finished tag is found under its name, and the reading is in text again. -/
theorem finishTag_finds (d : Draft) :
    d.finishTag.mode.phase = .outside ∧ ∃ kind, d.Names kind ∧
      d.finishTag.effects = (d.unread, d.reference, kind :: d.found) := by
  have same : d.finishAttribute.effects = d.effects := effects_finishAttribute d
  obtain ⟨isEndTag, name⟩ : d.finishAttribute.isEndTag = d.isEndTag ∧
      d.finishAttribute.tagName = d.tagName := Prod.mk.inj (title_finishAttribute d)
  simp only [effects, Prod.mk.injEq] at same
  obtain ⟨unread, reference, found⟩ := same
  unfold finishTag Names
  simp only [isEndTag, name, ← unread, ← reference, ← found]
  split
  · refine ⟨rfl, _, rfl, ?_⟩
    repeat' split
    all_goals rfl
  · exact ⟨phase_contentMode _, _, ⟨_, rfl⟩, rfl⟩

theorem Shifts.finishTag {c : Char} {d d' : Draft} (closing : (c == '>') = true)
    (begun : d.mode.phase = .naming ∨ d.mode.phase = .inside) (same : d'.effects = d.effects)
    (calm : d'.again = d.again) (title : d'.title = d.title) : Shifts c d d'.finishTag := by
  obtain ⟨out, kind, names, finds⟩ := d'.finishTag_finds
  obtain ⟨unread, reference, found⟩ : d'.unread = d.unread ∧ d'.reference = d.reference ∧
      d'.found = d.found := by simpa [effects] using same
  obtain ⟨isEndTag, name⟩ : d'.isEndTag = d.isEndTag ∧ d'.tagName = d.tagName :=
    Prod.mk.inj title
  have again : d'.finishTag.again = d'.again := (Prod.mk.inj (requests_finishTag d')).1
  refine .tag (beq_iff_eq.mp closing) begun out ?_ (again.trans calm)
    (by rw [finds, unread, reference, found])
  unfold Names at names ⊢
  rwa [isEndTag, name] at names

theorem Shifts.startAttribute {c : Char} {d d' : Draft} (first : Char)
    (inside : d.mode.phase = .inside) (same : d'.effects = d.effects)
    (title : d'.title = d.title) : Shifts c d (d'.startAttribute first) :=
  .glides (.stays ((effects_finishAttribute d').trans same) inside rfl
    ((title_finishAttribute d').trans title))

/-! ### The beginning of a tag -/

theorem lowerLetter?_eq_some {c l : Char} (letter : lowerLetter? c = some l) :
    l = nameChar c ∧ c ≠ '\n' := by
  unfold lowerLetter? at letter
  split at letter
  · next isLetter =>
    obtain rfl := Option.some.inj letter
    refine ⟨?_, fun isBreak => ?_⟩
    · have : c ≠ '\x00' := by
        rintro rfl
        exact absurd isLetter (by decide)
      simp [nameChar, this]
    · subst isBreak
      exact absurd isLetter (by decide)
  · cases letter

theorem Shifts.startTag {c l : Char} {d : Draft} {mode : Mode} {isEndTag : Bool}
    (letter : lowerLetter? c = some l)
    (before : d.mode.phase = if isEndTag then .closing else .opening)
    (behind : mode.phase = .naming) : Shifts c d ((d.startTag isEndTag l).enter mode) := by
  obtain ⟨rfl, plain⟩ := lowerLetter?_eq_some letter
  exact .advances rfl rfl plain (.letter before behind (by simp [enter, Draft.startTag, tagName]))

theorem Shifts.pushTag {c x : Char} {d d' : Draft} (naming : d.mode.phase = .naming)
    (plain : c ≠ '\n') (kept : x = nameChar c) (same : d'.effects = d.effects)
    (calm : d'.again = d.again) (mode : d'.mode = d.mode) (title : d'.title = d.title) :
    Shifts c d (d'.pushTag x) := by
  obtain ⟨isEndTag, name⟩ : d'.isEndTag = d.isEndTag ∧ d'.tagName = d.tagName :=
    Prod.mk.inj title
  refine .advances same calm plain (.spells naming (by rw [← naming, ← mode]; rfl) isEndTag ?_)
  rw [← name, ← kept]
  simp [Draft.pushTag, tagName]

theorem Shifts.opens {c : Char} {d : Draft} {mode : Mode} (isLess : (c == '<') = true)
    (outside : d.mode.phase = .outside) (opening : mode.phase = .opening) :
    Shifts c d (d.enter mode) := by
  obtain rfl := beq_iff_eq.mp isLess
  exact .advances rfl rfl (by decide) (.opens rfl outside opening)

theorem Shifts.slash {c : Char} {d : Draft} {mode : Mode} (slash : (c == '/') = true)
    (opening : d.mode.phase = .opening) (closing : mode.phase = .closing) :
    Shifts c d (d.enter mode) := by
  obtain rfl := beq_iff_eq.mp slash
  exact .advances rfl rfl (by decide) (.slash rfl opening closing)

theorem shifts_tagOpenStep {d : Draft} (opening : d.mode.phase = .opening) (c : Char) :
    Shifts c d (d.tagOpenStep c) := by
  have begun : d.mode.phase ≠ .outside ∧ d.mode.phase ≠ .inside := by simp [opening]
  unfold tagOpenStep
  split
  · exact .glides (.turns rfl begun rfl rfl)
  · split
    · next slash => exact .slash slash opening rfl
    · split
      · exact .glides (.turns rfl begun rfl rfl)
      · split
        · next letter => exact .startTag letter opening rfl
        · exact .glides (.leaves rfl rfl)

theorem shifts_endTagOpenStep {d : Draft} (closing : d.mode.phase = .closing) (c : Char) :
    Shifts c d (d.endTagOpenStep c) := by
  unfold endTagOpenStep
  split
  · exact .glides (.leaves rfl rfl)
  · split
    · next letter => exact .startTag letter closing rfl
    · exact .glides (.turns rfl (by simp [closing]) rfl rfl)

theorem shifts_rawLessStep {d : Draft} (kind : RawKind) (opening : d.mode.phase = .opening)
    (c : Char) : Shifts c d (d.rawLessStep kind c) := by
  unfold rawLessStep
  split
  · split
    · next slash => exact .slash slash opening rfl
    · split <;> exact .glides (.leaves rfl rfl)
  · split <;> exact .glides (.leaves rfl rfl)
  · split
    · next slash => exact .slash slash opening rfl
    · split <;> exact .glides (.leaves rfl rfl)

theorem shifts_rawEndOpenStep {d : Draft} (kind : RawKind) (closing : d.mode.phase = .closing)
    (c : Char) : Shifts c d (d.rawEndOpenStep kind c) := by
  unfold rawEndOpenStep
  split
  · next letter => exact .startTag letter closing rfl
  · exact .glides (.leaves rfl rfl)

theorem endsTagName_of_isBlankChar {c : Char} (blank : isBlankChar c = true) :
    endsTagName [c] = true := by
  simp only [isBlankChar, Bool.or_eq_true, beq_iff_eq] at blank
  rcases blank with ((rfl | rfl) | rfl) | rfl <;> decide

theorem Shifts.nameEnds {c : Char} {d : Draft} {mode : Mode} (naming : d.mode.phase = .naming)
    (ends : endsTagName [c] = true) (inside : mode.phase = .inside) :
    Shifts c d (d.enter mode) :=
  .named rfl ends naming inside rfl

theorem shifts_tagNameStep {d : Draft} (naming : d.mode.phase = .naming) (c : Char) :
    Shifts c d (d.tagNameStep c) := by
  unfold tagNameStep
  split
  · next blank => exact .nameEnds naming (endsTagName_of_isBlankChar blank) rfl
  · next solid =>
    have plain : c ≠ '\n' := by
      rintro rfl
      exact solid rfl
    split
    · next slash => exact .nameEnds naming (beq_iff_eq.mp slash ▸ rfl) rfl
    · split
      · next closing => exact .finishTag closing (.inl naming) rfl rfl rfl
      · split
        · next null => exact .pushTag naming plain (by simp [nameChar, null]) rfl rfl rfl rfl
        · next null => exact .pushTag naming plain (by simp [nameChar, null]) rfl rfl rfl rfl

theorem shifts_rawEndNameStep {d : Draft} (kind : RawKind) (naming : d.mode.phase = .naming)
    (c : Char) : Shifts c d (d.rawEndNameStep kind c) := by
  unfold rawEndNameStep
  split
  · next ends =>
    exact .nameEnds naming (endsTagName_of_isBlankChar (Bool.and_eq_true_iff.mp ends).2) rfl
  · split
    · next slash =>
      exact .nameEnds naming (beq_iff_eq.mp (Bool.and_eq_true_iff.mp slash).2 ▸ rfl) rfl
    · split
      · next closing =>
        exact .finishTag (Bool.and_eq_true_iff.mp closing).2 (.inl naming) rfl rfl rfl
      · split
        · next l letter =>
          obtain ⟨kept, plain⟩ := lowerLetter?_eq_some letter
          exact .pushTag naming plain kept rfl rfl rfl rfl
        · exact .glides (.leaves rfl rfl)

/-! ### The other modes -/

/-- The modes that look at one character at a time. -/
theorem shifts_next {d : Draft} {f : Draft → Char → Draft} (taken : d.mode.intake = .next f)
    (c : Char) : Shifts c d (f d c) := by
  cases mode : d.mode with
  | data => simp [mode, Mode.intake, Mode.dataIntake] at taken
  | raw kind => cases kind <;> simp [mode, Mode.intake, Mode.rawIntake, Mode.dataIntake] at taken
  | value quoting => cases quoting <;> simp [mode, Mode.intake, Mode.valueIntake] at taken
  | beforeValue => simp [mode, Mode.intake] at taken
  | declaration => simp [mode, Mode.intake] at taken
  | afterDoctypeName => simp [mode, Mode.intake] at taken
  | tagOpen =>
    rw [mode] at taken
    cases taken
    exact shifts_tagOpenStep (by rw [mode]; rfl) c
  | endTagOpen =>
    rw [mode] at taken
    cases taken
    exact shifts_endTagOpenStep (by rw [mode]; rfl) c
  | tagName =>
    rw [mode] at taken
    cases taken
    exact shifts_tagNameStep (by rw [mode]; rfl) c
  | rawLess kind =>
    rw [mode] at taken
    cases taken
    exact shifts_rawLessStep kind (by rw [mode]; rfl) c
  | rawEndOpen kind =>
    rw [mode] at taken
    cases taken
    exact shifts_rawEndOpenStep kind (by rw [mode]; rfl) c
  | rawEndName kind =>
    rw [mode] at taken
    cases taken
    exact shifts_rawEndNameStep kind (by rw [mode]; rfl) c
  | beforeName | name | afterName | afterValue | selfClosing =>
    have inside : d.mode.phase = .inside := by rw [mode]; rfl
    rw [mode] at taken
    cases taken
    simp only [beforeNameStep, nameStep, afterNameStep, afterValueStep, selfClosingStep]
    repeat' split
    all_goals
      first
      | exact .glides (.stays rfl inside inside rfl)
      | exact .glides (.stays rfl inside rfl rfl)
      | exact .finishTag (by assumption) (.inr inside) rfl rfl rfl
      | exact .startAttribute _ inside rfl rfl
      | exact .startAttribute _ inside (effects_badIf d _ c) (title_badIf d _ c)
      | exact .glides (.stays (effects_badIf d _ c) inside ((congrArg _ (mode_badIf d _ c)).trans
          inside) (title_badIf d _ c))
  | commentStart | commentStartDash | comment | commentEndDash | commentEnd | commentEndBang
  | bogusComment =>
    have aside : d.mode.phase = .aside := by rw [mode]; rfl
    have begun : d.mode.phase ≠ .outside ∧ d.mode.phase ≠ .inside := by simp [aside]
    rw [mode] at taken
    cases taken
    simp only [commentStartStep, commentStartDashStep, commentStep, commentEndDashStep,
      commentEndStep, commentEndBangStep, bogusCommentStep]
    repeat' split
    all_goals
      first
      | exact .glides (.turns rfl begun rfl rfl)
      | exact .glides (.turns rfl begun aside rfl)
      | exact .comment aside rfl rfl rfl
  | _ =>
    have outside : d.mode.phase = .outside := by rw [mode]; rfl
    rw [mode] at taken
    cases taken
    simp only [escapeStartStep, escapeStartDashStep, doubleEscapeStartStep, doubleEscapeEndStep,
      escapedDashStep, escapedDashDashStep, doctypeStep, beforeDoctypeNameStep, doctypeNameStep,
      afterDoctypeWordStep, beforeDoctypeIdStep, doctypeIdStep, afterDoctypeIdStep,
      betweenDoctypeIdsStep, bogusDoctypeStep]
    repeat' split
    all_goals
      first
      | exact .glides (.leaves rfl rfl)
      | exact .glides (.leaves rfl outside)
      | exact .opens (by assumption) outside rfl

theorem shifts_dataStep {d : Draft} {less : Mode} (opening : less.phase = .opening)
    (outside : d.mode.phase = .outside) (c : Char) : Shifts c d (dataStep less d c) := by
  unfold dataStep
  split
  · exact .glides (.leaves rfl outside)
  · split
    · next ampersand => exact .reference _ (beq_iff_eq.mp ampersand) (.inl outside)
    · split
      · next isLess => exact .opens isLess outside opening
      · exact .glides (.leaves rfl outside)

theorem shifts_rawText {d : Draft} (kind : RawKind) (outside : d.mode.phase = .outside)
    (c : Char) : Shifts c d (rawTextStep kind d c) ∧ Shifts c d (escapedStep kind d c) := by
  unfold rawTextStep escapedStep
  constructor
  all_goals
    repeat' split
    all_goals
      first
      | exact .glides (.leaves rfl outside)
      | exact .glides (.leaves rfl rfl)
      | exact .opens (by assumption) outside rfl

theorem shifts_value {d : Draft} (inside : d.mode.phase = .inside) (c : Char) :
    (∀ quote, Shifts c d (quotedStep quote d c)) ∧ Shifts c d (unquotedStep d c) := by
  unfold quotedStep unquotedStep
  refine ⟨fun quote => ?_, ?_⟩
  all_goals
    repeat' split
    all_goals
      first
      | exact .glides (.stays rfl inside rfl rfl)
      | exact .glides (.stays rfl inside inside rfl)
      | exact .reference _ (beq_iff_eq.mp (by assumption)) (.inr inside)
      | exact .finishTag (by assumption) (.inr inside) rfl rfl rfl
      | exact .glides (.stays (effects_badIf d _ c) inside ((congrArg _ (mode_badIf d _ c)).trans
          inside) (title_badIf d _ c))

/-- The modes in which most characters are plain. A plain character leaves the mode as it is. -/
theorem shifts_text {d : Draft} {isSpecial : Char → Bool} {plain special : Draft → Char → Draft}
    (taken : d.mode.intake = .text isSpecial plain special) (c : Char) :
    Shifts c d (special d c) ∧ Glides d (plain d c) := by
  cases mode : d.mode with
  | data =>
    have outside : d.mode.phase = .outside := by rw [mode]; rfl
    rw [mode] at taken
    cases taken
    exact ⟨shifts_dataStep rfl outside c, .leaves rfl outside⟩
  | raw kind =>
    have outside : d.mode.phase = .outside := by rw [mode]; rfl
    rw [mode] at taken
    cases kind with
    | replaceable =>
      cases taken
      exact ⟨shifts_dataStep rfl outside c, .leaves rfl outside⟩
    | text | script =>
      cases taken
      exact ⟨(shifts_rawText _ outside c).1, .leaves rfl outside⟩
    | scriptEscaped | scriptDoubleEscaped =>
      cases taken
      exact ⟨(shifts_rawText _ outside c).2, .leaves rfl outside⟩
  | value quoting =>
    have inside : d.mode.phase = .inside := by rw [mode]; rfl
    rw [mode] at taken
    cases quoting with
    | double | single =>
      cases taken
      exact ⟨(shifts_value inside c).1 _, .stays rfl inside inside rfl⟩
    | none =>
      cases taken
      exact ⟨(shifts_value inside c).2, .stays rfl inside inside rfl⟩
  | _ => simp [mode, Mode.intake] at taken

/-- The start of a value: a `>` ends the tag, and nothing else leaves it. -/
theorem shifts_peek {d : Draft} {f : Draft → Char → Draft × Bool}
    (taken : d.mode.intake = .peek f) (c : Char) :
    Glides d (f d c).1 ∨ (f d c).2 = true ∧ c = '>' ∧ Shifts c d (f d c).1 := by
  obtain ⟨mode, rfl⟩ := mode_of_intake_peek taken
  have inside : d.mode.phase = .inside := by rw [mode]; rfl
  unfold beforeValueStep
  split
  · exact .inl (.stays rfl inside inside rfl)
  · split
    · exact .inl (.stays rfl inside rfl rfl)
    · split
      · exact .inl (.stays rfl inside rfl rfl)
      · split
        · next closing =>
          exact .inr ⟨rfl, beq_iff_eq.mp closing, .finishTag closing (.inr inside) rfl rfl rfl⟩
        · exact .inl (.stays rfl inside rfl rfl)

theorem glides_afterDoctypeNameStep {d : Draft} (outside : d.mode.phase = .outside) (c : Char) :
    Glides d (d.afterDoctypeNameStep c) := by
  unfold afterDoctypeNameStep
  repeat' split
  all_goals
    first
    | exact .leaves rfl rfl
    | exact .leaves rfl outside

/-- The end of the text ends a comment, and cuts off a tag. -/
theorem glides_endStep (d : Draft) :
    d.endStep.again = d.again ∧ (Glides d d.endStep ∨
      d.mode.phase = .aside ∧ d.endStep.mode.phase = .outside ∧
        d.endStep.effects = (d.unread, d.reference, .comment :: d.found)) := by
  refine ⟨(Prod.mk.inj d.endStep_effects.1).1, ?_⟩
  unfold endStep
  cases mode : d.mode with
  | raw kind =>
    refine .inl ?_
    have outside : d.mode.phase = .outside := by rw [mode]; rfl
    cases kind
    all_goals
      first
      | exact .leaves rfl rfl
      | exact .leaves rfl outside
  | data => exact .inl (.leaves rfl (by rw [mode]; rfl))
  | beforeValue => exact .inl (.stays rfl (by rw [mode]; rfl) rfl rfl)
  | declaration => exact .inl (.turns rfl (by rw [mode]; simp [Mode.phase]) rfl rfl)
  | commentStart | commentStartDash | comment | commentEndDash | commentEnd | commentEndBang
  | bogusComment => exact .inr ⟨rfl, rfl, rfl⟩
  | _ => exact .inl (.leaves rfl rfl)

end Draft

end PageWiring.Markup
