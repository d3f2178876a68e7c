import PageWiring.Proofs.Steps

/-!
Two drafts of one start tag, one of them with an attribute more.

The attributes of a tag decide nothing about how the text is read. So two drafts that differ in one
attribute stay side by side, character by character, until the tag is finished, and from then on
they are equal. If an attribute of the same name comes later, the draft without the first one takes
it.
-/
namespace PageWiring.Markup

/-- The second list is the first one with `extra` put in; or the first one has an attribute of the
same name itself. -/
def Inserted (extra : String × String) (attributes full : List (String × String)) : Prop :=
  (∃ lead trail, attributes = lead ++ trail ∧ full = lead ++ extra :: trail) ∨
    ∃ other ∈ attributes, other.1 = extra.1

/-- The attributes with one more, unless there is one of that name. -/
def addAttribute (attributes : List (String × String)) (name value : List Char) :
    List (String × String) :=
  if name.isEmpty || attributes.any (·.1 == String.ofList name.reverse) then attributes
  else attributes ++ [(String.ofList name.reverse, String.ofList value.reverse)]

theorem mem_addAttribute {attributes : List (String × String)} {name value : List Char}
    {item : String × String} (member : item ∈ attributes) :
    item ∈ addAttribute attributes name value := by
  unfold addAttribute
  split
  · exact member
  · exact List.mem_append_left _ member

theorem Inserted.addAttribute {extra : String × String} {attributes full : List (String × String)}
    (inserted : Inserted extra attributes full) (name value : List Char) :
    Inserted extra (addAttribute attributes name value) (addAttribute full name value) := by
  rcases inserted with ⟨lead, trail, rfl, rfl⟩ | ⟨other, member, same⟩
  · unfold Markup.addAttribute
    by_cases known :
        (name.isEmpty || (lead ++ trail).any (·.1 == String.ofList name.reverse)) = true
    · have known' : (name.isEmpty ||
          (lead ++ extra :: trail).any (·.1 == String.ofList name.reverse)) = true := by
        simp only [List.any_append, List.any_cons, Bool.or_eq_true] at known ⊢
        rcases known with empty | before | behind
        · exact .inl empty
        · exact .inr (.inl before)
        · exact .inr (.inr (.inr behind))
      rw [if_pos known, if_pos known']
      exact .inl ⟨lead, trail, rfl, rfl⟩
    · rw [if_neg known]
      by_cases own : extra.1 = String.ofList name.reverse
      · exact .inr ⟨_, List.mem_append_right _ (List.mem_singleton_self _), own.symm⟩
      · have unknown : ¬ (name.isEmpty ||
            (lead ++ extra :: trail).any (·.1 == String.ofList name.reverse)) = true := by
          simp only [List.any_append, List.any_cons, Bool.or_eq_true, not_or] at known ⊢
          exact ⟨known.1, known.2.1, by simpa using own, known.2.2⟩
        rw [if_neg unknown]
        exact .inl ⟨lead, trail ++ [_], List.append_assoc _ _ _, List.append_assoc _ _ _⟩
  · exact .inr ⟨other, mem_addAttribute member, same⟩

namespace Draft

/-- The attributes of the tag that is being read, with the one that is not finished. -/
def listed (d : Draft) : List (String × String) :=
  addAttribute d.attributes d.attributeName d.attributeValue

theorem finishAttribute_eq (d : Draft) : ∃ value emitted, d.finishAttribute = { d with
    attributes := d.listed
    attributeName := []
    attributeValue := value
    emitted := emitted } := by
  unfold finishAttribute
  split
  · next none =>
    refine ⟨d.attributeValue, d.emitted, ?_⟩
    cases d
    simp_all [listed, addAttribute]
  · next name some =>
    have nonempty : d.attributeName.isEmpty = false := by simpa using some
    dsimp only
    split
    · next known =>
      exact ⟨[], _, by simp [listed, addAttribute, nonempty, known, fault, emit]; rfl⟩
    · next unknown =>
      exact ⟨[], d.emitted, by simp [listed, addAttribute, nonempty, unknown]⟩

theorem startAttribute_eq (d : Draft) (c : Char) : ∃ emitted, d.startAttribute c = { d with
    attributes := d.listed
    attributeName := [c]
    attributeValue := []
    mode := .name
    emitted := emitted } := by
  obtain ⟨value, emitted, same⟩ := d.finishAttribute_eq
  exact ⟨emitted, by rw [startAttribute, same]⟩

/-- Finishing a start tag gives its name and its attributes, and leaves no trace of them. -/
theorem finishTag_eq {d : Draft} (start : d.isEndTag = false) : ∃ emitted,
    emitted.filterMap EventKind.tag? = ⟨d.tagName, d.listed⟩ :: d.tags ∧
      d.finishTag = { d with
        mode := contentMode d.tagName
        attributes := []
        attributeName := []
        attributeValue := []
        lastStartTag := some d.tagName
        emitted := emitted } := by
  obtain ⟨value, emitted, same⟩ := d.finishAttribute_eq
  have tags : emitted.filterMap EventKind.tag? = d.tags := by
    have kept := d.tags_finishAttribute
    rwa [same] at kept
  refine ⟨.startTag ⟨d.tagName, d.listed⟩ :: emitted, ?_, ?_⟩
  · simp [EventKind.tag?, tags]
  · unfold finishTag
    rw [same]
    simp only [start, emit]
    rfl

def withAttributes (d : Draft) (attributes : List (String × String)) : Draft :=
  { d with attributes := attributes }

variable {extra : String × String} {d e : Draft}

/-- Two drafts with the same unfinished attribute. -/
structure Within (extra : String × String) (d e : Draft) : Prop where
  start : d.isEndTag = false
  frame : ∃ attributes emitted, e = { d with attributes := attributes, emitted := emitted }
  inserted : Inserted extra d.attributes e.attributes
  silent : d.tags = [] ∧ e.tags = []

/-- Two drafts whose unfinished attributes may differ and are not to be continued. -/
structure Beside (extra : String × String) (d e : Draft) : Prop where
  start : d.isEndTag = false
  closed : d.reference = none
  frame : ∃ attributes name value emitted, e = { d with
    attributes := attributes
    attributeName := name
    attributeValue := value
    emitted := emitted }
  inserted : Inserted extra d.listed e.listed
  silent : d.tags = [] ∧ e.tags = []

/-- Two drafts of which a start tag was finished. -/
structure Ended (extra : String × String) (d e : Draft) : Prop where
  tags : ∃ t t', d.tags = [t] ∧ e.tags = [t'] ∧ t.name = t'.name ∧
    Inserted extra t.attributes t'.attributes
  frame : { d with emitted := [] } = { e with emitted := [] }

/-- The modes in which an attribute is continued. -/
def Continues (mode : Mode) : Prop :=
  mode = .name ∨ mode = .afterName ∨ mode = .beforeValue ∨ (∃ quoting, mode = .value quoting) ∨
    mode = .afterValue

/-- Two drafts of one start tag between two steps. -/
inductive Twin (extra : String × String) (d e : Draft) : Prop
  | within (mode : Continues d.mode) (within : Within extra d e)
  | between (mode : d.mode = .beforeName ∨ d.mode = .selfClosing) (beside : Beside extra d e)

theorem Within.same {d' : Draft} {full : List (String × String)} (start : d.isEndTag = false)
    (inserted : Inserted extra d.attributes full) (silent : d.tags = [])
    (frame : (d'.isEndTag, d'.attributes) = (d.isEndTag, d.attributes)) (tags : d'.tags = d.tags) :
    Within extra d' (d'.withAttributes full) where
  start := (Prod.mk.inj frame).1.trans start
  frame := ⟨full, d'.emitted, rfl⟩
  inserted := (Prod.mk.inj frame).2 ▸ inserted
  silent := ⟨tags.trans silent, tags.trans silent⟩

theorem Within.beside (within : Within extra d e) (closed : d.reference = none) :
    Beside extra d e := by
  obtain ⟨attributes, emitted, rfl⟩ := within.frame
  exact ⟨within.start, closed, ⟨attributes, _, _, emitted, rfl⟩,
    within.inserted.addAttribute _ _, within.silent⟩

/-- What is done to both drafts apart from their attributes. -/
theorem Beside.enter (beside : Beside extra d e) (mode : Mode) :
    Beside extra (d.enter mode) (e.enter mode) := by
  obtain ⟨attributes, name, value, emitted, rfl⟩ := beside.frame
  exact ⟨beside.start, beside.closed, ⟨attributes, name, value, emitted, rfl⟩, beside.inserted,
    beside.silent⟩

theorem Beside.retry (beside : Beside extra d e) (mode : Mode) :
    Beside extra (d.retry mode) (e.retry mode) := by
  obtain ⟨attributes, name, value, emitted, rfl⟩ := beside.frame
  exact ⟨beside.start, beside.closed, ⟨attributes, name, value, emitted, rfl⟩, beside.inserted,
    beside.silent⟩

theorem Beside.bad (beside : Beside extra d e) : Beside extra d.bad e.bad := by
  obtain ⟨attributes, name, value, emitted, rfl⟩ := beside.frame
  exact ⟨beside.start, beside.closed, ⟨attributes, name, value, _, rfl⟩, beside.inserted,
    beside.silent⟩

theorem Beside.badIf (beside : Beside extra d e) (cs : List Char) (c : Char) :
    Beside extra (d.badIf cs c) (e.badIf cs c) := by
  unfold Draft.badIf
  split
  · exact beside.bad
  · exact beside

/-- The next attribute is the same in both drafts. -/
theorem Beside.startAttribute (beside : Beside extra d e) (c : Char) :
    Within extra (d.startAttribute c) (e.startAttribute c) := by
  obtain ⟨attributes, name, value, emitted, same⟩ := beside.frame
  obtain ⟨noted, started⟩ := d.startAttribute_eq c
  obtain ⟨noted', started'⟩ := e.startAttribute_eq c
  refine ⟨?_, ⟨e.listed, noted', ?_⟩, ?_, ?_, ?_⟩
  · rw [started]
    exact beside.start
  · rw [started, started']
    subst same
    rfl
  · rw [started, started']
    exact beside.inserted
  · exact d.tags_finishAttribute.trans beside.silent.1
  · exact e.tags_finishAttribute.trans beside.silent.2

theorem Beside.finishTag (beside : Beside extra d e) : Ended extra d.finishTag e.finishTag := by
  obtain ⟨attributes, name, value, emitted, same⟩ := beside.frame
  have start : e.isEndTag = false := by
    rw [same]
    exact beside.start
  obtain ⟨noted, tags, finished⟩ := finishTag_eq beside.start
  obtain ⟨noted', tags', finished'⟩ := finishTag_eq start
  refine ⟨⟨⟨d.tagName, d.listed⟩, ⟨e.tagName, e.listed⟩, ?_, ?_, ?_, beside.inserted⟩, ?_⟩
  · rw [finished]
    exact tags.trans (by rw [beside.silent.1])
  · rw [finished']
    exact tags'.trans (by rw [beside.silent.2])
  · rw [same]
    rfl
  · rw [finished, finished', same]
    rfl

/-! ### One character -/

/-- What a character makes of both drafts. -/
def Step (extra : String × String) (d e : Draft) : Prop := Twin extra d e ∨ Ended extra d e

theorem Beside.step_enter (beside : Beside extra d e) {mode : Mode}
    (outer : mode = .beforeName ∨ mode = .selfClosing) :
    Step extra (d.enter mode) (e.enter mode) :=
  .inl (.between outer (beside.enter mode))

theorem Beside.step_retry (beside : Beside extra d e) {mode : Mode}
    (outer : mode = .beforeName ∨ mode = .selfClosing) :
    Step extra (d.retry mode) (e.retry mode) :=
  .inl (.between outer (beside.retry mode))

theorem Beside.step_startAttribute (beside : Beside extra d e) (c : Char) :
    Step extra (d.startAttribute c) (e.startAttribute c) :=
  .inl (.within (.inl rfl) (beside.startAttribute c))

theorem Beside.step_beforeName (beside : Beside extra d e) (mode : d.mode = .beforeName)
    (c : Char) : Step extra (d.beforeNameStep c) (e.beforeNameStep c) := by
  unfold beforeNameStep
  split
  · exact .inl (.between (.inl mode) beside)
  · split
    · exact beside.step_enter (.inr rfl)
    · split
      · exact .inr beside.finishTag
      · split
        · exact beside.bad.step_startAttribute _
        · exact (beside.badIf _ c).step_startAttribute _

theorem Beside.step_selfClosing (beside : Beside extra d e) (c : Char) :
    Step extra (d.selfClosingStep c) (e.selfClosingStep c) := by
  unfold selfClosingStep
  split
  · obtain ⟨attributes, name, value, emitted, rfl⟩ := beside.frame
    refine .inr (Beside.finishTag ?_)
    exact ⟨beside.start, beside.closed, ⟨attributes, name, value, emitted, rfl⟩, beside.inserted,
      beside.silent⟩
  · exact beside.bad.step_retry (.inl rfl)

/-- What leaves the attributes alone keeps two drafts twins. -/
theorem Within.twin_same {full : List (String × String)}
    (within : Within extra d (d.withAttributes full)) {d' : Draft} (mode : Continues d'.mode)
    (frame : (d'.isEndTag, d'.attributes) = (d.isEndTag, d.attributes))
    (tags : d'.tags = d.tags) : Twin extra d' (d'.withAttributes full) :=
  .within mode (.same within.start within.inserted within.silent.1 frame tags)

theorem Within.step_same {full : List (String × String)}
    (within : Within extra d (d.withAttributes full)) {d' : Draft} (mode : Continues d'.mode)
    (frame : (d'.isEndTag, d'.attributes) = (d.isEndTag, d.attributes))
    (tags : d'.tags = d.tags) : Step extra d' (d'.withAttributes full) :=
  .inl (within.twin_same mode frame tags)

theorem Within.step_next {f : Draft → Char → Draft} {full : List (String × String)}
    (within : Within extra d (d.withAttributes full)) (mode : Continues d.mode)
    (closed : d.reference = none) (taken : d.mode.intake = .next f) (c : Char) :
    Step extra (f d c) (f (d.withAttributes full) c) := by
  have beside := within.beside closed
  rcases mode with mode | mode | mode | ⟨quoting, mode⟩ | mode
  · rw [mode] at taken
    cases taken
    unfold nameStep
    split
    · exact within.step_same (.inr (.inl rfl)) rfl rfl
    · split
      · exact beside.step_enter (.inr rfl)
      · split
        · exact within.step_same (.inr (.inr (.inl rfl))) rfl rfl
        · split
          · exact .inr beside.finishTag
          · split
            · exact within.step_same (.inl mode) rfl rfl
            · unfold badIf
              split
              · exact within.step_same (.inl mode) rfl rfl
              · exact within.step_same (.inl mode) rfl rfl
  · rw [mode] at taken
    cases taken
    unfold afterNameStep
    split
    · exact within.step_same (.inr (.inl mode)) rfl rfl
    · split
      · exact beside.step_enter (.inr rfl)
      · split
        · exact within.step_same (.inr (.inr (.inl rfl))) rfl rfl
        · split
          · exact .inr beside.finishTag
          · split
            · exact beside.bad.step_startAttribute _
            · exact (beside.badIf _ c).step_startAttribute _
  · simp [mode, Mode.intake] at taken
  · rw [mode] at taken
    cases quoting <;> simp [Mode.intake, Mode.valueIntake] at taken
  · rw [mode] at taken
    cases taken
    unfold afterValueStep
    split
    · exact beside.step_enter (.inl rfl)
    · split
      · exact beside.step_enter (.inr rfl)
      · split
        · exact .inr beside.finishTag
        · exact beside.bad.step_retry (.inl rfl)

theorem Within.step_text {isSpecial : Char → Bool} {plain special : Draft → Char → Draft}
    {full : List (String × String)} (within : Within extra d (d.withAttributes full))
    (mode : Continues d.mode) (closed : d.reference = none)
    (taken : d.mode.intake = .text isSpecial plain special) (c : Char) :
    Step extra (plain d c) (plain (d.withAttributes full) c) ∧
      Step extra (special d c) (special (d.withAttributes full) c) := by
  have beside := within.beside closed
  have inValue {quoting : Quoting} {d' : Draft} (mode' : d'.mode = .value quoting) :
      Continues d'.mode := .inr (.inr (.inr (.inl ⟨quoting, mode'⟩)))
  have quoted (quote : Char) {quoting : Quoting} (mode : d.mode = .value quoting) :
      Step extra (quotedStep quote d c) (quotedStep quote (d.withAttributes full) c) := by
    unfold quotedStep
    split
    · exact within.step_same (.inr (.inr (.inr (.inr rfl)))) rfl rfl
    · split
      · exact within.step_same (inValue mode) rfl rfl
      · split
        · exact within.step_same (inValue mode) rfl rfl
        · exact within.step_same (inValue mode) rfl rfl
  rcases mode with mode | mode | mode | ⟨quoting, mode⟩ | mode
  · simp [mode, Mode.intake] at taken
  · simp [mode, Mode.intake] at taken
  · simp [mode, Mode.intake] at taken
  · rw [mode] at taken
    cases quoting with
    | double =>
      cases taken
      exact ⟨within.step_same (inValue mode) rfl rfl, quoted '"' mode⟩
    | single =>
      cases taken
      exact ⟨within.step_same (inValue mode) rfl rfl, quoted '\'' mode⟩
    | none =>
      cases taken
      refine ⟨within.step_same (inValue mode) rfl rfl, ?_⟩
      unfold unquotedStep
      split
      · exact beside.step_enter (.inl rfl)
      · split
        · exact within.step_same (inValue mode) rfl rfl
        · split
          · exact .inr beside.finishTag
          · split
            · exact within.step_same (inValue mode) rfl rfl
            · unfold badIf
              split
              · exact within.step_same (inValue mode) rfl rfl
              · exact within.step_same (inValue mode) rfl rfl
  · simp [mode, Mode.intake] at taken

theorem Within.step_peek {f : Draft → Char → Draft × Bool} {full : List (String × String)}
    (within : Within extra d (d.withAttributes full)) (closed : d.reference = none)
    (taken : d.mode.intake = .peek f) (c : Char) :
    (f (d.withAttributes full) c).2 = (f d c).2 ∧
      Step extra (f d c).1 (f (d.withAttributes full) c).1 := by
  obtain ⟨mode, rfl⟩ := mode_of_intake_peek taken
  have inValue (quoting : Quoting) : Continues (.value quoting) :=
    .inr (.inr (.inr (.inl ⟨quoting, rfl⟩)))
  unfold beforeValueStep
  split
  · exact ⟨rfl, within.step_same (.inr (.inr (.inl mode))) rfl rfl⟩
  · split
    · exact ⟨rfl, within.step_same (inValue .double) rfl rfl⟩
    · split
      · exact ⟨rfl, within.step_same (inValue .single) rfl rfl⟩
      · split
        · exact ⟨rfl, .inr (within.beside closed).bad.finishTag⟩
        · exact ⟨rfl, within.step_same (inValue .none) rfl rfl⟩

/-! ### References -/

section References

variable (d : Draft) (full : List (String × String))

theorem finishReference_withAttributes (chars : List Char) :
    (d.withAttributes full).finishReference chars =
      (d.finishReference chars).withAttributes full := by
  have pushed (chars : List Char) (d : Draft) :
      chars.foldl pushValue (d.withAttributes full) =
        (chars.foldl pushValue d).withAttributes full := by
    induction chars generalizing d with
    | nil => rfl
    | cons c rest ih => exact ih (d.pushValue c)
  unfold finishReference
  dsimp only [withAttributes]
  split
  · exact pushed _ { d with reference := none }
  · rfl

theorem finishKnownName_withAttributes (r : Reference) (chars : List Char) :
    (d.withAttributes full).finishKnownName r chars =
      (d.finishKnownName r chars).withAttributes full := by
  unfold finishKnownName
  split
  · exact finishReference_withAttributes (d.giveBack r.beyond) full chars
  · split
    · exact finishReference_withAttributes ((d.fault _).giveBack _) full []
    · split
      · exact finishReference_withAttributes (d.giveBack _) full []
      · exact finishReference_withAttributes ((d.fault _).giveBack _) full chars
    · exact finishReference_withAttributes ((d.fault _).giveBack _) full chars

theorem finishName_withAttributes (r : Reference) (last : Option Char) :
    (d.withAttributes full).finishName r last = (d.finishName r last).withAttributes full := by
  unfold finishName
  split
  · exact finishKnownName_withAttributes d full r _
  · split
    · rfl
    · dsimp only
      split
      · exact finishReference_withAttributes ((d.fault _).giveBack _) full []
      · exact finishReference_withAttributes (d.giveBack _) full []

theorem finishNumber_withAttributes (r : Reference) :
    (d.withAttributes full).finishNumber r = (d.finishNumber r).withAttributes full := by
  unfold finishNumber
  dsimp only
  split
  · exact finishReference_withAttributes d full _
  · exact finishReference_withAttributes (d.fault _) full _

theorem unreadNumber_withAttributes (r : Reference) :
    (d.withAttributes full).unreadNumber r = (d.unreadNumber r).withAttributes full :=
  finishReference_withAttributes ((d.giveBack _).fault _) full []

/-- A reference is read alike whatever the attributes of the tag. -/
theorem reference_next_withAttributes {r : Reference} {f : Draft → Char → Draft}
    (taken : r.intake = .next f) (c : Char) :
    f (d.withAttributes full) c = (f d c).withAttributes full := by
  unfold Reference.intake at taken
  split at taken
  case h_5 =>
    cases taken
    unfold namedStep
    dsimp only
    split
    · split
      · rfl
      · rfl
      · exact finishName_withAttributes d full _ _
    · exact finishName_withAttributes d full _ _
  case h_6 =>
    cases taken
    unfold unknownStep
    dsimp only
    split
    · rfl
    · split
      · exact finishReference_withAttributes ((d.fault _).giveBack _) full []
      · exact finishReference_withAttributes (d.giveBack _) full []
  all_goals cases taken

theorem reference_peek_withAttributes {r : Reference} {f : Draft → Char → Draft × Bool}
    (taken : r.intake = .peek f) (c : Char) :
    f (d.withAttributes full) c = ((f d c).1.withAttributes full, (f d c).2) := by
  unfold Reference.intake at taken
  split at taken
  case h_1 =>
    cases taken
    unfold beginStep
    split
    · exact congrArg (·, false) (finishReference_withAttributes d full [])
    · split <;> rfl
  case h_2 =>
    cases taken
    unfold hashStep
    split <;> rfl
  case h_3 =>
    cases taken
    unfold digitsStep
    split
    · rfl
    · split
      · rfl
      · exact congrArg (·, false) (unreadNumber_withAttributes d full r)
  case h_4 =>
    cases taken
    unfold numberEndStep
    split
    · exact congrArg (·, true) (finishNumber_withAttributes d full r)
    · exact congrArg (·, false) (finishNumber_withAttributes (d.fault _) full r)
  all_goals cases taken

theorem endReference_withAttributes :
    (d.withAttributes full).endReference = d.endReference.withAttributes full := by
  have same : (d.withAttributes full).reference = d.reference := rfl
  unfold endReference
  rw [same]
  split
  · rfl
  · next r opened =>
    split
    · exact finishReference_withAttributes d full []
    · exact finishReference_withAttributes ((d.giveBack _).fault _) full []
    · split
      · exact finishNumber_withAttributes (d.fault _) full r
      · exact unreadNumber_withAttributes d full r
    · exact finishNumber_withAttributes (d.fault _) full r
    · exact finishName_withAttributes d full r none
    · exact finishReference_withAttributes (d.giveBack _) full []

end References

theorem Within.step_closes {d' : Draft} {full : List (String × String)} {given : List Char}
    (within : Within extra d (d.withAttributes full)) (mode : Continues d.mode)
    (closes : d.Closes given d') : Step extra d' (d'.withAttributes full) := by
  obtain ⟨tags, value, emitted, same⟩ := closes
  exact within.step_same (by rw [same]; exact mode) (by rw [same]) tags

theorem Within.step_setReference {full : List (String × String)}
    (within : Within extra d (d.withAttributes full)) (mode : Continues d.mode) (r : Reference) :
    Step extra (d.setReference r) ((d.setReference r).withAttributes full) :=
  within.step_same mode rfl rfl

theorem Within.step_referenceNext {r : Reference} {f : Draft → Char → Draft}
    {full : List (String × String)} (within : Within extra d (d.withAttributes full))
    (mode : Continues d.mode) (sound : r.Sound) (taken : r.intake = .next f) (c : Char) :
    Step extra (f d c) (f (d.withAttributes full) c) := by
  rw [reference_next_withAttributes d full taken]
  obtain ⟨r', kept, -⟩ | ⟨lead, -, -, closes⟩ := reference_next sound taken d c
  · rw [kept]
    exact within.step_setReference mode r'
  · exact within.step_closes mode closes

theorem Within.step_referencePeek {r : Reference} {f : Draft → Char → Draft × Bool}
    {full : List (String × String)} (within : Within extra d (d.withAttributes full))
    (mode : Continues d.mode) (sound : r.Sound) (taken : r.intake = .peek f) (c : Char) :
    (f (d.withAttributes full) c).2 = (f d c).2 ∧
      Step extra (f d c).1 (f (d.withAttributes full) c).1 := by
  rw [reference_peek_withAttributes d full taken]
  refine ⟨rfl, ?_⟩
  obtain ⟨-, ⟨r', kept, -⟩ | ⟨given, -, -, closes⟩⟩ := reference_peek sound taken d c
  · dsimp only
    rw [kept]
    exact within.step_setReference mode r'
  · exact within.step_closes mode closes

theorem Within.step_endReference {full : List (String × String)}
    (within : Within extra d (d.withAttributes full)) (mode : Continues d.mode)
    (sound : ∀ r, d.reference = some r → r.Sound) :
    Twin extra d.endReference (d.withAttributes full).endReference := by
  rw [endReference_withAttributes]
  obtain ⟨closed, same⟩ | ⟨r, opened, closes⟩ := d.endReference_cases
  · rw [same]
    exact within.twin_same mode rfl rfl
  · obtain ⟨given, -, -, tags, value, emitted, same⟩ := closes (sound r opened)
    exact within.twin_same (by rw [same]; exact mode) (by rw [same]) tags

end Draft

end PageWiring.Markup
