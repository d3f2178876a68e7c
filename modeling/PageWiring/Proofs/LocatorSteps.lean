import PageWiring.Proofs.Trails
import PageWiring.Proofs.PageRecords
import PageWiring.Proofs.Searches

/-!
The locator and the marks of a page, one beside the other.

The locator looks for every tag and comment again, by its spelling, from where it has followed the
one before. It stays in step with the marks as long as nothing on the way looks like the next mark,
no name of a tag holds a null character, and every comment ends at the first `-->` behind its
`<!--`.
-/
namespace PageWiring.Text

/-! ### Lower case -/

theorem asciiLower_append (before after : List Char) :
    asciiLower (before ++ after) = asciiLower before ++ asciiLower after := List.map_append

theorem drop_asciiLower (text : List Char) (n : Nat) :
    (asciiLower text).drop n = asciiLower (text.drop n) := List.map_drop.symm

theorem eq_of_toLower_eq {c x : Char} (plain : c.toNat < 97) (same : x.toLower = c) : x = c := by
  rcases toLower_cases x with unchanged | ⟨low, -, shifted⟩
  · exact unchanged.symm.trans same
  · rw [same] at shifted
    omega

/-- A text without letters is looked for in the page as it is written. -/
theorem prefix_asciiLower {needle : List Char} (plain : ∀ c ∈ needle, c.toNat < 65)
    (text : List Char) : needle <+: asciiLower text ↔ needle <+: text := by
  induction needle generalizing text with
  | nil => simp
  | cons c cs ih =>
    obtain ⟨first, rest⟩ := List.forall_mem_cons.mp plain
    cases text with
    | nil => simp [asciiLower]
    | cons d ds =>
      have same : d.toLower = c ↔ d = c := by
        constructor
        · exact eq_of_toLower_eq (by omega)
        · rintro rfl
          rcases toLower_cases d with unchanged | ⟨low, -⟩
          · exact unchanged
          · omega
      have behind := ih rest ds
      simp only [asciiLower, List.map_cons, List.cons_prefix_cons] at behind ⊢
      rw [behind, eq_comm, same, eq_comm]

/-- So it is found in lower case too, behind a text in which it does not begin. -/
theorem splitFirst_asciiLower {needle lead rest : List Char} (solid : needle ≠ [])
    (plain : ∀ c ∈ needle, c.toNat < 65)
    (first : ∀ n < lead.length, ¬ needle <+: (lead ++ (needle ++ rest)).drop n) :
    splitFirst needle (asciiLower (lead ++ (needle ++ rest))) =
      some (asciiLower lead, asciiLower rest) := by
  have lowered : asciiLower (needle ++ rest) = needle ++ asciiLower rest := by
    have here := (prefix_asciiLower plain (needle ++ rest)).mpr (List.prefix_append _ _)
    obtain ⟨tail, same⟩ := here
    have behind := congrArg (List.drop needle.length) same
    rw [List.drop_left, drop_asciiLower, List.drop_left] at behind
    rw [← same, behind]
  have earlier : ∀ n < (asciiLower lead).length,
      ¬ needle <+: (asciiLower lead ++ asciiLower (needle ++ rest)).drop n := by
    intro n inside
    rw [← asciiLower_append, drop_asciiLower, prefix_asciiLower plain]
    exact first n (by simpa [asciiLower] using inside)
  have found := splitFirst_append solid (lowered ▸ List.prefix_append _ _) earlier
  rwa [← asciiLower_append, lowered, List.drop_left] at found

end PageWiring.Text

namespace PageWiring.Markup

theorem endsTagName_asciiLower (text : List Char) :
    endsTagName (Text.asciiLower text) = endsTagName text := by
  cases text with
  | nil => rfl
  | cons c cs =>
    show endsTagName (c.toLower :: Text.asciiLower cs) = endsTagName (c :: cs)
    rcases Text.toLower_cases c with same | ⟨low, high, shifted⟩
    · rw [same]
      rfl
    · have solid {x : Char} (letter : 65 ≤ x.toNat) (more : List Char) :
          endsTagName (x :: more) = false := by
        have ne (y : Char) (small : y.toNat < 65) : (x == y) = false := by
          rw [beq_eq_false_iff_ne]
          rintro rfl
          omega
        simp [endsTagName, Text.isAsciiBlank, ne]
      rw [solid (by omega), solid low]

/-- A tag is found where it stands, if nothing looks like it earlier. -/
theorem findTag_append {opening lead rest : List Char} (solid : opening ≠ [])
    (here : (opening.isPrefixOf rest && endsTagName (rest.drop opening.length)) = true)
    (first : ∀ n < lead.length, (opening.isPrefixOf ((lead ++ rest).drop n) &&
      endsTagName (((lead ++ rest).drop n).drop opening.length)) = false) (offset : Nat) :
    findTag opening offset (lead ++ rest) = some (offset + Text.byteLength lead) := by
  induction lead generalizing offset with
  | nil =>
    cases rest with
    | nil =>
      have := List.isPrefixOf_iff_prefix.mp (Bool.and_eq_true_iff.mp here).1
      exact absurd (List.prefix_nil.mp this) solid
    | cons c cs =>
      rw [List.nil_append, findTag, if_pos here]
      rfl
  | cons c cs ih =>
    have elsewhere := first 0 (Nat.succ_pos _)
    have later := ih (fun n inside => first (n + 1) (Nat.succ_lt_succ inside))
      (offset + c.utf8Size)
    rw [List.cons_append, findTag, if_neg (by simpa using elsewhere), later, Text.byteLength,
      Nat.add_assoc]

/-! ### Clear marks -/

def EventKind.isTag : EventKind → Bool
  | .startTag _ | .endTag _ => true
  | _ => false

/-- What the locator looks for. -/
def EventKind.opening : EventKind → List Char
  | .startTag t => '<' :: t.name.toList
  | .endTag name => '<' :: '/' :: name.toList
  | _ => ['<', '!', '-', '-']

/-- Does the text begin like a tag of this name, or like a comment? -/
def EventKind.resembles (kind : EventKind) (text : List Char) : Bool :=
  if kind.isTag then kind.opening.isPrefixOf (Text.asciiLower text) &&
    endsTagName (text.drop kind.opening.length)
  else kind.opening.isPrefixOf text

theorem EventKind.resembles_of_isTag {kind : EventKind} (isTag : kind.isTag = true)
    (text : List Char) :
    kind.resembles text = (kind.opening.isPrefixOf (Text.asciiLower text) &&
      endsTagName ((Text.asciiLower text).drop kind.opening.length)) := by
  rw [resembles, if_pos isTag, Text.drop_asciiLower, endsTagName_asciiLower]

namespace Mark

/-- The line of its `<`. -/
def line (mark : Mark) : Nat := 1 + mark.before.count '\n'

/-- The page up to where the locator goes with it: behind the name of a tag, behind a comment. -/
def followed (mark : Mark) : List Char :=
  if mark.event.kind.isTag then
    mark.upTo.take (mark.before.length + mark.event.kind.opening.length)
  else mark.upTo

/-- Its text from the `<` on, as far as the locator goes with it. -/
def spelled (mark : Mark) : List Char := mark.followed.drop mark.before.length

/-- Does the locator know it by its spelling? -/
def isPlain (mark : Mark) : Bool :=
  if mark.event.kind.isTag then !mark.spelled.contains '\x00'
  else mark.event.kind.opening.isPrefixOf mark.spelled &&
    (Text.splitFirst ['-', '-', '>'] (mark.spelled.drop 4)).any (·.2.isEmpty)

/-- It is plain, and between `reached` and its `<` nothing looks like it. -/
def IsClear (text reached : List Char) (mark : Mark) : Prop :=
  mark.isPlain = true ∧ ∀ n < mark.before.length, reached.length ≤ n →
    mark.event.kind.resembles (text.drop n) = false

instance (text reached : List Char) (mark : Mark) : Decidable (mark.IsClear text reached) :=
  inferInstanceAs (Decidable (_ ∧ _))

theorem followed_isPrefix (mark : Mark) : mark.followed <+: mark.upTo := by
  unfold followed
  split
  · exact List.take_prefix _ _
  · exact List.prefix_refl _

end Mark

/-- How far the locator has come when it has followed each of the marks. -/
def reach (reached : List Char) : List Mark → List Char
  | [] => reached
  | mark :: rest => reach mark.followed rest

/-- Each of the marks is clear from where the one before it was followed to. -/
def AllClear (text reached : List Char) : List Mark → Prop
  | [] => True
  | mark :: rest => mark.IsClear text reached ∧ AllClear text mark.followed rest

instance decidableAllClear (text : List Char) : (reached : List Char) → (marks : List Mark) →
    Decidable (AllClear text reached marks)
  | _, [] => isTrue trivial
  | _, mark :: rest =>
    have := decidableAllClear text mark.followed rest
    inferInstanceAs (Decidable (_ ∧ _))

theorem allClear_append {text reached : List Char} {earlier : List Mark} {mark : Mark} :
    AllClear text reached (earlier ++ [mark]) ↔
      AllClear text reached earlier ∧ mark.IsClear text (reach reached earlier) := by
  induction earlier generalizing reached with
  | nil => simp [AllClear, reach]
  | cons first rest ih => simp [AllClear, reach, ih, and_assoc]

/-- The locator is never followed beyond the next mark. -/
theorem reach_isPrefix {reached : List Char} {earlier : List Mark} {mark : Mark}
    (ordered : (earlier ++ [mark]).IsChain fun a b => a.upTo <+: b.before)
    (behind : ∀ first ∈ (earlier ++ [mark]).head?, reached <+: first.before) :
    reach reached earlier <+: mark.before := by
  induction earlier generalizing reached with
  | nil => exact behind mark rfl
  | cons first rest ih =>
    refine ih ordered.tail fun next isNext => ?_
    exact first.followed_isPrefix.trans ((List.isChain_cons.mp ordered).1 next isNext)

/-! ### The spelling of a mark -/

/-- A tag is spelled like its opening, up to case, if its name holds no null character. -/
theorem Written.spelling {slash name before upTo : List Char}
    (written : Written slash name before upTo) (plain : Text.asciiLower slash = slash) :
    ∃ spelled ender tail, upTo = before ++ (spelled ++ ender :: tail) ∧
      endsTagName [ender] = true ∧ spelled.length = ('<' :: (slash ++ name)).length ∧
      ('\x00' ∉ spelled → Text.asciiLower spelled = '<' :: (slash ++ name)) := by
  obtain ⟨spelled, ender, tail, rfl, rfl, ends⟩ := written
  refine ⟨'<' :: (slash ++ spelled), ender, tail, by simp, ends, by simp, fun solid => ?_⟩
  have kept : spelled.map nameChar = spelled.map Char.toLower := by
    refine List.map_congr_left fun c member => ?_
    have : c ≠ '\x00' := by
      rintro rfl
      exact solid (by simp [member])
    simp [nameChar, this]
  show '<'.toLower :: Text.asciiLower (slash ++ spelled) = _
  rw [kept, Text.asciiLower_append, plain]
  rfl

variable {text : List Char} {mark : Mark}

theorem Mark.Fits.spelling (fits : mark.Fits text) (isTag : mark.event.kind.isTag = true) :
    mark.followed = mark.before ++ mark.spelled ∧
      (∃ ender tail, text = mark.before ++ (mark.spelled ++ ender :: tail) ∧
        endsTagName [ender] = true) ∧
      (mark.isPlain = true → Text.asciiLower mark.spelled = mark.event.kind.opening) := by
  obtain ⟨slash, name, written, plain, opening⟩ : ∃ slash name,
      Written slash name mark.before mark.upTo ∧ Text.asciiLower slash = slash ∧
        mark.event.kind.opening = '<' :: (slash ++ name) := by
    have spans := fits.spans
    unfold EventKind.Spans at spans
    cases kind : mark.event.kind with
    | startTag t => exact ⟨[], t.name.toList, by simpa only [kind] using spans, rfl, rfl⟩
    | endTag name => exact ⟨['/'], name.toList, by simpa only [kind] using spans, by decide, rfl⟩
    | comment | fault => simp [kind, EventKind.isTag] at isTag
  obtain ⟨spelled, ender, tail, upTo, ends, length, lower⟩ := written.spelling plain
  obtain ⟨rest, whole⟩ := fits.within
  have followed : mark.followed = mark.before ++ spelled := by
    rw [Mark.followed, if_pos isTag, opening, ← length, upTo, ← List.append_assoc,
      ← List.length_append, List.take_left]
  have same : mark.spelled = spelled := by rw [Mark.spelled, followed, List.drop_left]
  refine ⟨by rw [same, followed], ⟨ender, tail ++ rest, ?_, ends⟩, fun isPlain => ?_⟩
  · rw [same, ← whole, upTo]
    simp
  · rw [Mark.isPlain, if_pos isTag, same] at isPlain
    rw [same, opening]
    exact lower (by simpa using isPlain)

/-- A plain comment stands between `<!--` and the first `-->`. -/
theorem Mark.Fits.comment_spelling (fits : mark.Fits text) (kind : mark.event.kind = .comment)
    (plain : mark.isPlain = true) :
    ∃ body tail,
      mark.followed = mark.before ++ (['<', '!', '-', '-'] ++ (body ++ ['-', '-', '>'])) ∧
      text = mark.followed ++ tail ∧
      ∀ n < body.length, ¬ ['-', '-', '>'] <+: (body ++ (['-', '-', '>'] ++ tail)).drop n := by
  have followed : mark.followed = mark.upTo := by
    rw [Mark.followed, kind]
    rfl
  obtain ⟨inside, upTo⟩ : ∃ inside, mark.upTo = mark.before ++ inside := by
    obtain ⟨rest, same⟩ := fits.spans.isPrefix
    exact ⟨'<' :: rest, by rw [← same]; simp⟩
  have same : mark.spelled = inside := by rw [Mark.spelled, followed, upTo, List.drop_left]
  obtain ⟨tail, whole⟩ := fits.within
  rw [Mark.isPlain, kind, if_neg (by decide), Bool.and_eq_true_iff, same] at plain
  obtain ⟨opens, ends⟩ := plain
  obtain ⟨rest, rfl⟩ := List.isPrefixOf_iff_prefix.mp opens
  cases found : Text.splitFirst ['-', '-', '>'] rest with
  | none => simp [EventKind.opening, found] at ends
  | some parts =>
    obtain ⟨body, after⟩ := parts
    obtain rfl : after = [] := by simpa [EventKind.opening, found] using ends
    obtain ⟨rfl, first⟩ := Text.splitFirst_eq_some found
    refine ⟨body, tail, by rw [followed, upTo]; simp [EventKind.opening], by rw [followed, whole],
      fun n inside here => first n inside ?_⟩
    rw [← List.append_assoc, List.drop_append_of_le_length (by simp; omega)] at here
    rw [List.append_nil]
    refine List.prefix_of_prefix_length_le here (List.prefix_append _ _) ?_
    simp
    omega

/-! ### The locator in step -/

namespace Locator

/-- Goes along with an event. -/
def follow (l : Locator) (e : Event) : Locator :=
  match e.kind with
  | .startTag _ | .endTag _ => (l.followTag e.kind.opening e.line).2
  | .comment => l.comment e.line
  | .fault _ => l

/-- The locator has followed the page up to `reached`. -/
structure InStep (l : Locator) (text reached : List Char) : Prop where
  holds : l.Holds text
  cursor : l.cursor = Text.byteLength reached

variable {l : Locator} {reached : List Char}

theorem InStep.rest {ahead : List Char} (inStep : l.InStep text reached)
    (whole : text = reached ++ ahead) : l.rest = Text.asciiLower ahead := by
  have lowered : l.text = Text.asciiLower reached ++ Text.asciiLower ahead := by
    rw [inStep.holds.1, whole, Text.asciiLower_append]
  have cursor : l.cursor = Text.byteLength (Text.asciiLower reached) := by
    rw [inStep.cursor, Text.byteLength_asciiLower]
  rw [Locator.rest, lowered, cursor, Text.cut?_append]
  rfl

theorem InStep.lineAt {before after : List Char} (inStep : l.InStep text reached)
    (whole : text = before ++ after) :
    l.lineAt (Text.byteLength before) = 1 + before.count '\n' := by
  rw [Locator.lineAt, inStep.holds.2, whole, Text.lineAt_lineStarts]

theorem InStep.cursor_add (inStep : l.InStep text reached) (gap : List Char) :
    l.cursor + Text.byteLength (Text.asciiLower gap) = Text.byteLength (reached ++ gap) := by
  rw [inStep.cursor, Text.byteLength_append, Text.byteLength_asciiLower]

/-- The line of a mark is not below the one on which it starts. -/
theorem line_le_of_fits (fits : mark.Fits text) : mark.line ≤ mark.event.line := by
  have within : mark.before <+: mark.upTo :=
    (List.prefix_append _ _).trans fits.spans.isPrefix
  have := within.sublist.count_le '\n'
  have := fits.line
  unfold Mark.line
  omega

/-- Nothing on the way from where the locator is looks like a clear mark. -/
theorem unlike_of_isClear {gap ahead : List Char} (clear : mark.IsClear text reached)
    (before : reached ++ gap = mark.before) (whole : text = reached ++ ahead) :
    ∀ n < gap.length, mark.event.kind.resembles (ahead.drop n) = false := by
  intro n inside
  have unlike := clear.2 (reached.length + n)
    (by rw [← before, List.length_append]; omega) (Nat.le_add_right _ _)
  rwa [whole, List.drop_length_add_append] at unlike

/-- A clear tag is found where it stands. -/
theorem InStep.followTag (inStep : l.InStep text reached) (fits : mark.Fits text)
    (isTag : mark.event.kind.isTag = true) (behind : reached <+: mark.before)
    (clear : mark.IsClear text reached) :
    l.followTag mark.event.kind.opening mark.event.line =
      (some mark.line, { l with cursor := Text.byteLength mark.followed }) := by
  obtain ⟨followed, ⟨ender, tail, whole, ends⟩, lower⟩ := fits.spelling isTag
  obtain ⟨gap, before⟩ := behind
  have opening := lower clear.1
  have ahead : text = reached ++ (gap ++ (mark.spelled ++ ender :: tail)) := by
    rw [whole, ← before, List.append_assoc]
  have located : findTag mark.event.kind.opening l.cursor l.rest =
      some (Text.byteLength mark.before) := by
    have rest : l.rest = Text.asciiLower gap ++
        (mark.event.kind.opening ++ Text.asciiLower (ender :: tail)) := by
      rw [inStep.rest ahead, ← opening, ← Text.asciiLower_append, ← Text.asciiLower_append]
    rw [rest, ← before, ← inStep.cursor_add gap]
    refine findTag_append ?_ ?_ ?_ _
    · cases kind : mark.event.kind <;> simp [EventKind.opening]
    · rw [List.drop_left, endsTagName_asciiLower, Bool.and_eq_true_iff,
        List.isPrefixOf_iff_prefix]
      exact ⟨List.prefix_append _ _, ends⟩
    · intro n inside
      have unlike :=
        unlike_of_isClear clear before ahead n (by simpa [Text.asciiLower] using inside)
      rw [EventKind.resembles_of_isTag isTag] at unlike
      rwa [← rest, inStep.rest ahead, Text.drop_asciiLower]
  have early : ¬ mark.event.line < mark.line := Nat.not_lt.mpr (line_le_of_fits fits)
  have end' : Text.byteLength mark.before + Text.byteLength mark.event.kind.opening =
      Text.byteLength mark.followed := by
    rw [followed, Text.byteLength_append, ← opening, Text.byteLength_asciiLower]
  unfold Locator.followTag
  rw [located]
  dsimp only
  rw [inStep.lineAt whole, ← Mark.line, if_neg early, end']

/-- A clear comment is followed to its end. -/
theorem InStep.comment (inStep : l.InStep text reached) (fits : mark.Fits text)
    (kind : mark.event.kind = .comment) (behind : reached <+: mark.before)
    (clear : mark.IsClear text reached) :
    l.comment mark.event.line = { l with cursor := Text.byteLength mark.followed } := by
  obtain ⟨body, tail, followed, whole, first⟩ := fits.comment_spelling kind clear.1
  obtain ⟨gap, before⟩ := behind
  have ahead : text = reached ++ (gap ++ (['<', '!', '-', '-'] ++
      (body ++ (['-', '-', '>'] ++ tail)))) := by
    rw [whole, followed, ← before]
    simp
  have opened : Text.splitFirst ['<', '!', '-', '-'] l.rest =
      some (Text.asciiLower gap, Text.asciiLower (body ++ (['-', '-', '>'] ++ tail))) := by
    rw [inStep.rest ahead]
    refine Text.splitFirst_asciiLower (by simp) (by simp) fun n inside here => ?_
    have unlike := unlike_of_isClear clear before ahead n inside
    rw [kind] at unlike
    exact Bool.false_ne_true (unlike.symm.trans (List.isPrefixOf_iff_prefix.mpr here))
  have closed := Text.splitFirst_asciiLower (by simp) (by simp) first
  have start : l.cursor + Text.byteLength (Text.asciiLower gap) =
      Text.byteLength mark.before := by
    rw [inStep.cursor_add, before]
  have early : ¬ mark.event.line < mark.line := Nat.not_lt.mpr (line_le_of_fits fits)
  have end' : Text.byteLength mark.before + 4 + Text.byteLength (Text.asciiLower body) + 3 =
      Text.byteLength mark.followed := by
    have lengths : Text.byteLength ['<', '!', '-', '-'] = 4 ∧
        Text.byteLength ['-', '-', '>'] = 3 := by decide
    simp only [followed, Text.byteLength_asciiLower, Text.byteLength_append, lengths]
    omega
  have here : text = mark.before ++ (['<', '!', '-', '-'] ++
      (body ++ (['-', '-', '>'] ++ tail))) := by
    rw [ahead, ← before, List.append_assoc]
  unfold Locator.comment
  rw [opened]
  dsimp only
  rw [closed, start, inStep.lineAt here, ← Mark.line, if_neg early]
  dsimp only
  rw [end']

/-- The locator stays in step with a clear mark. -/
theorem InStep.follow (inStep : l.InStep text reached) (fits : mark.Fits text)
    (isMark : mark.event.kind.isMark = true) (behind : reached <+: mark.before)
    (clear : mark.IsClear text reached) : (l.follow mark.event).InStep text mark.followed := by
  have moved (l' : Locator) (same : l' = { l with cursor := Text.byteLength mark.followed }) :
      l'.InStep text mark.followed := by
    subst same
    exact ⟨inStep.holds, rfl⟩
  unfold Locator.follow
  cases kind : mark.event.kind with
  | startTag | endTag =>
    have located := inStep.followTag fits (by simp [kind, EventKind.isTag]) behind clear
    exact moved _ (congrArg (·.2) (kind ▸ located))
  | comment => exact moved _ (inStep.comment fits kind behind clear)
  | fault cause => simp [kind, EventKind.isMark] at isMark

/-- And with all marks that are clear one after the other. -/
theorem InStep.foldl {marks : List Mark} (inStep : l.InStep text reached)
    (fits : ∀ mark ∈ marks, mark.Fits text) (isMark : ∀ mark ∈ marks, mark.event.kind.isMark = true)
    (ordered : marks.IsChain fun earlier later => earlier.upTo <+: later.before)
    (behind : ∀ mark ∈ marks.head?, reached <+: mark.before) (clear : AllClear text reached marks) :
    (marks.foldl (fun l mark => l.follow mark.event) l).InStep text (reach reached marks) := by
  induction marks generalizing l reached with
  | nil => exact inStep
  | cons mark rest ih =>
    obtain ⟨first, later⟩ := List.forall_mem_cons.mp fits
    obtain ⟨firstMark, laterMark⟩ := List.forall_mem_cons.mp isMark
    have followed := inStep.follow first firstMark (behind mark rfl) clear.1
    refine ih followed later laterMark ordered.tail ?_ clear.2
    intro next isNext
    exact mark.followed_isPrefix.trans ((List.isChain_cons.mp ordered).1 next isNext)

end Locator

end PageWiring.Markup
