import PageWiring.Proofs.LocatorSteps

/-!
The locator as a walk through a page, with a check at every cut.

The locator may be shown any events, also such as do not belong to its page. It always stands at a
character boundary of the page, it never goes back, and every cut that it makes on its way is at
such a boundary.
-/
namespace PageWiring.Markup

open Text (WalkFault cutAt seek offsetOf)

/-! ### The search for a tag -/

/-- Does the name of a tag end with the opening that stands at this offset? -/
def endsTagAt (text opening : List Char) (position : Nat) : Except WalkFault Bool := do
  let (_, behind) ← cutAt text (position + Text.byteLength opening)
  return endsTagName behind

section

variable {text opening : List Char}

theorem endsTagAt_opening {n : Nat} (here : opening <+: text.drop n) :
    endsTagAt text opening (offsetOf text n) =
      .ok (endsTagName ((text.drop n).drop opening.length)) := by
  rw [endsTagAt, Text.cutAt_behind (List.prefix_iff_eq_append.mp here).symm]
  rfl

/-- A place is accepted where the text looks like the tag. -/
theorem accepted_tag_iff {n : Nat} :
    Text.Accepted text opening (endsTagAt text opening) n ↔
      (opening.isPrefixOf (text.drop n) && endsTagName ((text.drop n).drop opening.length)) =
        true := by
  rw [Text.Accepted, Bool.and_eq_true_iff, List.isPrefixOf_iff_prefix]
  refine and_congr_right fun here => ?_
  rw [endsTagAt_opening here, Except.ok.injEq]

theorem findTag_eq_none (unlike : ∀ n, (opening.isPrefixOf (text.drop n) &&
    endsTagName ((text.drop n).drop opening.length)) = false) (offset : Nat) :
    findTag opening offset text = none := by
  induction text generalizing offset with
  | nil => rfl
  | cons c cs ih =>
    have elsewhere := unlike 0
    rw [findTag, if_neg (by simpa using elsewhere)]
    exact ih (fun n => unlike (n + 1)) _

/-- The tag that is found is the first place that a search accepts. -/
theorem findTag_of_isFirst (solid : opening ≠ []) {start : Nat} {answer : Option Nat}
    (first : Text.IsFirst text opening (endsTagAt text opening) start answer) :
    findTag opening (offsetOf text start) (text.drop start) = answer := by
  have unlike {k : Nat}
      (rejected : ¬ Text.Accepted text opening (endsTagAt text opening) (start + k)) :
      (opening.isPrefixOf ((text.drop start).drop k) &&
        endsTagName (((text.drop start).drop k).drop opening.length)) = false := by
    rw [accepted_tag_iff, Bool.not_eq_true, ← List.drop_drop] at rejected
    exact rejected
  cases answer with
  | none => exact findTag_eq_none (fun k => unlike (first _ (Nat.le_add_right _ _))) _
  | some offset =>
    obtain ⟨n, behind, rfl, accepted, least⟩ := first
    obtain ⟨k, rfl⟩ := Nat.exists_eq_add_of_le behind
    have split : text.drop start = (text.drop start).take k ++ text.drop (start + k) := by
      rw [← List.drop_drop, List.take_append_drop]
    have earlier : ∀ j < ((text.drop start).take k).length,
        (opening.isPrefixOf (((text.drop start).take k ++ text.drop (start + k)).drop j) &&
          endsTagName ((((text.drop start).take k ++ text.drop (start + k)).drop j).drop
            opening.length)) = false := by
      intro j inside
      rw [List.length_take] at inside
      rw [← split]
      exact unlike (least _ (Nat.le_add_right _ _) (by omega))
    rw [Text.offsetOf_add]
    calc findTag opening (offsetOf text start) (text.drop start)
        = findTag opening (offsetOf text start)
            ((text.drop start).take k ++ text.drop (start + k)) := by rw [← split]
      _ = _ := findTag_append solid (accepted_tag_iff.mp accepted) earlier _

/-- A search with checked cuts comes to an end and finds the same tag. -/
theorem seek_tag (name : List Char) {rounds start : Nat} (inside : start ≤ text.length)
    (enough : text.length < rounds) :
    seek text ('<' :: name) 1 (endsTagAt text ('<' :: name)) rounds (offsetOf text start) =
      .ok (findTag ('<' :: name) (offsetOf text start) (text.drop start)) := by
  have testable : ∀ n, '<' :: name <+: text.drop n →
      ∃ verdict, endsTagAt text ('<' :: name) (offsetOf text n) = .ok verdict :=
    fun n here => ⟨_, endsTagAt_opening here⟩
  obtain ⟨answer, found, first⟩ :=
    Text.exists_seek rfl testable inside (Nat.lt_add_left start enough)
  rw [findTag_of_isFirst (List.cons_ne_nil _ _) first]
  exact found

end

namespace Locator

variable {l l' : Locator} {text : List Char}

/-! ### Where the locator stands -/

/-- The locator stands at a character boundary of the page that it holds. -/
structure AtBoundary (l : Locator) (text : List Char) : Prop where
  holds : l.Holds text
  cursor : ∃ n ≤ l.text.length, l.cursor = offsetOf l.text n

theorem rest_of_cursor {n : Nat} (cursor : l.cursor = offsetOf l.text n) :
    l.rest = l.text.drop n := by
  rw [rest, cursor, Text.cut?_offsetOf]
  rfl

/-- All that a step can do: the locator goes on by some of the text that it has not followed yet. -/
structure Advances (l l' : Locator) : Prop where
  text : l'.text = l.text
  starts : l'.starts = l.starts
  piece : ∃ piece, piece <+: l.rest ∧ l'.cursor = l.cursor + Text.byteLength piece

theorem Advances.refl (l : Locator) : l.Advances l := ⟨rfl, rfl, [], List.nil_prefix, rfl⟩

theorem Advances.cursor_le (advances : l.Advances l') : l.cursor ≤ l'.cursor := by
  obtain ⟨piece, -, moved⟩ := advances.piece
  omega

theorem AtBoundary.advances (stands : l.AtBoundary text) (advances : l.Advances l') :
    l'.AtBoundary text := by
  obtain ⟨n, inside, cursor⟩ := stands.cursor
  obtain ⟨piece, ahead, moved⟩ := advances.piece
  rw [rest_of_cursor cursor] at ahead
  refine ⟨⟨advances.text.trans stands.holds.1, advances.starts.trans stands.holds.2⟩,
    n + piece.length, ?_, ?_⟩
  · have := ahead.length_le
    rw [List.length_drop] at this
    rw [advances.text]
    omega
  · rw [moved, cursor, advances.text, Text.offsetOf_behind ahead]

theorem advances_followTag (opening : List Char) (line : Nat) :
    l.Advances (l.followTag opening line).2 := by
  unfold followTag
  split
  · exact .refl l
  · next position located =>
    dsimp only
    split
    · exact .refl l
    · obtain ⟨before, after, ahead, rfl⟩ := findTag_eq_some located
      refine ⟨rfl, rfl, before ++ opening, ahead ▸ List.prefix_append _ _, ?_⟩
      rw [Text.byteLength_append, Nat.add_assoc]

theorem advances_comment (line : Nat) : l.Advances (l.comment line) := by
  unfold comment
  split
  · exact .refl l
  · next before inside opened =>
    obtain ⟨ahead, -⟩ := Text.splitFirst_eq_some opened
    dsimp only
    split
    · exact .refl l
    · split
      · next body after closed =>
        obtain ⟨same, -⟩ := Text.splitFirst_eq_some closed
        refine ⟨rfl, rfl, before ++ (['<', '!', '-', '-'] ++ (body ++ ['-', '-', '>'])), ?_, ?_⟩
        · rw [ahead, same]
          exact ⟨after, by simp⟩
        · have lengths : Text.byteLength ['<', '!', '-', '-'] = 4 ∧
              Text.byteLength ['-', '-', '>'] = 3 := by decide
          simp only [Text.byteLength_append, lengths]
          omega
      · -- A comment that is never closed takes all of the rest.
        have unread : l.rest = before ++ '<' :: (['!', '-', '-'] ++ inside) := ahead
        obtain ⟨followed, whole, cursor⟩ := cut?_of_rest unread
        refine ⟨rfl, rfl, l.rest, List.prefix_refl _, ?_⟩
        show Text.byteLength l.text = _
        rw [whole, Text.byteLength_append, cursor]

theorem advances_follow (e : Event) : l.Advances (l.follow e) := by
  unfold follow
  split
  · exact advances_followTag _ _
  · exact advances_followTag _ _
  · exact advances_comment _
  · exact .refl l

/-! ### Checked walks -/

/-- What the locator answers to an event: the line of a start tag, and where it stands then. -/
def answer (l : Locator) (e : Event) : Option Nat × Locator :=
  match e.kind with
  | .startTag t => ((l.startTag t.name e.line).1, (l.startTag t.name e.line).2)
  | .endTag name => (none, l.endTag name e.line)
  | .comment => (none, l.comment e.line)
  | .fault _ => (none, l)

theorem answer_snd (l : Locator) (e : Event) : (l.answer e).2 = l.follow e := by
  unfold answer follow
  cases e.kind <;> rfl

/-- Follows a tag by a search in which every cut is checked. -/
def walkTag (l : Locator) (rounds : Nat) (opening : List Char) (line : Nat) :
    Except WalkFault (Option Nat × Locator) := do
  match ← seek l.text opening 1 (endsTagAt l.text opening) rounds l.cursor with
  | none => return (none, l)
  | some position =>
    let start := l.lineAt position
    if line < start then return (none, l)
    else return (some start, { l with cursor := position + Text.byteLength opening })

/-- Follows a comment in the same way. -/
def walkComment (l : Locator) (line : Nat) : Except WalkFault Locator := do
  let (_, ahead) ← cutAt l.text l.cursor
  match Text.splitFirst ['<', '!', '-', '-'] ahead with
  | none => return l
  | some (gap, _) =>
    let start := l.cursor + Text.byteLength gap
    if line < l.lineAt start then return l
    else
      let (_, inside) ← cutAt l.text (start + 4)
      match Text.splitFirst ['-', '-', '>'] inside with
      | some (body, _) => return { l with cursor := start + 4 + Text.byteLength body + 3 }
      | none => return { l with cursor := Text.byteLength l.text }

/-- The answer to an event, as a walk with checked cuts and a bounded number of rounds. -/
def walk (l : Locator) (rounds : Nat) (e : Event) : Except WalkFault (Option Nat × Locator) :=
  match e.kind with
  | .startTag t => do
    let (start, l) ← l.walkTag rounds ('<' :: t.name.toList) e.line
    return (some (start.getD e.line), l)
  | .endTag name => do
    let (_, l) ← l.walkTag rounds ('<' :: '/' :: name.toList) e.line
    return (none, l)
  | .comment => do
    let l ← l.walkComment e.line
    return (none, l)
  | .fault _ => return (none, l)

theorem length_text (holds : l.Holds text) : l.text.length = text.length := by
  rw [holds.1, Text.asciiLower, List.length_map]

theorem walkTag_eq (stands : l.AtBoundary text) {rounds : Nat} (enough : text.length < rounds)
    (name : List Char) (line : Nat) :
    l.walkTag rounds ('<' :: name) line = .ok (l.followTag ('<' :: name) line) := by
  obtain ⟨n, inside, cursor⟩ := stands.cursor
  have found := seek_tag name inside (length_text stands.holds ▸ enough)
  rw [walkTag, followTag, rest_of_cursor cursor, cursor, found]
  simp only [bind, Except.bind]
  cases findTag ('<' :: name) (offsetOf l.text n) (l.text.drop n) with
  | none => rfl
  | some position =>
    dsimp only
    split <;> rfl

theorem walkComment_eq (stands : l.AtBoundary text) (line : Nat) :
    l.walkComment line = .ok (l.comment line) := by
  obtain ⟨n, inside, cursor⟩ := stands.cursor
  have unread := rest_of_cursor cursor
  have ahead : cutAt l.text l.cursor = .ok (l.text.take n, l.rest) := by
    rw [unread, cursor, Text.cutAt_offsetOf]
  rw [walkComment, comment, ahead]
  simp only [bind, Except.bind]
  cases opened : Text.splitFirst ['<', '!', '-', '-'] l.rest with
  | none => rfl
  | some parts =>
    obtain ⟨gap, body⟩ := parts
    -- The comment's own text starts four bytes behind its place, at a boundary again.
    have inner :
        ∃ front, cutAt l.text (l.cursor + Text.byteLength gap + 4) = .ok (front, body) := by
      obtain ⟨split, -⟩ := Text.splitFirst_eq_some opened
      have four : Text.byteLength ['<', '!', '-', '-'] = 4 := by decide
      rw [unread, ← List.append_assoc] at split
      have behind := Text.cutAt_behind split
      rw [Text.byteLength_append, four, ← cursor, ← Nat.add_assoc] at behind
      exact ⟨_, behind⟩
    obtain ⟨front, inner⟩ := inner
    dsimp only
    split
    · rfl
    · rw [inner]
      dsimp only
      cases Text.splitFirst ['-', '-', '>'] body with
      | none => rfl
      | some parts => rfl

theorem walk_eq (stands : l.AtBoundary text) {rounds : Nat} (enough : text.length < rounds)
    (e : Event) : l.walk rounds e = .ok (l.answer e) := by
  unfold walk answer
  cases e.kind with
  | startTag t =>
    dsimp only
    rw [walkTag_eq stands enough]
    rfl
  | endTag name =>
    dsimp only
    rw [walkTag_eq stands enough]
    rfl
  | comment =>
    dsimp only
    rw [walkComment_eq stands]
    rfl
  | fault cause => rfl

/-! ### Whole runs -/

theorem atBoundary_ofText (text : List Char) : (ofText text).AtBoundary text :=
  ⟨holds_ofText text, 0, Nat.zero_le _, rfl⟩

theorem AtBoundary.foldl (stands : l.AtBoundary text) (events : List Event) :
    (events.foldl follow l).AtBoundary text := by
  induction events generalizing l with
  | nil => exact stands
  | cons e events ih => exact ih (stands.advances (advances_follow e))

/-- A start tag gets the line on which it is found, or the line on which its reading ended. -/
theorem line_of_answer (stands : l.AtBoundary text) {e : Event} {line : Nat}
    (answered : (l.answer e).1 = some line) : (1 ≤ e.line → 1 ≤ line) ∧ line ≤ e.line := by
  unfold answer at answered
  split at answered
  · next t _ =>
    obtain rfl := Option.some.inj answered
    show (1 ≤ e.line → 1 ≤ (l.followTag ('<' :: t.name.toList) e.line).1.getD e.line) ∧
      (l.followTag ('<' :: t.name.toList) e.line).1.getD e.line ≤ e.line
    cases found : (l.followTag ('<' :: t.name.toList) e.line).1 with
    | none => exact ⟨id, Nat.le_refl _⟩
    | some start =>
      obtain ⟨first, last, -⟩ := followTag_fst stands.holds found
      exact ⟨fun _ => first, last⟩
  · cases answered
  · cases answered
  · cases answered

/-- Whatever events the locator of a page has been shown, it stands at a character boundary of the
page, and the next event does not take it back. The answer to that event is reached by a walk which
comes to an end and cuts the page at character boundaries only, and a line in the answer is one of
the lines up to the event's own. -/
theorem follow_in_bounds (text : List Char) (events : List Event) (next : Event) {rounds : Nat}
    (enough : text.length < rounds) (counted : 1 ≤ next.line) :
    let l := events.foldl follow (ofText text)
    (Text.cut? text l.cursor).isSome ∧
      l.follow next = (l.answer next).2 ∧ l.cursor ≤ (l.follow next).cursor ∧
      l.walk rounds next = .ok (l.answer next) ∧
      ∀ line, (l.answer next).1 = some line → 1 ≤ line ∧ line ≤ next.line := by
  intro l
  have stands : l.AtBoundary text := (atBoundary_ofText text).foldl events
  refine ⟨?_, (answer_snd l next).symm, (advances_follow next).cursor_le,
    walk_eq stands enough next, fun line answered => ?_⟩
  · obtain ⟨n, -, cursor⟩ := stands.cursor
    rw [cursor, stands.holds.1, Text.offsetOf_asciiLower, Text.cut?_offsetOf]
    rfl
  · obtain ⟨first, last⟩ := line_of_answer stands answered
    exact ⟨first counted, last⟩

/-- A comment behind a letter of two bytes, and a tag over two lines. -/
def hiddenTag : List Char := "é<!-- <p> -->\n<P\n>".toList

/-- The second event is none of the page. -/
def hiddenTagEvents : List Event := [⟨.comment, 1⟩, ⟨.endTag "nav", 9⟩]

theorem follow_in_bounds_hiddenTag :
    let l := hiddenTagEvents.foldl follow (ofText hiddenTag)
    let next : Event := ⟨.startTag ⟨"p", []⟩, 3⟩
    hiddenTag.length < 19 ∧ l.cursor = 14 ∧ (Text.cut? hiddenTag 14).isSome ∧
      l.cursor ≤ (l.follow next).cursor ∧ l.walk 19 next = .ok (some 2, l.follow next) ∧
      1 ≤ 2 ∧ 2 ≤ next.line := by
  intro l next
  have cursor : l.cursor = 14 := by decide
  have line : (l.answer next).1 = some 2 := by decide
  obtain ⟨boundary, same, onward, walked, lines⟩ :=
    follow_in_bounds hiddenTag hiddenTagEvents next (by decide : hiddenTag.length < 19) (by decide)
  exact ⟨by decide, cursor, cursor ▸ boundary, onward, same ▸ line ▸ walked, lines 2 line⟩

end Locator

end PageWiring.Markup
