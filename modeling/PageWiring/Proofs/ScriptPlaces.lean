import PageWiring.Proofs.SafeRemovals

/-!
Where the nodes of a script stand in its text.

The offsets of a tree count from behind a byte order mark, and are applied to the text with it. So a
node is looked for where it stands exactly when the text has no such mark. With one, every node is
looked for three bytes too early: a line that starts in these bytes is not counted, and the removal
of a function takes three bytes that are none of its own and leaves its end.
-/
namespace PageWiring

namespace Text

/-- The byte order mark of a text, if it has one. -/
def markOf (text : List Char) : List Char :=
  if text.head? = some '\ufeff' then ['\ufeff'] else []

theorem markOf_append_withoutMark (text : List Char) : markOf text ++ withoutMark text = text := by
  unfold withoutMark
  split
  · rfl
  · next other =>
    have unmarked : text.head? ≠ some '\ufeff' := by
      intro first
      obtain ⟨rest, rfl⟩ := List.head?_eq_some_iff.mp first
      exact other rest rfl
    rw [markOf, if_neg unmarked, List.nil_append]

theorem markOf_cases (text : List Char) : markOf text = [] ∨ markOf text = ['\ufeff'] := by
  unfold markOf
  split
  · exact .inr rfl
  · exact .inl rfl

/-! ### Lines behind a mark -/

/-- Three bytes before a place in a text, the lines up to that place have started unless one of them
starts in these bytes. -/
theorem lineAt_marked_eq_iff (before after : List Char) :
    lineAt (lineStarts 0 ('\ufeff' :: (before ++ after))) (byteLength before) =
        1 + before.count '\n' ↔
      ∀ early late, before = early ++ '\n' :: late → 3 ≤ byteLength late := by
  have shifted : lineStarts 0 ('\ufeff' :: (before ++ after)) =
      lineStarts 3 before ++ lineStarts (3 + byteLength before) after :=
    lineStarts_append before after 3
  have beyond : (lineStarts (3 + byteLength before) after).countP (· ≤ byteLength before) = 0 := by
    rw [List.countP_eq_zero]
    intro start member
    have := lt_of_mem_lineStarts member
    simp only [decide_eq_true_eq]
    omega
  rw [lineAt, shifted, List.countP_append, beyond, Nat.add_zero, ← length_lineStarts before 3,
    Nat.add_left_cancel_iff, List.countP_eq_length]
  constructor
  · intro started early late split
    have here := started _ (mem_lineStarts_iff.mpr ⟨early, late, split, rfl⟩)
    have measured := congrArg byteLength split
    simp only [byteLength_append, byteLength, decide_eq_true_eq] at here measured
    have feed : ('\n').utf8Size = 1 := rfl
    omega
  · intro apart start member
    obtain ⟨early, late, rfl, rfl⟩ := mem_lineStarts_iff.mp member
    have far := apart early late rfl
    simp only [byteLength_append, byteLength, decide_eq_true_eq]
    have feed : ('\n').utf8Size = 1 := rfl
    omega

end Text

namespace Edit.Excision

/-- Blanks and a semicolon do not reach over a visible character beyond the semicolon. -/
theorem stretch_stop_lt {e : Excision} {front after : List Char} {last : Char}
    (whole : e.text = front ++ after) (ends : front.getLast? = some last)
    (visible : Text.isBlank last = false) (beyond : e.place.stop + 1 < Text.byteLength front) :
    e.stretch.stop < Text.byteLength front := by
  refine Nat.lt_of_not_le fun reaches => ?_
  -- the text splits behind the statement, then behind the character, then behind the stretch
  have behindStatement : (e.kept ++ e.lead ++ e.statement) ++ (e.semicolon ++ e.trail ++ e.rest) =
      front ++ after := by
    rw [← whole]
    simp [text]
  have behindStretch : front ++ after =
      (e.kept ++ e.lead ++ e.statement ++ e.semicolon ++ e.trail) ++ e.rest := whole.symm
  have within : Text.byteLength (e.kept ++ e.lead ++ e.statement) ≤ Text.byteLength front := by
    simp only [place] at beyond
    omega
  obtain ⟨gap, rfl, -⟩ := Text.exists_between behindStatement within
  obtain ⟨more, covered, -⟩ := Text.exists_between behindStretch reaches
  have inside : e.semicolon ++ e.trail = gap ++ more := by
    have same : (e.kept ++ e.lead ++ e.statement) ++ (e.semicolon ++ e.trail) =
        (e.kept ++ e.lead ++ e.statement) ++ (gap ++ more) := by simpa using covered
    exact List.append_cancel_left same
  have wide : 1 < Text.byteLength gap := by
    simp only [place, Text.byteLength_append] at beyond
    omega
  -- so the character is one of the blanks behind the semicolon
  have notBlank (front g : List Char) (nonempty : g ≠ [])
      (ends : (front ++ g).getLast? = some last) : e.trail ≠ g ++ more := by
    intro taken
    rw [List.getLast?_append_of_ne_nil _ nonempty] at ends
    have member : last ∈ e.trail := taken ▸ List.mem_append_left _ (List.mem_of_getLast? ends)
    have blank := List.all_eq_true.mp e.trail_blank last member
    rw [visible] at blank
    cases blank
  rcases e.semicolon_here with semicolon | ⟨semicolon, -⟩
  · cases gap with
    | nil => simp [Text.byteLength] at wide
    | cons c g =>
      obtain ⟨rfl, taken⟩ : ';' = c ∧ e.trail = g ++ more := by simpa [semicolon] using inside
      have nonempty : g ≠ [] := by
        rintro rfl
        exact absurd wide (by decide)
      refine notBlank (e.kept ++ e.lead ++ e.statement ++ [';']) g nonempty ?_ taken
      simpa using ends
  · have nonempty : gap ≠ [] := by
      rintro rfl
      exact absurd wide (by decide)
    rw [semicolon, List.nil_append] at inside
    exact notBlank _ gap nonempty ends inside

end Edit.Excision

namespace Script

/-- A stretch in byte offsets, with the text before it, in it and behind it. -/
structure Locates (text : List Char) (span : Span) (before own after : List Char) : Prop where
  pieces : text = before ++ own ++ after
  start : span.start = Text.byteLength before
  stop : span.stop = Text.byteLength (before ++ own)

variable {text before own after : List Char} {span : Span} {parsed : Parsed}

theorem Parsed.text_of_ofText {language : Language}
    (read : Parsed.ofText language text = .ok parsed) : parsed.text = text := by
  unfold Parsed.ofText at read
  dsimp only at read
  split at read
  · cases read
    rfl
  · split at read
    · cases read
      rfl
    · cases read

/-- A stretch of the end of a text is used as it is. -/
theorem range_of_locates (mark : List Char) (whole : parsed.text = mark ++ text)
    (located : Locates text span before own after) : parsed.range span = span := by
  have size : span.start ≤ Text.byteLength parsed.text ∧
      span.stop ≤ Text.byteLength parsed.text := by
    rw [located.start, located.stop, whole, located.pieces]
    simp only [Text.byteLength_append]
    omega
  rw [Parsed.range, Nat.min_eq_left size.1, Nat.min_eq_left size.2]

/-- What is looked for at the given offsets stands there exactly when there is no mark. -/
theorem locates_range_iff {mark : List Char} (whole : parsed.text = mark ++ text)
    (located : Locates text span before own after) :
    Locates parsed.text (parsed.range span) (mark ++ before) own after ↔ mark = [] := by
  rw [range_of_locates mark whole located, whole]
  constructor
  · intro here
    have start := here.start
    rw [located.start, Text.byteLength_append] at start
    exact Text.eq_nil_of_byteLength (by omega)
  · rintro rfl
    exact located

/-- The line of a stretch is that of its place exactly when there is no mark, or no line starts in
the three bytes before that place. -/
theorem lineOf_eq_iff (read : parsed.text = Text.markOf text ++ Text.withoutMark text)
    (located : Locates (Text.withoutMark text) span before own after) :
    parsed.lineOf span = 1 + (Text.markOf text ++ before).count '\n' ↔
      Text.markOf text = [] ∨
        ∀ early late, before = early ++ '\n' :: late → 3 ≤ Text.byteLength late := by
  have line : parsed.lineOf span =
      Text.lineAt (Text.lineStarts 0 parsed.text) (Text.byteLength before) := by
    rw [Parsed.lineOf, Parsed.lineIn, ← located.start]
    exact congrArg _ (congrArg Span.start (range_of_locates _ read located))
  rw [line, read, located.pieces, List.append_assoc before]
  rcases Text.markOf_cases text with mark | mark
  · simp [mark, Text.lineAt_lineStarts]
  · rw [mark]
    simpa using Text.lineAt_marked_eq_iff before (own ++ after)

end Script

/-! ### Removing a declaration -/

open Script

section Removal

variable {text before own after : List Char} {parsed : Parsed} {fix : Fix} {span : Span}

theorem exists_excision_of_unmarked
    (read : Parsed.ofText (.ofFile fix.filePath) text = .ok parsed)
    (found :
      findIn (declares parsed.lineOf fix.functionName fix.line) parsed.tree.items = some span)
    (located : Locates text span before own after) :
    ∃ e : Edit.Excision, e.kept ++ e.lead = before ∧ e.statement = own ∧
      e.semicolon ++ e.trail ++ e.rest = after ∧ Edit.removeFunction text fix = .ok e.edited := by
  obtain ⟨e, front, rfl, behind, removed⟩ := Edit.exists_excision before own after
  have whole : e.text = text := by
    rw [located.pieces, ← front, ← behind]
    simp [Edit.Excision.text]
  have here : parsed.range span =
      ⟨Text.byteLength before, Text.byteLength (before ++ e.statement)⟩ := by
    rw [range_of_locates [] (Parsed.text_of_ofText read) located, ← located.start, ← located.stop]
  refine ⟨e, front, rfl, behind, ?_⟩
  subst whole
  apply Edit.removeFunction_eq_ok read found
  rw [here, located.pieces]
  exact removed

/-- Behind a mark the stretch that goes starts three bytes too early, and ends before the
declaration does when that ends in a visible character. -/
theorem exists_excision_of_marked {edited : List Char} (mark : Text.markOf text = ['\ufeff'])
    (read : Parsed.ofText (.ofFile fix.filePath) text = .ok parsed)
    (found :
      findIn (declares parsed.lineOf fix.functionName fix.line) parsed.tree.items = some span)
    (located : Locates (Text.withoutMark text) span before own after)
    (removed : Edit.removeFunction text fix = .ok edited) :
    ∃ e : Edit.Excision, e.text = text ∧ e.place = span ∧ e.edited = edited ∧
      ∀ last, own.getLast? = some last → Text.isBlank last = false →
        e.stretch.stop < Text.byteLength (Text.markOf text ++ before ++ own) := by
  have whole : text = Text.markOf text ++ before ++ own ++ after := by
    rw [List.append_assoc, List.append_assoc, ← List.append_assoc before, ← located.pieces,
      Text.markOf_append_withoutMark]
  have here : parsed.range span = span := by
    apply range_of_locates (Text.markOf text) _ located
    rw [Parsed.text_of_ofText read, Text.markOf_append_withoutMark]
  have ordered : span.start ≤ span.stop := by
    rw [located.start, located.stop, Text.byteLength_append]
    omega
  obtain ⟨starts, stops⟩ := (Edit.removeFunction_eq_ok_iff read found).mp ⟨edited, removed⟩
  rw [here] at starts stops
  obtain ⟨e, rfl, rfl, taken⟩ := Edit.exists_excision_of_cuts ordered starts stops
  rw [Edit.removeFunction_eq_ok read found (here.symm ▸ taken)] at removed
  refine ⟨e, rfl, rfl, Except.ok.inj removed, fun last ends visible => ?_⟩
  apply e.stretch_stop_lt whole _ visible
  · simp only [located.stop, mark, Text.byteLength_append]
    have wide : Text.byteLength ['\ufeff'] = 3 := by decide
    omega
  · have nonempty : own ≠ [] := by
      rintro rfl
      cases ends
    rwa [List.getLast?_append_of_ne_nil _ nonempty]

end Removal

/-- In a script that could be read, a node stands where its offsets say, counted from behind a byte
order mark. That is where it is looked for exactly when there is no mark, and the line given for it
is its own unless there is a mark and a line starts in the three bytes before it. The removal of a
function without a mark takes its declaration, with a semicolon and blanks; with a mark it leaves
the end of the declaration. -/
theorem located_iff_unmarked {filePath : String} {text : List Char} {parsed : Parsed}
    (read : Parsed.ofText (.ofFile filePath) text = .ok parsed) :
    let mark := Text.markOf text
    ∀ node, (∃ item ∈ parsed.tree.items, Within item node) → ∀ before own after,
      Locates (Text.withoutMark text) node.span before own after →
      (Locates text (parsed.range node.span) (mark ++ before) own after ↔ mark = []) ∧
      (parsed.lineOf node.span = 1 + (mark ++ before).count '\n' ↔
        mark = [] ∨ ∀ early late, before = early ++ '\n' :: late → 3 ≤ Text.byteLength late) ∧
      ∀ fix : Fix, fix.filePath = filePath →
        findIn (declares parsed.lineOf fix.functionName fix.line) parsed.tree.items =
          some node.span →
        (mark = [] → ∃ e : Edit.Excision, e.kept ++ e.lead = before ∧ e.statement = own ∧
          e.semicolon ++ e.trail ++ e.rest = after ∧
          Edit.removeFunction text fix = .ok e.edited) ∧
        (mark ≠ [] → ∀ edited, Edit.removeFunction text fix = .ok edited →
          ∃ e : Edit.Excision, e.text = text ∧ e.place = node.span ∧ e.edited = edited ∧
            ∀ last, own.getLast? = some last → Text.isBlank last = false →
              e.stretch.stop < Text.byteLength (mark ++ before ++ own)) := by
  intro mark node _ before own after numbered
  have same := Parsed.text_of_ofText read
  have whole : parsed.text = mark ++ Text.withoutMark text := by
    rw [same, Text.markOf_append_withoutMark]
  refine ⟨?_, lineOf_eq_iff whole numbered, ?_⟩
  · rw [← locates_range_iff whole numbered, same]
  · rintro fix rfl found
    refine ⟨fun unmarked => ?_, fun marked edited removed => ?_⟩
    · have bare : Text.withoutMark text = text := by
        simpa [unmarked] using whole.symm.trans same
      exact exists_excision_of_unmarked read found (bare ▸ numbered)
    · have isMark := (Text.markOf_cases text).resolve_left marked
      exact exists_excision_of_marked isMark read found numbered removed

/-- A call and a function, behind a byte order mark. -/
def markedScript : List Char := "\ufeffvar x;\nmain();\nfunction a() \x7b\x7d\n".toList

def markedRemoval : Fix where
  kind := .removeFunction
  filePath := "app.js"
  line := 3
  description := ""
  safe := true
  functionName := "a"

theorem markedScript_evaluated :
    ((Parsed.ofText (.ofFile "app.js") markedScript).toOption.bind fun parsed =>
      (findIn (declares parsed.lineOf "a" 3) parsed.tree.items).map fun span =>
        (span, parsed.lineOf span)) = some (⟨15, 30⟩, 2) ∧
    Edit.removeFunction markedScript markedRemoval =
      .ok "\ufeffvar x;\nmain( \x7b\x7d\n".toList := by
  decide +kernel

theorem exists_parsed_markedScript :
    ∃ parsed, Parsed.ofText (.ofFile "app.js") markedScript = .ok parsed ∧
      findIn (declares parsed.lineOf "a" 3) parsed.tree.items = some ⟨15, 30⟩ ∧
      parsed.lineOf ⟨15, 30⟩ = 2 := by
  obtain ⟨parsed, read, evaluated⟩ := Option.bind_eq_some_iff.mp markedScript_evaluated.1
  obtain ⟨span, found, same⟩ := Option.map_eq_some_iff.mp evaluated
  obtain ⟨rfl, line⟩ := Prod.mk.inj same
  refine ⟨parsed, ?_, found, line⟩
  cases outcome : Parsed.ofText (.ofFile "app.js") markedScript with
  | error offset =>
    rw [outcome] at read
    cases read
  | ok other =>
    rw [outcome] at read
    exact congrArg Except.ok (Option.some.inj read)

theorem locates_markedScript :
    Locates (Text.withoutMark markedScript) ⟨15, 30⟩ "var x;\nmain();\n".toList
      "function a() \x7b\x7d".toList "\n".toList :=
  ⟨by decide, by decide, by decide⟩

theorem located_iff_unmarked_markedScript :
    ∃ parsed node, Parsed.ofText (.ofFile "app.js") markedScript = .ok parsed ∧
      (∃ item ∈ parsed.tree.items, Within item node) ∧ node.span = ⟨15, 30⟩ ∧
      ∃ e : Edit.Excision, e.text = markedScript ∧ e.place = ⟨15, 30⟩ ∧ e.stretch.stop < 33 := by
  obtain ⟨parsed, read, found, -⟩ := exists_parsed_markedScript
  obtain ⟨node, ⟨inTree, -⟩, -, span⟩ := exists_declaredBy_of_findIn found
  rw [← span] at found
  obtain ⟨-, -, removed⟩ := located_iff_unmarked read node inTree _ _ _
    (span.symm ▸ locates_markedScript)
  obtain ⟨e, whole, place, -, short⟩ := (removed markedRemoval rfl found).2 (by decide) _
    markedScript_evaluated.2
  exact ⟨parsed, node, read, inTree, span, e, whole, place.trans span,
    short '\x7d' (by decide) (by decide)⟩

/-- Behind a byte order mark the removal of a function cuts into the call before it, and leaves the
body of the function. The function is said to stand one line too early. -/
theorem marked_removal_cuts_call :
    ∃ parsed, Parsed.ofText (.ofFile "app.js") markedScript = .ok parsed ∧
      findIn (declares parsed.lineOf "a" 3) parsed.tree.items = some ⟨15, 30⟩ ∧
      Locates (Text.withoutMark markedScript) ⟨15, 30⟩ "var x;\nmain();\n".toList
        "function a() \x7b\x7d".toList "\n".toList ∧
      parsed.range ⟨15, 30⟩ = ⟨15, 30⟩ ∧ Text.cut? markedScript 15 =
        some ("\ufeffvar x;\nmain(".toList, ");\nfunction a() \x7b\x7d\n".toList) ∧
      parsed.lineOf ⟨15, 30⟩ = 2 ∧
      Edit.removeFunction markedScript markedRemoval =
        .ok "\ufeffvar x;\nmain( \x7b\x7d\n".toList := by
  obtain ⟨parsed, read, found, line⟩ := exists_parsed_markedScript
  have whole : parsed.text = ['\ufeff'] ++ Text.withoutMark markedScript :=
    Parsed.text_of_ofText read
  exact ⟨parsed, read, found, locates_markedScript, range_of_locates _ whole locates_markedScript,
    by decide, line, markedScript_evaluated.2⟩

end PageWiring
