import PageWiring.Fix.Edit
import PageWiring.Proofs.LocatorSteps

/-!
What goes with a statement that is removed.

A semicolon right behind the statement goes with it. Where nothing else stands on its first and its
last line, the blanks around it go too, so that full lines are taken. Nothing else goes: the text is
put together from six pieces, and the first and the last one stay.
-/
namespace PageWiring

namespace Text

theorem eq_nil_of_byteLength {text : List Char} (empty : byteLength text = 0) : text = [] := by
  cases text with
  | nil => rfl
  | cons c cs =>
    have positive := c.utf8Size_pos
    simp only [byteLength] at empty
    omega

/-- Of two cuts through a text the one at the lower offset comes first. -/
theorem exists_between {before tail head after : List Char} (same : before ++ tail = head ++ after)
    (ordered : byteLength before ≤ byteLength head) :
    ∃ between, head = before ++ between ∧ tail = between ++ after := by
  rcases List.append_eq_append_iff.mp same with ⟨between, longer, rest⟩ | ⟨between, longer, rest⟩
  · exact ⟨between, longer, rest⟩
  · have measured := congrArg byteLength longer
    rw [byteLength_append] at measured
    have none : between = [] := eq_nil_of_byteLength (by omega)
    subst none
    exact ⟨[], by simpa using longer.symm, by simpa using rest.symm⟩

theorem break_not_mem_takeWhile (text : List Char) : '\n' ∉ text.takeWhile (· != '\n') := by
  intro member
  have plain := List.all_eq_true.mp List.all_takeWhile _ member
  simp at plain

/-- A text splits where its last line starts. -/
theorem exists_lastLine (text : List Char) :
    ∃ kept, text = kept ++ (text.reverse.takeWhile (· != '\n')).reverse ∧
      (kept = [] ∨ kept.getLast? = some '\n') := by
  refine ⟨(text.reverse.dropWhile (· != '\n')).reverse, ?_, ?_⟩
  · rw [← List.reverse_append, List.takeWhile_append_dropWhile, List.reverse_reverse]
  · rw [List.reverse_eq_nil_iff, List.getLast?_reverse]
    cases stopped : text.reverse.dropWhile (· != '\n') with
    | nil => exact .inl rfl
    | cons c cs =>
      have stops := List.head?_dropWhile_not (· != '\n') text.reverse
      rw [stopped] at stops
      exact .inr (by simpa using stops)

/-- A text splits behind the line feed that ends its first line; without one it is that line. -/
theorem exists_firstLine (text : List Char) :
    let line := text.takeWhile (· != '\n')
    let trail := text.take (line.length + 1)
    ∃ rest, text = trail ++ rest ∧ (trail = line ++ ['\n'] ∨ rest = [] ∧ trail = line) := by
  intro line trail
  have split : text = line ++ text.dropWhile (· != '\n') :=
    List.takeWhile_append_dropWhile.symm
  cases stopped : text.dropWhile (· != '\n') with
  | nil =>
    rw [stopped, List.append_nil] at split
    have whole : trail = text := List.take_of_length_le (by rw [← split]; omega)
    exact ⟨[], by rw [whole, List.append_nil], .inr ⟨rfl, whole.trans split⟩⟩
  | cons c cs =>
    have stops := List.head?_dropWhile_not (· != '\n') text
    rw [stopped] at stops split
    obtain rfl : c = '\n' := by simpa using stops
    have taken : trail = line ++ ['\n'] := by
      show text.take (line.length + 1) = _
      rw [split, List.take_length_add_append]
      rfl
    exact ⟨cs, by rw [taken, List.append_assoc]; exact split, .inl taken⟩

end Text

namespace Edit

open Script (Span)

/-! ### The pieces of a text -/

/-- Something besides blanks stands on the last line of one text or on the first line of another. -/
def SharesLine (before behind : List Char) : Prop :=
  (∃ early c late, before = early ++ c :: late ∧ Text.isBlank c = false ∧ '\n' ∉ late) ∨
    ∃ early c late, behind = early ++ c :: late ∧ Text.isBlank c = false ∧ '\n' ∉ early

/-- What stands between `kept` and `rest` starts on the line of the statement, where that line
starts, and ends behind the first line feed from the end of the statement on, or with the text. -/
def FullLines (kept lead trail rest : List Char) : Prop :=
  (kept = [] ∨ kept.getLast? = some '\n') ∧ '\n' ∉ lead ∧
    ((∃ line, trail = line ++ ['\n'] ∧ '\n' ∉ line) ∨ rest = [] ∧ '\n' ∉ trail)

/-- A text around a statement that is removed. `kept` and `rest` stay; blanks go only where full
lines go, and a semicolon only right behind the statement. -/
structure Excision where
  kept : List Char
  lead : List Char
  statement : List Char
  semicolon : List Char
  trail : List Char
  rest : List Char
  lead_blank : lead.all Text.isBlank
  trail_blank : trail.all Text.isBlank
  semicolon_here : semicolon = [';'] ∨ semicolon = [] ∧ (trail ++ rest).head? ≠ some ';'
  lines : FullLines kept lead trail rest ∨ lead = [] ∧ trail = [] ∧ SharesLine kept rest

namespace Excision

/-- The text before anything is removed. -/
def text (e : Excision) : List Char :=
  e.kept ++ e.lead ++ e.statement ++ e.semicolon ++ e.trail ++ e.rest

/-- Where the statement stands. -/
def place (e : Excision) : Span :=
  ⟨Text.byteLength (e.kept ++ e.lead), Text.byteLength (e.kept ++ e.lead ++ e.statement)⟩

/-- The stretch that goes. -/
def stretch (e : Excision) : Span :=
  ⟨Text.byteLength e.kept,
    Text.byteLength (e.kept ++ e.lead ++ e.statement ++ e.semicolon ++ e.trail)⟩

def edited (e : Excision) : List Char := e.kept ++ e.rest

theorem cutOut_stretch (e : Excision) : cutOut e.text e.stretch = some e.edited := by
  have starts : Text.cut? e.text e.stretch.start =
      some (e.kept, e.lead ++ e.statement ++ e.semicolon ++ e.trail ++ e.rest) := by
    have cut := Text.cut?_append e.kept (e.lead ++ e.statement ++ e.semicolon ++ e.trail ++ e.rest)
    simpa [text, stretch] using cut
  have stops : Text.cut? e.text e.stretch.stop =
      some (e.kept ++ e.lead ++ e.statement ++ e.semicolon ++ e.trail, e.rest) :=
    Text.cut?_append _ e.rest
  rw [cutOut, starts, stops]
  rfl

end Excision

/-- The removal of a function leaves what the excision of its declaration leaves. -/
theorem removeFunction_eq_ok {e : Excision} {fix : Fix} {parsed : Script.Parsed} {span : Span}
    (read : Script.Parsed.ofText (.ofFile fix.filePath) e.text = .ok parsed)
    (found : Script.findIn (Script.declares parsed.lineOf fix.functionName fix.line)
      parsed.tree.items = some span)
    (taken : removal e.text (parsed.range span) = some e.stretch) :
    removeFunction e.text fix = .ok e.edited := by
  simp [removeFunction, read, found, taken, e.cutOut_stretch]

/-! ### Widening to full lines -/

theorem sharesLine_of_lead {before kept lead behind : List Char} (split : before = kept ++ lead)
    (plain : '\n' ∉ lead) (other : lead.all Text.isBlank = false) : SharesLine before behind := by
  obtain ⟨c, member, visible⟩ := List.all_eq_false.mp other
  obtain ⟨early, late, rfl⟩ := List.append_of_mem member
  refine .inl ⟨kept ++ early, c, late, by rw [split, List.append_assoc], by simpa using visible, ?_⟩
  intro inside
  exact plain (List.mem_append_right _ (List.mem_cons_of_mem c inside))

theorem sharesLine_of_trail {before behind line trail rest : List Char}
    (split : behind = trail ++ rest) (plain : '\n' ∉ line)
    (ends : trail = line ++ ['\n'] ∨ trail = line) (other : trail.all Text.isBlank = false) :
    SharesLine before behind := by
  -- the line feed is blank, so what is not blank stands before it
  have onLine : line.all Text.isBlank = false := by
    rcases ends with rfl | rfl
    · have feed : Text.isBlank '\n' = true := by decide
      simpa [feed] using other
    · exact other
  obtain ⟨c, member, visible⟩ := List.all_eq_false.mp onLine
  obtain ⟨early, late, rfl⟩ := List.append_of_mem member
  have before : '\n' ∉ early := fun inside => plain (List.mem_append_left _ inside)
  rcases ends with rfl | rfl
  · exact .inr ⟨early, c, late ++ ['\n'] ++ rest, by simp [split], by simpa using visible, before⟩
  · exact .inr ⟨early, c, late ++ rest, by simp [split], by simpa using visible, before⟩

/-- A stretch grows by blanks to full lines when nothing shares them, and by nothing otherwise. -/
theorem wholeLines_eq (before behind : List Char) (r : Span) :
    ∃ kept lead trail rest, before = kept ++ lead ∧ behind = trail ++ rest ∧
      lead.all Text.isBlank ∧ trail.all Text.isBlank ∧
      wholeLines before behind r =
        ⟨r.start - Text.byteLength lead, r.stop + Text.byteLength trail⟩ ∧
      (FullLines kept lead trail rest ∨ lead = [] ∧ trail = [] ∧ SharesLine kept rest) := by
  obtain ⟨kept, splitBefore, starts⟩ := Text.exists_lastLine before
  obtain ⟨rest, splitBehind, ends⟩ := Text.exists_firstLine behind
  have plainLead : '\n' ∉ (before.reverse.takeWhile (· != '\n')).reverse := by
    simpa using Text.break_not_mem_takeWhile before.reverse
  have plainLine := Text.break_not_mem_takeWhile behind
  unfold wholeLines
  dsimp only
  split
  · next blank =>
    obtain ⟨leadBlank, trailBlank⟩ := Bool.and_eq_true_iff.mp blank
    refine ⟨kept, _, _, rest, splitBefore, splitBehind, leadBlank, trailBlank, rfl, .inl ?_⟩
    refine ⟨starts, plainLead, ends.imp ?_ ?_⟩
    · exact fun ended => ⟨_, ended, plainLine⟩
    · rintro ⟨last, whole⟩
      exact ⟨last, by rw [whole]; exact plainLine⟩
  · next other =>
    refine ⟨before, [], [], behind, (List.append_nil _).symm, rfl, rfl, rfl, rfl,
      .inr ⟨rfl, rfl, ?_⟩⟩
    rcases Bool.and_eq_false_iff.mp (Bool.not_eq_true _ ▸ other) with lead | trail
    · exact sharesLine_of_lead splitBefore plainLead lead
    · exact sharesLine_of_trail splitBehind plainLine (ends.imp_right (·.2)) trail

/-! ### The removal -/

/-- A removal makes an excision of any text around a statement. -/
theorem exists_excision (before statement after : List Char) :
    ∃ e : Excision, e.kept ++ e.lead = before ∧ e.statement = statement ∧
      e.semicolon ++ e.trail ++ e.rest = after ∧
      removal (before ++ statement ++ after)
        ⟨Text.byteLength before, Text.byteLength (before ++ statement)⟩ = some e.stretch := by
  have starts := Text.cut?_append before (statement ++ after)
  have stops := Text.cut?_append (before ++ statement) after
  rw [← List.append_assoc] at starts
  -- one argument for both cases: what is behind the statement starts with a semicolon, or does not
  have widened (semicolon behind : List Char)
      (here : semicolon = [';'] ∨ semicolon = [] ∧ behind.head? ≠ some ';') :
      ∃ e : Excision, e.kept ++ e.lead = before ∧ e.statement = statement ∧
        e.semicolon ++ e.trail ++ e.rest = semicolon ++ behind ∧
        wholeLines before behind ⟨Text.byteLength before,
          Text.byteLength (before ++ statement ++ semicolon)⟩ = e.stretch := by
    obtain ⟨kept, lead, trail, rest, rfl, rfl, leadBlank, trailBlank, same, lines⟩ :=
      wholeLines_eq before behind ⟨Text.byteLength before,
        Text.byteLength (before ++ statement ++ semicolon)⟩
    refine ⟨⟨kept, lead, statement, semicolon, trail, rest, leadBlank, trailBlank, here, lines⟩,
      rfl, rfl, by simp, ?_⟩
    rw [same, Excision.stretch]
    simp only [Text.byteLength_append, Span.mk.injEq, and_true]
    omega
  unfold removal
  rw [starts, stops]
  simp only [Option.bind_eq_bind, Option.bind_some, Option.pure_def]
  split
  · next rest =>
    obtain ⟨e, front, own, behind, same⟩ := widened [';'] rest (.inl rfl)
    refine ⟨e, front, own, behind, ?_⟩
    rw [← same, Text.byteLength_append (before ++ statement)]
    rfl
  · next other =>
    have bare : after.head? ≠ some ';' := by
      intro first
      obtain ⟨rest, rfl⟩ := List.head?_eq_some_iff.mp first
      exact other rest rfl
    obtain ⟨e, front, own, behind, same⟩ := widened [] after (.inr ⟨rfl, bare⟩)
    refine ⟨e, front, own, behind, ?_⟩
    rw [← same, List.append_nil]

/-- Every stretch from one character boundary to a later one can be removed. -/
theorem exists_excision_of_cuts {text : List Char} {r : Span} (ordered : r.start ≤ r.stop)
    (starts : (Text.cut? text r.start).isSome) (stops : (Text.cut? text r.stop).isSome) :
    ∃ e : Excision, e.text = text ∧ e.place = r ∧ removal text r = some e.stretch := by
  obtain ⟨⟨before, tail⟩, startCut⟩ := Option.isSome_iff_exists.mp starts
  obtain ⟨⟨head, after⟩, stopCut⟩ := Option.isSome_iff_exists.mp stops
  obtain ⟨rfl, start⟩ := Text.cut?_eq_some startCut
  obtain ⟨same, stop⟩ := Text.cut?_eq_some stopCut
  obtain ⟨statement, rfl, rfl⟩ := Text.exists_between same (by omega)
  obtain ⟨e, rfl, rfl, rfl, removed⟩ := exists_excision before statement after
  have place : r = e.place := by rw [Excision.place, ← start, ← stop]
  refine ⟨e, by simp [Excision.text], place.symm, ?_⟩
  rw [place, ← List.append_assoc]
  exact removed

/-- Where a stretch runs from one character boundary to a later one, its removal takes one stretch
around it: besides the given one a semicolon right behind it and blanks, and blanks only to full
lines that nothing else shares. The removal of a function takes this stretch when the function is
found there. -/
theorem removal_excises (text : List Char) (r : Span) (ordered : r.start ≤ r.stop)
    (starts : (Text.cut? text r.start).isSome) (stops : (Text.cut? text r.stop).isSome) :
    ∃ e : Excision, e.text = text ∧ e.place = r ∧ removal text r = some e.stretch ∧
      e.stretch.start ≤ r.start ∧ r.stop ≤ e.stretch.stop ∧
      cutOut text e.stretch = some e.edited ∧
      ∀ (fix : Fix) (parsed : Script.Parsed) (span : Span),
        Script.Parsed.ofText (.ofFile fix.filePath) text = .ok parsed →
        Script.findIn (Script.declares parsed.lineOf fix.functionName fix.line) parsed.tree.items =
          some span →
        parsed.range span = r → removeFunction text fix = .ok e.edited := by
  obtain ⟨e, rfl, rfl, taken⟩ := exists_excision_of_cuts ordered starts stops
  refine ⟨e, rfl, rfl, taken, ?_, ?_, e.cutOut_stretch, ?_⟩
  · simp only [Excision.stretch, Excision.place, Text.byteLength_append]
    omega
  · simp only [Excision.stretch, Excision.place, Text.byteLength_append]
    omega
  · intro fix parsed span read found here
    exact removeFunction_eq_ok read found (here ▸ taken)

/-- A statement between blanks of several kinds, with a semicolon behind it, on a line that ends in
a carriage return and a line feed. -/
def indented : List Char := "a();\n\u00a0 run();\u3000\r\nb();".toList

theorem removal_excises_indented :
    ((Text.cut? indented 8).isSome ∧ (Text.cut? indented 13).isSome) ∧
      ∃ e : Excision, e.text = indented ∧ e.place = ⟨8, 13⟩ ∧ e.stretch = ⟨5, 19⟩ ∧
        e.edited = "a();\nb();".toList := by
  refine ⟨by decide, ?_⟩
  obtain ⟨e, whole, place, removed, -, -, edited, -⟩ :=
    removal_excises indented ⟨8, 13⟩ (by decide) (by decide) (by decide)
  have stretch : some e.stretch = some ⟨5, 19⟩ := removed.symm.trans (by decide)
  have remaining : some e.edited = some "a();\nb();".toList := by
    rw [← edited, Option.some.inj stretch]
    decide
  exact ⟨e, whole, place, Option.some.inj stretch, Option.some.inj remaining⟩

end Edit

end PageWiring
