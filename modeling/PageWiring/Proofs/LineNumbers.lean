import PageWiring.Proofs.Lines
import PageWiring.Script.Source

/-!
The line of an offset, and the offset of a line.

Lines start at increasing offsets. So the starts up to an offset are the first of all starts, their
number tells the line of the offset, and the last of them is where that line is found again.
-/
namespace PageWiring.Text

theorem pairwise_lineStarts (text : List Char) (offset : Nat) :
    (lineStarts offset text).Pairwise (· < ·) := by
  induction text generalizing offset with
  | nil => exact .nil
  | cons c cs ih =>
    rw [lineStarts]
    split
    · exact .cons (fun _ later => lt_of_mem_lineStarts later) (ih _)
    · exact ih _

/-- The entries of an increasing list that do not exceed a bound are its first ones. -/
theorem getElem_le_iff_lt_countP {starts : List Nat} (increasing : starts.Pairwise (· < ·))
    {k : Nat} (inside : k < starts.length) (bound : Nat) :
    starts[k] ≤ bound ↔ k < starts.countP (· ≤ bound) := by
  induction increasing generalizing k with
  | nil => cases inside
  | @cons first rest below _ ih =>
    by_cases reached : first ≤ bound
    · rw [List.countP_cons_of_pos (by simpa using reached)]
      cases k with
      | zero => simpa using reached
      | succ k => simpa using ih (Nat.lt_of_succ_lt_succ inside)
    · -- What follows exceeds the bound too.
      have none : (first :: rest).countP (· ≤ bound) = 0 := by
        rw [List.countP_eq_zero]
        intro start member
        simp only [decide_eq_true_eq]
        rcases List.mem_cons.mp member with rfl | later
        · exact reached
        · have := below start later
          omega
      rw [none]
      refine iff_of_false ?_ (Nat.not_lt_zero k)
      intro low
      have member := List.getElem_mem inside
      rcases List.mem_cons.mp member with same | later
      · omega
      · have := below _ later
        omega

/-! ### Offsets of lines -/

/-- A text has a line exactly when it has all the line feeds before it. -/
theorem isSome_lineOffset_iff (text : List Char) (n : Nat) :
    (lineOffset text (n + 1)).isSome ↔ n ≤ text.count '\n' := by
  cases n with
  | zero => simp [lineOffset]
  | succ n =>
    rw [lineOffset, if_neg (by omega), Option.isSome_iff_ne_none, Ne, List.getElem?_eq_none_iff,
      length_lineStarts]
    omega

theorem le_byteLength_of_mem_lineStarts {text : List Char} {start : Nat}
    (member : start ∈ lineStarts 0 text) : start ≤ byteLength text := by
  obtain ⟨early, late, rfl, rfl⟩ := mem_lineStarts_iff.mp member
  have feed : ('\n').utf8Size = 1 := rfl
  simp only [byteLength_append, byteLength]
  omega

theorem lineOffset_le {text : List Char} {n offset : Nat}
    (found : lineOffset text n = some offset) : offset ≤ byteLength text := by
  unfold lineOffset at found
  split at found
  · obtain rfl := Option.some.inj found
    exact Nat.zero_le _
  · exact le_byteLength_of_mem_lineStarts (List.mem_of_getElem? found)

/-- The offset of a line is on that line. -/
theorem lineAt_lineOffset {text : List Char} {n offset : Nat}
    (found : lineOffset text (n + 1) = some offset) :
    lineAt (lineStarts 0 text) offset = n + 1 := by
  have increasing := pairwise_lineStarts text 0
  unfold lineOffset at found
  split at found
  · -- The first line: no other line starts at the first offset.
    next first =>
    obtain rfl := Option.some.inj found
    have none : (lineStarts 0 text).countP (· ≤ 0) = 0 := by
      rw [List.countP_eq_zero]
      intro start member
      have := lt_of_mem_lineStarts member
      simp only [decide_eq_true_eq]
      omega
    rw [lineAt, none]
    omega
  · next later =>
    obtain ⟨inside, same⟩ := List.getElem?_eq_some_iff.mp found
    have reached := (getElem_le_iff_lt_countP increasing inside offset).mp (Nat.le_of_eq same)
    have atMost : (lineStarts 0 text).countP (· ≤ offset) ≤ n := by
      refine Nat.le_of_not_lt fun more => ?_
      have bounded := List.countP_le_length (p := (· ≤ offset)) (l := lineStarts 0 text)
      have next : n < (lineStarts 0 text).length := by omega
      have low := (getElem_le_iff_lt_countP increasing next offset).mpr (by omega)
      have above := List.pairwise_iff_getElem.mp increasing (n + 1 - 2) n inside next (by omega)
      omega
    rw [lineAt]
    omega

/-- The line of an offset is found again, at or before the offset and with no line feed between. -/
theorem exists_lineOffset_lineAt (text : List Char) (p : Nat) :
    ∃ offset ≤ p, lineOffset text (lineAt (lineStarts 0 text) p) = some offset ∧
      ∀ before after, text = before ++ '\n' :: after →
        ¬ (offset ≤ byteLength before ∧ byteLength before < p) := by
  have increasing := pairwise_lineStarts text 0
  have bounded := List.countP_le_length (p := (· ≤ p)) (l := lineStarts 0 text)
  -- A line feed between the two would start a line of its own up to `p`.
  have started {before after : List Char} (split : text = before ++ '\n' :: after)
      (early : byteLength before < p) : ∃ k, ∃ inside : k < (lineStarts 0 text).length,
        k < (lineStarts 0 text).countP (· ≤ p) ∧
          (lineStarts 0 text)[k] = byteLength before + 1 := by
    have member : 0 + byteLength before + 1 ∈ lineStarts 0 text :=
      mem_lineStarts_iff.mpr ⟨before, after, split, rfl⟩
    rw [Nat.zero_add] at member
    obtain ⟨k, inside, same⟩ := List.getElem_of_mem member
    exact ⟨k, inside, (getElem_le_iff_lt_countP increasing inside p).mp (by omega), same⟩
  unfold lineAt lineOffset
  by_cases first : (lineStarts 0 text).countP (· ≤ p) = 0
  · refine ⟨0, Nat.zero_le p, by simp [first], ?_⟩
    rintro before after split ⟨-, early⟩
    obtain ⟨k, -, counted, -⟩ := started split early
    omega
  · have inside : 1 + (lineStarts 0 text).countP (· ≤ p) - 2 < (lineStarts 0 text).length := by
      omega
    refine ⟨(lineStarts 0 text)[1 + (lineStarts 0 text).countP (· ≤ p) - 2], ?_, ?_, ?_⟩
    · exact (getElem_le_iff_lt_countP increasing inside p).mpr (by omega)
    · rw [if_neg (by omega), List.getElem?_eq_getElem inside]
    · rintro before after split ⟨low, early⟩
      obtain ⟨k, within, counted, same⟩ := started split early
      rcases Nat.lt_or_ge k (1 + (lineStarts 0 text).countP (· ≤ p) - 2) with before | last
      · have := List.pairwise_iff_getElem.mp increasing _ _ within inside before
        omega
      · have equal : k = 1 + (lineStarts 0 text).countP (· ≤ p) - 2 := by omega
        subst equal
        omega

theorem lineAt_mono (starts : List Nat) {p q : Nat} (le : p ≤ q) :
    lineAt starts p ≤ lineAt starts q := by
  have more : starts.countP (· ≤ p) ≤ starts.countP (· ≤ q) := by
    apply List.countP_mono_left
    intro start _ reached
    simp only [decide_eq_true_eq] at reached ⊢
    omega
  exact Nat.add_le_add_left more 1

/-! ### Numbering lines -/

/-- A numbering of the offsets of a text by its lines: the offset of a line is on that line, and
every offset stands behind the start of its line with no line feed between. -/
structure Numbers (text : List Char) (line : Nat → Nat) : Prop where
  ofStart : ∀ n offset, lineOffset text (n + 1) = some offset → line offset = n + 1
  start : ∀ p ≤ byteLength text, 1 ≤ line p ∧
    ∃ offset ≤ p, lineOffset text (line p) = some offset ∧
      ∀ before after, text = before ++ '\n' :: after →
        ¬ (offset ≤ byteLength before ∧ byteLength before < p)
  monotone : ∀ p q, p ≤ q → line p ≤ line q

theorem numbers_lineAt (text : List Char) : Numbers text (lineAt (lineStarts 0 text)) where
  ofStart _ _ found := lineAt_lineOffset found
  start p _ := ⟨Nat.le_add_right 1 _, exists_lineOffset_lineAt text p⟩
  monotone _ _ le := lineAt_mono _ le

/-- Offsets behind the end of the text may be taken for the end. -/
theorem Numbers.clamp {text : List Char} {line : Nat → Nat} (numbers : Numbers text line) :
    Numbers text fun p => line (min p (byteLength text)) where
  ofStart n offset found := by
    rw [Nat.min_eq_left (lineOffset_le found)]
    exact numbers.ofStart n offset found
  start p inside := by
    rw [Nat.min_eq_left inside]
    exact numbers.start p inside
  monotone p q le := numbers.monotone _ _ (by omega)

/-- A line of a text has an offset exactly when there are so many lines, and both numberings of
offsets, that of a page and that of a script, fit these offsets. -/
theorem lines_of_offsets {text : List Char} {l : Markup.Locator} (holds : l.Holds text)
    (tree : Script.Tree) (stop : Nat) :
    (∀ n, (∃ offset, lineOffset text (n + 1) = some offset) ↔ n ≤ text.count '\n') ∧
      Numbers text l.lineAt ∧
      Numbers text fun p => (Script.Parsed.mk text tree).lineOf ⟨p, stop⟩ := by
  refine ⟨fun n => ?_, ?_, (numbers_lineAt text).clamp⟩
  · rw [← isSome_lineOffset_iff, Option.isSome_iff_exists]
  · have same : l.lineAt = lineAt (lineStarts 0 text) := by
      funext p
      rw [Markup.Locator.lineAt, holds.2]
    rw [same]
    exact numbers_lineAt text

/-- A page whose first line has a letter of two bytes, and a tag on its second line. -/
def tagBelow : List Char := "ß\n<p>\n".toList

theorem lines_of_offsets_tagBelow :
    ∃ l, l = ((Markup.Locator.ofText tagBelow).startTag "p" 2).2 ∧ l.cursor = 5 ∧
      l.Holds tagBelow ∧ lineOffset tagBelow 3 = some 7 ∧ l.lineAt 7 = 3 ∧
      (Script.Parsed.mk tagBelow ⟨[], []⟩).lineOf ⟨7, 7⟩ = 3 := by
  have holds : ((Markup.Locator.ofText tagBelow).startTag "p" 2).2.Holds tagBelow :=
    ⟨by decide, by decide⟩
  have last : lineOffset tagBelow 3 = some 7 := by decide
  obtain ⟨-, page, script⟩ := lines_of_offsets holds ⟨[], []⟩ 7
  exact ⟨_, rfl, by decide, holds, last, page.ofStart 2 7 last, script.ofStart 2 7 last⟩

end PageWiring.Text
