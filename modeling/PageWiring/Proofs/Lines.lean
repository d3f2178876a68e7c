import PageWiring.Markup.Locator

/-!
Lines of a text and of the tags that the locator finds in it.

A byte offset is spelled as the length of the text before it. At such an offset the line is one plus
the number of line feeds before it, and lowering the case of letters moves no line.
-/
namespace PageWiring.Text

@[simp] theorem byteLength_append (before after : List Char) :
    byteLength (before ++ after) = byteLength before + byteLength after := by
  induction before with
  | nil => simp [byteLength]
  | cons c cs ih => simp [byteLength, ih, Nat.add_assoc]

/-- A successful cut splits the text, at the length of its first part. -/
theorem cut?_eq_some {text : List Char} {offset : Nat} {before after : List Char}
    (success : cut? text offset = some (before, after)) :
    text = before ++ after ∧ offset = byteLength before := by
  fun_induction cut? text offset generalizing before after with
  | case1 cs =>
    obtain ⟨rfl, rfl⟩ : [] = before ∧ cs = after := by simpa using success
    exact ⟨rfl, rfl⟩
  | case2 n => cases success
  | case3 c cs n fits ih =>
    obtain ⟨⟨lead, rest⟩, inner, same⟩ := Option.map_eq_some_iff.mp success
    obtain ⟨rfl, rfl⟩ : c :: lead = before ∧ rest = after := by simpa using same
    obtain ⟨rfl, measured⟩ := ih inner
    exact ⟨rfl, by simp only [byteLength]; omega⟩
  | case4 c cs n tooWide => cases success

/-! ### Lines -/

theorem lt_of_mem_lineStarts {text : List Char} {offset start : Nat}
    (member : start ∈ lineStarts offset text) : offset < start := by
  induction text generalizing offset with
  | nil => cases member
  | cons c cs ih =>
    have positive := c.utf8Size_pos
    have later : start ∈ lineStarts (offset + c.utf8Size) cs → offset < start := fun inside => by
      have := ih inside
      omega
    unfold lineStarts at member
    split at member
    · rcases List.mem_cons.mp member with rfl | inside
      · omega
      · exact later inside
    · exact later member

theorem countP_lineStarts (before after : List Char) (offset : Nat) :
    (lineStarts offset (before ++ after)).countP (· ≤ offset + byteLength before) =
      before.count '\n' := by
  induction before generalizing offset with
  | nil =>
    rw [List.count_nil, List.countP_eq_zero]
    intro start member
    have := lt_of_mem_lineStarts member
    have beyond : ¬ start ≤ offset + byteLength [] := by
      simp only [byteLength]
      omega
    simpa only [decide_eq_true_eq] using beyond
  | cons c cs ih =>
    have shifted : offset + byteLength (c :: cs) = offset + c.utf8Size + byteLength cs := by
      simp only [byteLength]
      omega
    have tail := ih (offset + c.utf8Size)
    rw [shifted, List.cons_append, lineStarts]
    split
    · next isBreak =>
      obtain rfl := beq_iff_eq.mp isBreak
      rw [List.countP_cons_of_pos (by simp), tail, List.count_cons_self]
    · next plain =>
      rw [tail, List.count_cons_of_ne (by simpa using plain)]

theorem lineStarts_append (before after : List Char) (offset : Nat) :
    lineStarts offset (before ++ after) =
      lineStarts offset before ++ lineStarts (offset + byteLength before) after := by
  induction before generalizing offset with
  | nil => rfl
  | cons c cs ih =>
    have further : offset + byteLength (c :: cs) = offset + c.utf8Size + byteLength cs := by
      simp only [byteLength]
      omega
    simp only [List.cons_append, lineStarts, ih, further]
    split <;> rfl

theorem length_lineStarts (text : List Char) (offset : Nat) :
    (lineStarts offset text).length = text.count '\n' := by
  induction text generalizing offset with
  | nil => rfl
  | cons c cs ih =>
    rw [lineStarts, List.count_cons]
    split <;> simp [ih]

/-- A line starts right behind each line feed. -/
theorem mem_lineStarts_iff {text : List Char} {offset start : Nat} :
    start ∈ lineStarts offset text ↔
      ∃ early late, text = early ++ '\n' :: late ∧ start = offset + byteLength early + 1 := by
  constructor
  · intro member
    induction text generalizing offset with
    | nil => cases member
    | cons c cs ih =>
      have later (inside : start ∈ lineStarts (offset + c.utf8Size) cs) :
          ∃ early late, c :: cs = early ++ '\n' :: late ∧
            start = offset + byteLength early + 1 := by
        obtain ⟨early, late, rfl, rfl⟩ := ih inside
        refine ⟨c :: early, late, rfl, ?_⟩
        simp only [byteLength]
        omega
      rw [lineStarts] at member
      split at member
      · next isBreak =>
        obtain rfl := beq_iff_eq.mp isBreak
        rcases List.mem_cons.mp member with rfl | inside
        · exact ⟨[], cs, rfl, rfl⟩
        · exact later inside
      · exact later member
  · rintro ⟨early, late, rfl, rfl⟩
    rw [lineStarts_append, List.mem_append]
    exact .inr List.mem_cons_self

/-- The line of an offset is one plus the number of line feeds before it. -/
theorem lineAt_lineStarts (before after : List Char) :
    lineAt (lineStarts 0 (before ++ after)) (byteLength before) = 1 + before.count '\n' := by
  have counted := countP_lineStarts before after 0
  rw [Nat.zero_add] at counted
  rw [lineAt, counted]

/-- A character that ends no line stands on a line of the text. -/
theorem line_le_lineCount (before after : List Char) {c : Char} (plain : c ≠ '\n') :
    1 + before.count '\n' ≤ lineCount (before ++ c :: after) := by
  unfold lineCount
  dsimp only
  split
  · next ended =>
    -- The text ends in a line feed, and that one stands behind the character.
    have last : after.getLast? = some '\n' := by
      cases after with
      | nil => simp [plain] at ended
      | cons d ds => simpa [List.getLast?_append, List.getLast?_cons_cons] using ended
    have behind : 0 < after.count '\n' :=
      List.count_pos_iff.mpr (List.mem_of_getLast? last)
    rw [List.count_append, List.count_cons_of_ne plain]
    omega
  · rw [List.count_append]
    omega

theorem lineCount_pos {text : List Char} (nonempty : text ≠ []) : 0 < lineCount text := by
  unfold lineCount
  dsimp only
  split
  · next ended =>
    have last : text.getLast? = some '\n' := by simpa [nonempty] using ended
    exact List.count_pos_iff.mpr (List.mem_of_getLast? last)
  · exact Nat.succ_pos _

/-! ### Lower case -/

/-- A character that changes in lower case is a letter from `A` to `Z`. -/
theorem toLower_cases (c : Char) :
    c.toLower = c ∨ (65 ≤ c.toNat ∧ c.toNat ≤ 90 ∧ c.toLower.toNat = c.toNat + 32) := by
  unfold Char.toLower
  split
  · next isUpper =>
    have low : 65 ≤ c.val.toNat := UInt32.le_iff_toNat_le.mp isUpper.1
    have high : c.val.toNat ≤ 90 := UInt32.le_iff_toNat_le.mp isUpper.2
    refine .inr ⟨low, high, ?_⟩
    show (c.val + ('a'.val - 'A'.val)).toNat = c.val.toNat + 32
    rw [UInt32.toNat_add]
    have shift : ('a'.val - 'A'.val).toNat = 32 := by decide
    omega
  · exact .inl rfl

theorem toLower_eq_break_iff {c : Char} : c.toLower = '\n' ↔ c = '\n' := by
  rcases toLower_cases c with same | ⟨low, high, shifted⟩
  · rw [same]
  · constructor <;> intro isBreak <;> have := congrArg Char.toNat isBreak <;> simp at this <;> omega

theorem utf8Size_eq_one {c : Char} (ascii : c.toNat ≤ 127) : c.utf8Size = 1 := by
  rw [Char.utf8Size_eq_one_iff]
  exact UInt32.le_iff_toNat_le.mpr ascii

theorem utf8Size_toLower (c : Char) : c.toLower.utf8Size = c.utf8Size := by
  rcases toLower_cases c with same | ⟨low, high, shifted⟩
  · rw [same]
  · rw [utf8Size_eq_one (by omega), utf8Size_eq_one (by omega)]

@[simp] theorem byteLength_asciiLower (text : List Char) :
    byteLength (asciiLower text) = byteLength text := by
  induction text with
  | nil => rfl
  | cons c cs ih =>
    rw [asciiLower] at ih
    simp [asciiLower, byteLength, utf8Size_toLower, ih]

@[simp] theorem count_break_asciiLower (text : List Char) :
    (asciiLower text).count '\n' = text.count '\n' := by
  induction text with
  | nil => rfl
  | cons c cs ih =>
    rw [asciiLower] at ih
    simp [asciiLower, List.count_cons, toLower_eq_break_iff, ih]

theorem lineCount_asciiLower (text : List Char) : lineCount (asciiLower text) = lineCount text := by
  have last : ((asciiLower text).getLast? == some '\n') = (text.getLast? == some '\n') := by
    rw [asciiLower, List.getLast?_map]
    cases text.getLast? with
    | none => rfl
    | some c =>
      rw [Bool.eq_iff_iff]
      simp [toLower_eq_break_iff]
  have empty : (asciiLower text).isEmpty = text.isEmpty := by
    rw [asciiLower, List.isEmpty_map]
  unfold lineCount
  rw [count_break_asciiLower, last, empty]

end PageWiring.Text

namespace PageWiring.Markup

theorem findTag_eq_some {opening text : List Char} {offset position : Nat}
    (found : findTag opening offset text = some position) :
    ∃ before after, text = before ++ opening ++ after ∧
      position = offset + Text.byteLength before := by
  fun_induction findTag opening offset text with
  | case1 offset => cases found
  | case2 offset c cs here =>
    obtain ⟨after, same⟩ := List.isPrefixOf_iff_prefix.mp (Bool.and_eq_true_iff.mp here).1
    refine ⟨[], after, by simpa using same.symm, ?_⟩
    simpa [Text.byteLength] using (Option.some.inj found).symm
  | case3 offset c cs elsewhere ih =>
    obtain ⟨before, after, rfl, rfl⟩ := ih found
    exact ⟨c :: before, after, rfl, by simp only [Text.byteLength]; omega⟩

namespace Locator

/-- The locator holds the text of a page, in lower case, and where the lines of the page start. -/
def Holds (l : Locator) (text : List Char) : Prop :=
  l.text = Text.asciiLower text ∧ l.starts = Text.lineStarts 0 text

theorem holds_ofText (text : List Char) : (ofText text).Holds text := ⟨rfl, rfl⟩

theorem cut?_of_rest {l : Locator} {before after : List Char} {c : Char}
    (unread : l.rest = before ++ c :: after) :
    ∃ followed, l.text = followed ++ l.rest ∧ l.cursor = Text.byteLength followed := by
  unfold rest at unread ⊢
  cases cut : Text.cut? l.text l.cursor with
  | none => simp [cut] at unread
  | some parts =>
    obtain ⟨same, measured⟩ := Text.cut?_eq_some cut
    exact ⟨parts.1, same, measured⟩

/-- A tag that is found starts on the line of its first character, which is a line of the page. -/
theorem followTag_fst {l : Locator} {text name : List Char} {line start : Nat}
    (holds : l.Holds text) (found : (l.followTag ('<' :: name) line).1 = some start) :
    1 ≤ start ∧ start ≤ line ∧ start ≤ Text.lineCount text := by
  unfold followTag at found
  split at found
  · cases found
  · next position located =>
    dsimp only at found
    split at found
    · cases found
    · next early =>
      obtain rfl := Option.some.inj found
      obtain ⟨before, after, unread, rfl⟩ := findTag_eq_some located
      obtain ⟨followed, whole, cursor⟩ := cut?_of_rest (c := '<') (by simpa using unread)
      -- The same stretch of the page as it is written, before letters are lowered.
      have lowered : Text.asciiLower text = (followed ++ before) ++ '<' :: (name ++ after) := by
        rw [← holds.1, whole, unread]
        simp
      obtain ⟨lead, rest, rfl, leadLowered, restLowered⟩ := List.map_eq_append_iff.mp lowered
      obtain ⟨first, behind, rfl, opening, -⟩ := List.map_eq_cons_iff.mp restLowered
      have plain : first ≠ '\n' := by
        rw [Ne, ← Text.toLower_eq_break_iff, opening]
        decide
      have measured : l.cursor + Text.byteLength before = Text.byteLength lead := by
        rw [cursor, ← Text.byteLength_append, ← leadLowered]
        exact Text.byteLength_asciiLower lead
      have start : l.lineAt (l.cursor + Text.byteLength before) = 1 + lead.count '\n' := by
        rw [lineAt, holds.2, measured, Text.lineAt_lineStarts]
      refine ⟨by omega, by omega, ?_⟩
      rw [start]
      exact Text.line_le_lineCount lead behind plain

theorem followTag_holds {l : Locator} {text opening : List Char} {line : Nat}
    (holds : l.Holds text) : (l.followTag opening line).2.Holds text := by
  unfold followTag
  split
  · exact holds
  · dsimp only
    split <;> exact holds

theorem comment_holds {l : Locator} {text : List Char} {line : Nat} (holds : l.Holds text) :
    (l.comment line).Holds text := by
  unfold comment
  split
  · exact holds
  · dsimp only
    split
    · exact holds
    · split <;> exact holds

end Locator

end PageWiring.Markup
