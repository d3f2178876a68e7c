import PageWiring.Proofs.Lines

/-!
Searches through a text by byte offsets, with a check at every cut.

A text can be cut at character boundaries only. A search that goes on behind a place which it does
not accept stays on such boundaries when it goes on by the size of the first character that it
looks for. Then it comes to an end, and finds the first place that is accepted.
-/
namespace PageWiring.Text

theorem cut?_append (before after : List Char) :
    cut? (before ++ after) (byteLength before) = some (before, after) := by
  induction before with
  | nil => cases after <;> rfl
  | cons c cs ih =>
    have positive := c.utf8Size_pos
    obtain ⟨n, same⟩ : ∃ n, c.utf8Size + byteLength cs = n + 1 :=
      ⟨c.utf8Size + byteLength cs - 1, by omega⟩
    have left : n + 1 - c.utf8Size = byteLength cs := by omega
    rw [byteLength, same, List.cons_append, cut?, if_pos (by omega), left, ih]
    rfl

/-! ### The first place of a needle -/

/-- A needle is found where it stands, if it does not stand earlier. -/
theorem splitFirst_append {needle lead rest : List Char} (solid : needle ≠ [])
    (here : needle <+: rest) (first : ∀ n < lead.length, ¬ needle <+: (lead ++ rest).drop n) :
    splitFirst needle (lead ++ rest) = some (lead, rest.drop needle.length) := by
  induction lead with
  | nil =>
    cases rest with
    | nil => exact absurd (List.prefix_nil.mp here) solid
    | cons c cs => rw [List.nil_append, splitFirst, if_pos (List.isPrefixOf_iff_prefix.mpr here)]
  | cons c cs ih =>
    have elsewhere : ¬ needle <+: c :: (cs ++ rest) := first 0 (Nat.succ_pos _)
    have later := ih fun n inside => first (n + 1) (Nat.succ_lt_succ inside)
    rw [List.cons_append, splitFirst, if_neg (by rwa [List.isPrefixOf_iff_prefix]), later]
    rfl

theorem splitFirst_eq_some {needle text before after : List Char}
    (found : splitFirst needle text = some (before, after)) :
    text = before ++ (needle ++ after) ∧ ∀ n < before.length, ¬ needle <+: text.drop n := by
  induction text generalizing before with
  | nil =>
    unfold splitFirst at found
    split at found
    · next empty =>
      obtain ⟨rfl, rfl⟩ : [] = before ∧ [] = after := by simpa using found
      exact ⟨by simpa using empty, nofun⟩
    · cases found
  | cons c cs ih =>
    unfold splitFirst at found
    split at found
    · next here =>
      obtain ⟨rfl, rfl⟩ : [] = before ∧ (c :: cs).drop needle.length = after := by
        simpa using found
      exact ⟨List.prefix_iff_eq_append.mp (List.isPrefixOf_iff_prefix.mp here) |>.symm, nofun⟩
    · next elsewhere =>
      obtain ⟨⟨lead, rest⟩, inner, same⟩ := Option.map_eq_some_iff.mp found
      obtain ⟨rfl, rfl⟩ : c :: lead = before ∧ rest = after := by simpa using same
      obtain ⟨whole, first⟩ := ih inner
      refine ⟨by rw [whole]; rfl, fun n inside => ?_⟩
      cases n with
      | zero => rwa [List.isPrefixOf_iff_prefix] at elsewhere
      | succ n => exact first n (Nat.lt_of_succ_lt_succ inside)

theorem not_prefix_of_splitFirst {needle text : List Char} (missing : splitFirst needle text = none)
    (n : Nat) : ¬ needle <+: text.drop n := by
  induction text generalizing n with
  | nil =>
    intro here
    obtain rfl : needle = [] := by simpa using here
    cases missing
  | cons c cs ih =>
    unfold splitFirst at missing
    split at missing
    · cases missing
    · next elsewhere =>
      cases n with
      | zero => rwa [List.isPrefixOf_iff_prefix] at elsewhere
      | succ n => exact ih (Option.map_eq_none_iff.mp missing) n

/-! ### Offsets of characters -/

/-- The byte offset behind the first characters of a text. -/
def offsetOf (text : List Char) (n : Nat) : Nat := byteLength (text.take n)

@[simp] theorem offsetOf_zero (text : List Char) : offsetOf text 0 = 0 := rfl

theorem offsetOf_add (text : List Char) (n k : Nat) :
    offsetOf text (n + k) = offsetOf text n + byteLength ((text.drop n).take k) := by
  rw [offsetOf, List.take_add, byteLength_append, offsetOf]

theorem offsetOf_asciiLower (text : List Char) (n : Nat) :
    offsetOf (asciiLower text) n = offsetOf text n := by
  rw [offsetOf, asciiLower, ← List.map_take, ← asciiLower, byteLength_asciiLower, offsetOf]

/-- Behind a text that stands at some place is again a place of the text. -/
theorem offsetOf_behind {text piece : List Char} {n : Nat} (here : piece <+: text.drop n) :
    offsetOf text n + byteLength piece = offsetOf text (n + piece.length) := by
  rw [offsetOf_add, ← List.prefix_iff_eq_take.mp here]

theorem cut?_offsetOf (text : List Char) (n : Nat) :
    cut? text (offsetOf text n) = some (text.take n, text.drop n) := by
  have parts := cut?_append (text.take n) (text.drop n)
  rwa [List.take_append_drop] at parts

/-! ### Checked walks -/

/-- Why a text cannot be gone through. -/
inductive WalkFault where
  /-- A cut beyond the text, or inside a character. -/
  | badCut
  /-- More rounds than were granted. -/
  | unfinished
  deriving DecidableEq, Repr

/-- The text before and behind an offset, which has to be a character boundary. -/
def cutAt (text : List Char) (offset : Nat) : Except WalkFault (List Char × List Char) :=
  match cut? text offset with
  | some parts => .ok parts
  | none => .error .badCut

theorem cutAt_append (before after : List Char) :
    cutAt (before ++ after) (byteLength before) = .ok (before, after) := by
  rw [cutAt, cut?_append]

theorem cutAt_offsetOf (text : List Char) (n : Nat) :
    cutAt text (offsetOf text n) = .ok (text.take n, text.drop n) := by
  rw [cutAt, cut?_offsetOf]

/-- Behind a piece that stands at some place the text can be cut again. -/
theorem cutAt_behind {text piece rest : List Char} {n : Nat} (here : text.drop n = piece ++ rest) :
    cutAt text (offsetOf text n + byteLength piece) =
      .ok (text.take (n + piece.length), rest) := by
  rw [offsetOf_behind (here ▸ List.prefix_append piece rest), cutAt_offsetOf,
    ← List.drop_drop, here, List.drop_left]

/-- Goes from one place of a needle to the next until one is accepted. Behind a place that is not,
it goes on `stride` bytes further. -/
def seek (text needle : List Char) (stride : Nat) (accepts : Nat → Except WalkFault Bool) :
    (rounds offset : Nat) → Except WalkFault (Option Nat)
  | 0, _ => .error .unfinished
  | rounds + 1, offset => do
    let (_, ahead) ← cutAt text offset
    match splitFirst needle ahead with
    | none => return none
    | some (gap, _) =>
      let position := offset + byteLength gap
      if ← accepts position then return some position
      else seek text needle stride accepts rounds (position + stride)

section

variable (text needle : List Char) (accepts : Nat → Except WalkFault Bool)

/-- The needle stands behind the first characters of the text, and that place is accepted. -/
def Accepted (n : Nat) : Prop :=
  needle <+: text.drop n ∧ accepts (offsetOf text n) = .ok true

/-- The right answer of a search: the first place that is accepted, from `start` on. -/
def IsFirst (start : Nat) : Option Nat → Prop
  | some offset => ∃ n, start ≤ n ∧ offset = offsetOf text n ∧ Accepted text needle accepts n ∧
    ∀ k, start ≤ k → k < n → ¬ Accepted text needle accepts k
  | none => ∀ k, start ≤ k → ¬ Accepted text needle accepts k

variable {text needle accepts}

/-- What is first from a later place on is first from an earlier one too, if no place between them
is accepted. -/
theorem IsFirst.of_later {start later : Nat} {answer : Option Nat}
    (first : IsFirst text needle accepts later answer) (le : start ≤ later)
    (between : ∀ k, start ≤ k → k < later → ¬ Accepted text needle accepts k) :
    IsFirst text needle accepts start answer := by
  have early (k : Nat) (from' : start ≤ k) (beyond : later ≤ k → ¬ Accepted text needle accepts k) :
      ¬ Accepted text needle accepts k := by
    rcases Nat.lt_or_ge k later with inside | outside
    · exact between k from' inside
    · exact beyond outside
  cases answer with
  | none => exact fun k from' => early k from' (first k)
  | some offset =>
    obtain ⟨n, behind, same, accepted, least⟩ := first
    exact ⟨n, Nat.le_trans le behind, same, accepted,
      fun k from' below => early k from' fun outside => least k outside below⟩

/-! ### Rounds of a search -/

theorem seek_of_missing {stride rounds start : Nat}
    (missing : splitFirst needle (text.drop start) = none) :
    seek text needle stride accepts (rounds + 1) (offsetOf text start) = .ok none := by
  rw [seek, cutAt_offsetOf]
  simp only [bind, Except.bind, missing]
  rfl

/-- The needle stands at the first place behind a gap, and the test is made there. -/
theorem seek_of_place {stride rounds start n : Nat} {gap behind : List Char} {verdict : Bool}
    (found : splitFirst needle (text.drop start) = some (gap, behind))
    (place : n = start + gap.length) (tested : accepts (offsetOf text n) = .ok verdict) :
    seek text needle stride accepts (rounds + 1) (offsetOf text start) =
      if verdict then .ok (some (offsetOf text n))
      else seek text needle stride accepts rounds (offsetOf text n + stride) := by
  have position : offsetOf text start + byteLength gap = offsetOf text n := by
    rw [place]
    exact offsetOf_behind ((splitFirst_eq_some found).1 ▸ List.prefix_append _ _)
  rw [seek, cutAt_offsetOf]
  simp only [bind, Except.bind, found, position, tested]
  rfl

/-- A search that goes on by the size of the needle's first character cuts the text at boundaries
only, needs one round for each character and one more at most, and finds the first place that is
accepted. The test has to be possible wherever the needle stands. -/
theorem exists_seek {c : Char} {more : List Char} (starts : needle = c :: more)
    (testable : ∀ n, needle <+: text.drop n → ∃ verdict, accepts (offsetOf text n) = .ok verdict)
    {rounds start : Nat} (inside : start ≤ text.length) (enough : text.length < start + rounds) :
    ∃ answer, seek text needle c.utf8Size accepts rounds (offsetOf text start) = .ok answer ∧
      IsFirst text needle accepts start answer := by
  induction rounds generalizing start with
  | zero => omega
  | succ rounds ih =>
    have stands {k : Nat} (behind : start ≤ k) (accepted : Accepted text needle accepts k) :
        needle <+: (text.drop start).drop (k - start) := by
      rw [List.drop_drop, Nat.add_sub_cancel' behind]
      exact accepted.1
    cases found : splitFirst needle (text.drop start) with
    | none =>
      refine ⟨none, seek_of_missing found, fun k behind accepted => ?_⟩
      exact not_prefix_of_splitFirst found _ (stands behind accepted)
    | some parts =>
      obtain ⟨gap, behind⟩ := parts
      obtain ⟨whole, first⟩ := splitFirst_eq_some found
      obtain ⟨n, place⟩ : ∃ n, n = start + gap.length := ⟨_, rfl⟩
      have here : text.drop n = needle ++ behind := by
        rw [place, ← List.drop_drop, whole, List.drop_left]
      have between : ∀ k, start ≤ k → k < n → ¬ Accepted text needle accepts k :=
        fun k behind below accepted => first _ (by omega) (stands behind accepted)
      obtain ⟨verdict, tested⟩ := testable n (here ▸ List.prefix_append _ _)
      rw [seek_of_place found place tested]
      cases verdict with
      | true =>
        exact ⟨_, rfl, n, by omega, rfl, ⟨here ▸ List.prefix_append _ _, tested⟩, between⟩
      | false =>
        -- The next round starts one character behind the place.
        have lead : [c] <+: text.drop n := by
          rw [here, starts]
          exact ⟨more ++ behind, rfl⟩
        have next : offsetOf text n + c.utf8Size = offsetOf text (n + 1) :=
          offsetOf_behind lead
        have shorter : n < text.length := by
          have := lead.length_le
          simp only [List.length_singleton, List.length_drop] at this
          omega
        have within : n + 1 ≤ text.length := by omega
        obtain ⟨answer, done, later⟩ := ih within (by omega)
        refine ⟨answer, by rw [if_neg Bool.false_ne_true, next, done], ?_⟩
        refine later.of_later (by omega) fun k from' below accepted => ?_
        rcases Nat.lt_or_ge k n with early | late
        · exact between k from' early accepted
        · obtain rfl : k = n := by omega
          cases tested.symm.trans accepted.2

end

end PageWiring.Text
