import PageWiring.Proofs.Searches
import PageWiring.Proofs.StrippedWords

/-!
Where a keyword is found in an id, for all ids and keywords.

The keyword is cut out at the leftmost of the places where it stands, in any case, between two word
boundaries. The offsets of these places are found in a copy of the id in lower case. Lower case
changes no sizes, so they are character boundaries of the id itself.
-/
namespace PageWiring.Naming

open PageWiring.Text

variable {keyword id before own after rest : List Char}

/-! ### The leftmost place -/

/-- The leftmost place of an id where a keyword stands. -/
structure FirstWord (keyword id before own after : List Char) : Prop where
  split : id = before ++ (own ++ after)
  filled : own ≠ []
  stands : Stands keyword before own after
  first : ∀ before' own' after', id = before' ++ (own' ++ after') →
    Stands keyword before' own' after' → before.length ≤ before'.length

/-- What is found is behind a gap in which the keyword stands nowhere. -/
theorem findWord_eq_some {front : List Char} (filled : keyword ≠ [])
    (found : findWord keyword before rest = some (front, after)) :
    ∃ gap own, front = before ++ gap ∧ rest = gap ++ (own ++ after) ∧
      Stands keyword front own after ∧
      ∀ gap' own' after', rest = gap' ++ (own' ++ after') →
        Stands keyword (before ++ gap') own' after' → gap.length ≤ gap'.length := by
  induction rest generalizing before with
  | nil => cases found
  | cons c cs ih =>
    by_cases here : ∃ own after, c :: cs = own ++ after ∧ Stands keyword before own after
    · obtain ⟨own, behind, split, stands⟩ := here
      rw [split, findWord_of_stands stands filled] at found
      obtain ⟨rfl, rfl⟩ := Prod.mk.inj (Option.some.inj found)
      exact ⟨[], own, by simp, split, stands, fun _ _ _ _ _ => Nat.zero_le _⟩
    · have elsewhere : ∀ own after, c :: cs = own ++ after → ¬ Stands keyword before own after :=
        fun own after split stands => here ⟨own, after, split, stands⟩
      rw [findWord_cons filled elsewhere] at found
      obtain ⟨gap, own, rfl, rfl, stands, first⟩ := ih found
      refine ⟨c :: gap, own, by simp, rfl, stands, fun gap' own' after' split stands' => ?_⟩
      cases gap' with
      | nil => exact absurd (by simpa using stands') (elsewhere own' after' split)
      | cons d gap' =>
        obtain ⟨rfl, tail⟩ := List.cons.inj split
        have further := first gap' own' after' tail (by simpa using stands')
        simpa using further

theorem findWord_eq_none (filled : keyword ≠ []) (missing : findWord keyword before rest = none) :
    ∀ gap own after, rest = gap ++ (own ++ after) → ¬ Stands keyword (before ++ gap) own after := by
  induction rest generalizing before with
  | nil =>
    intro gap own after split stands
    have empty : own = [] := by simp_all
    exact stands.ne_nil filled empty
  | cons c cs ih =>
    have elsewhere : ∀ own after, c :: cs = own ++ after → ¬ Stands keyword before own after := by
      intro own after split stands
      rw [split, findWord_of_stands stands filled] at missing
      cases missing
    rw [findWord_cons filled elsewhere] at missing
    intro gap own after split stands
    cases gap with
    | nil => exact elsewhere own after split (by simpa using stands)
    | cons d gap =>
      obtain ⟨rfl, tail⟩ := List.cons.inj split
      exact ih missing gap own after tail (by simpa using stands)

theorem findWord_eq_some_iff (filled : keyword ≠ []) :
    findWord keyword [] id = some (before, after) ↔
      ∃ own, FirstWord keyword id before own after := by
  constructor
  · intro found
    obtain ⟨gap, own, rfl, split, stands, first⟩ := findWord_eq_some filled found
    exact ⟨own, split, stands.ne_nil filled, stands, first⟩
  · rintro ⟨own, split, -, stands, first⟩
    cases found : findWord keyword [] id with
    | none => exact absurd stands (findWord_eq_none filled found before own after split)
    | some parts =>
      obtain ⟨front, behind⟩ := parts
      obtain ⟨_, own', rfl, split', stands', first'⟩ := findWord_eq_some filled found
      have length : front.length = before.length :=
        Nat.le_antisymm (first' before own after split stands) (first _ own' behind split' stands')
      obtain ⟨rfl, same⟩ := List.append_inj (split'.symm.trans split) length
      obtain ⟨-, rfl⟩ := List.append_inj same (stands'.length_eq.trans stands.length_eq.symm)
      rfl

/-! ### The search by offsets -/

/-- Are both ends of the keyword at this offset word boundaries of the id? -/
def standsAt (id keyword : List Char) (start : Nat) : Except WalkFault Bool := do
  let (before, behind) ← cutAt id start
  let (upTo, after) ← cutAt id (start + byteLength keyword)
  return isBoundary before.getLast? behind.head? && isBoundary upTo.getLast? after.head?

/-- Where the keyword stands in lower case, the id can be cut at both of its ends. -/
theorem standsAt_of_split {n : Nat} (filled : keyword ≠ []) (split : id.drop n = own ++ after)
    (same : asciiLower own = keyword) :
    standsAt id keyword (offsetOf id n) = .ok (isBoundary (id.take n).getLast? own.head? &&
      isBoundary own.getLast? after.head?) := by
  have behind : cutAt id (offsetOf id n + byteLength keyword) = .ok (id.take n ++ own, after) := by
    rw [← same, byteLength_asciiLower, cutAt_behind split, List.take_add, split, List.take_left]
  have solid : own ≠ [] := by
    rintro rfl
    exact filled same.symm
  have first : (own ++ after).head? = own.head? := by
    obtain ⟨c, cs, rfl⟩ := List.exists_cons_of_ne_nil solid
    rfl
  rw [standsAt, cutAt_offsetOf, split]
  simp only [bind, Except.bind, behind]
  rw [first, List.getLast?_append_of_ne_nil _ solid]
  rfl

/-- A keyword is found in lower case where the id has it in any case. -/
theorem prefix_drop_asciiLower_iff {n : Nat} :
    keyword <+: (asciiLower id).drop n ↔
      ∃ own after, id.drop n = own ++ after ∧ asciiLower own = keyword := by
  rw [asciiLower, ← List.map_drop]
  constructor
  · rintro ⟨behind, lowered⟩
    obtain ⟨own, after, split, same, -⟩ := List.map_eq_append_iff.mp lowered.symm
    exact ⟨own, after, split, same⟩
  · rintro ⟨own, after, split, rfl⟩
    rw [split, List.map_append]
    exact List.prefix_append _ _

theorem accepted_word_iff (filled : keyword ≠ []) {n : Nat} :
    Accepted (asciiLower id) keyword (standsAt id keyword) n ↔
      ∃ own after, id.drop n = own ++ after ∧ Stands keyword (id.take n) own after := by
  rw [Accepted, prefix_drop_asciiLower_iff, offsetOf_asciiLower]
  constructor
  · rintro ⟨⟨own, after, split, rfl⟩, accepted⟩
    rw [standsAt_of_split filled split rfl, Except.ok.injEq, Bool.and_eq_true_iff] at accepted
    exact ⟨own, after, split, rfl, accepted.1, accepted.2⟩
  · rintro ⟨own, after, split, stands⟩
    refine ⟨⟨own, after, split, stands.same⟩, ?_⟩
    rw [standsAt_of_split filled split stands.same, stands.starts, stands.ends]
    rfl

theorem Stands.accepted (stands : Stands keyword before own after) (filled : keyword ≠ [])
    (split : id = before ++ (own ++ after)) :
    Accepted (asciiLower id) keyword (standsAt id keyword) before.length := by
  refine (accepted_word_iff filled).mpr ⟨own, after, ?_, ?_⟩
  · rw [split, List.drop_left]
  · rw [split, List.take_left]
    exact stands

/-- The search with checked cuts comes to an end, at the place which is found character by
character. -/
theorem seek_word {c : Char} {more : List Char} (starts : keyword = c :: more) {rounds : Nat}
    (enough : id.length < rounds) :
    seek (asciiLower id) keyword c.utf8Size (standsAt id keyword) rounds 0 =
      .ok ((findWord keyword [] id).map fun parts => byteLength parts.1) := by
  have filled : keyword ≠ [] := starts ▸ List.cons_ne_nil c more
  have testable : ∀ n, keyword <+: (asciiLower id).drop n →
      ∃ verdict, standsAt id keyword (offsetOf (asciiLower id) n) = .ok verdict := by
    intro n here
    obtain ⟨own, after, split, same⟩ := prefix_drop_asciiLower_iff.mp here
    rw [offsetOf_asciiLower]
    exact ⟨_, standsAt_of_split filled split same⟩
  have length : (asciiLower id).length = id.length := List.length_map _
  obtain ⟨answer, found, first⟩ :=
    exists_seek starts testable (Nat.zero_le _) (by omega : (asciiLower id).length < 0 + rounds)
  rw [offsetOf_zero] at found
  rw [found]
  cases answer with
  | none =>
    cases placed : findWord keyword [] id with
    | none => rfl
    | some parts =>
      obtain ⟨own, split, -, stands, -⟩ := (findWord_eq_some_iff filled).mp placed
      exact absurd (stands.accepted filled split) (first _ (Nat.zero_le _))
  | some offset =>
    obtain ⟨n, -, rfl, accepted, least⟩ := first
    obtain ⟨own, after, split, stands⟩ := (accepted_word_iff filled).mp accepted
    have whole : id = id.take n ++ (own ++ after) := by rw [← split, List.take_append_drop]
    have placed : findWord keyword [] id = some (id.take n, after) := by
      refine (findWord_eq_some_iff filled).mpr ⟨own, whole, stands.ne_nil filled, stands, ?_⟩
      intro before' own' after' split' stands'
      refine Nat.le_trans (List.length_take_le n id) (Nat.le_of_not_lt fun early => ?_)
      exact least _ (Nat.zero_le _) early (stands'.accepted filled split')
    rw [placed, offsetOf_asciiLower]
    rfl

/-- The id without the keyword, by a search in which every cut is checked. -/
def stripWalk (rounds : Nat) (id keyword : List Char) :
    Except WalkFault (Option (List Char)) := do
  match asciiLower keyword with
  | [] => return none
  | first :: more =>
    let lowered := first :: more
    match ← seek (asciiLower id) lowered first.utf8Size (standsAt id lowered) rounds 0 with
    | none => return none
    | some start =>
      let (before, _) ← cutAt id start
      let (_, after) ← cutAt id (start + byteLength lowered)
      let base := joinAround before after
      return if base.isEmpty then none else some base

theorem stripWalk_eq {rounds : Nat} (enough : id.length < rounds) (keyword : List Char) :
    stripWalk rounds id keyword = .ok (stripKeywordChars id keyword) := by
  rw [stripWalk, stripKeywordChars]
  cases lowered : asciiLower keyword with
  | nil =>
    obtain rfl : keyword = [] := List.map_eq_nil_iff.mp lowered
    rfl
  | cons first more =>
    have filled : keyword.isEmpty = false := by
      cases keyword with
      | nil => cases lowered
      | cons c cs => rfl
    dsimp only
    rw [seek_word rfl enough, filled]
    cases found : findWord (first :: more) [] id with
    | none => rfl
    | some parts =>
      obtain ⟨before, after⟩ := parts
      obtain ⟨own, rfl, -, stands, -⟩ := (findWord_eq_some_iff (List.cons_ne_nil _ _)).mp found
      have starts := cutAt_append before (own ++ after)
      have ends :
          cutAt (before ++ (own ++ after)) (byteLength before + byteLength (first :: more)) =
            .ok (before ++ own, after) := by
        rw [← stands.same, byteLength_asciiLower, ← byteLength_append, ← List.append_assoc]
        exact cutAt_append _ _
      simp only [bind, Except.bind, Option.map_some, starts, ends]
      rfl

/-! ### What stays of the id -/

theorem stripKeywordChars_eq_some_iff {base : List Char} :
    stripKeywordChars id keyword = some base ↔ base ≠ [] ∧ ∃ before own after,
      FirstWord (asciiLower keyword) id before own after ∧ base = joinAround before after := by
  by_cases filled : keyword = []
  · subst filled
    refine iff_of_false (by simp [stripKeywordChars]) ?_
    rintro ⟨-, before, own, after, first, -⟩
    exact first.filled (List.map_eq_nil_iff.mp first.stands.same)
  · have solid : asciiLower keyword ≠ [] := fun empty => filled (List.map_eq_nil_iff.mp empty)
    have visible : keyword.isEmpty = false := List.isEmpty_eq_false_iff.mpr filled
    rw [stripKeywordChars, visible]
    constructor
    · intro stripped
      cases found : findWord (asciiLower keyword) [] id with
      | none => simp [found] at stripped
      | some parts =>
        obtain ⟨own, first⟩ := (findWord_eq_some_iff solid).mp found
        simp only [Bool.false_eq_true, if_false, found] at stripped
        split at stripped
        · cases stripped
        · next kept =>
          obtain rfl := Option.some.inj stripped
          exact ⟨by simpa using kept, parts.1, own, parts.2, first, rfl⟩
    · rintro ⟨kept, before, own, after, first, rfl⟩
      have found := (findWord_eq_some_iff solid).mpr ⟨own, first⟩
      simp [found, kept]

/-- A keyword is cut out of an id by a search that comes to an end and cuts the id at character
boundaries only. Something stays exactly when the id has more than the leftmost word that is the
keyword, in any case and between two word boundaries, and the separator that goes with it. -/
theorem stripKeyword_leftmost (id keyword : String) {rounds : Nat}
    (enough : id.toList.length < rounds) :
    stripWalk rounds id.toList keyword.toList = .ok ((stripKeyword id keyword).map String.toList) ∧
      ∀ base, stripKeyword id keyword = some base ↔ base ≠ "" ∧ ∃ before own after,
        FirstWord (asciiLower keyword.toList) id.toList before own after ∧
          base = String.ofList (joinAround before after) := by
  refine ⟨?_, fun base => ?_⟩
  · rw [stripWalk_eq enough, stripKeyword, Option.map_map]
    simp [Function.comp_def]
  · have stripped : stripKeyword id keyword = some base ↔
        stripKeywordChars id.toList keyword.toList = some base.toList := by
      rw [stripKeyword, Option.map_eq_some_iff]
      constructor
      · rintro ⟨cs, found, rfl⟩
        rwa [String.toList_ofList]
      · intro found
        exact ⟨_, found, String.ofList_toList⟩
    have empty : base.toList ≠ [] ↔ base ≠ "" := by simp
    have spelled (cs : List Char) : base.toList = cs ↔ base = String.ofList cs :=
      ⟨fun same => by rw [← same, String.ofList_toList],
        fun same => by rw [same, String.toList_ofList]⟩
    simp only [stripped, stripKeywordChars_eq_some_iff, empty, spelled]

theorem stripKeyword_leftmost_overlapping :
    "étatat-TaT-x".toList.length < 13 ∧
      stripWalk 13 "étatat-TaT-x".toList "tat".toList = .ok (some "étatat-x".toList) ∧
      ∃ before own after,
        FirstWord (asciiLower "tat".toList) "étatat-TaT-x".toList before own after ∧
          "étatat-x" = String.ofList (joinAround before after) := by
  have enough : "étatat-TaT-x".toList.length < 13 := by decide
  have stripped : stripKeyword "étatat-TaT-x" "tat" = some "étatat-x" := by decide
  obtain ⟨walked, found⟩ := stripKeyword_leftmost "étatat-TaT-x" "tat" enough
  refine ⟨enough, ?_, ((found _).mp stripped).2⟩
  rw [walked, stripped]
  rfl

end PageWiring.Naming
