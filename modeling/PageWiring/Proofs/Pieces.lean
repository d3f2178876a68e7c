import Mathlib.Data.List.Basic
import PageWiring.Text.Basic

/-!
Texts that are cut into pieces at some of their characters.
-/
namespace PageWiring.Text

theorem splitWhere_plain {p : Char → Bool} {cs : List Char} (plain : ∀ c ∈ cs, p c = false) :
    splitWhere p cs = [cs] := by
  induction cs with
  | nil => rfl
  | cons c cs ih =>
    have first : p c = false := plain c List.mem_cons_self
    have rest := ih fun other member => plain other (List.mem_cons_of_mem c member)
    simp [splitWhere, first, rest]

theorem plain_of_mem_splitWhere {p : Char → Bool} {cs piece : List Char}
    (member : piece ∈ splitWhere p cs) : ∀ c ∈ piece, p c = false := by
  induction cs generalizing piece with
  | nil =>
    obtain rfl : piece = [] := by simpa [splitWhere] using member
    simp
  | cons first cs ih =>
    rw [splitWhere] at member
    split at member
    · rcases List.mem_cons.mp member with rfl | member
      · simp
      · exact ih member
    · rename_i inside
      split at member
      · obtain rfl : piece = [first] := by simpa using member
        simpa using inside
      · rename_i start rest split
        rw [split] at ih
        rcases List.mem_cons.mp member with rfl | member
        · intro c within
          rcases List.mem_cons.mp within with rfl | within
          · simpa using inside
          · exact ih List.mem_cons_self c within
        · exact ih (List.mem_cons_of_mem start member)

theorem splitWhere_ne_nil (p : Char → Bool) (cs : List Char) : splitWhere p cs ≠ [] := by
  cases cs with
  | nil => simp [splitWhere]
  | cons c cs =>
    rw [splitWhere]
    split
    · simp
    · split <;> simp

/-- The first piece starts the text, and the others stand in it. -/
theorem prefix_infix_splitWhere {p : Char → Bool} {cs first : List Char} {rest : List (List Char)}
    (pieces : splitWhere p cs = first :: rest) :
    first <+: cs ∧ ∀ piece ∈ rest, piece <:+: cs := by
  induction cs generalizing first rest with
  | nil =>
    obtain ⟨rfl, rfl⟩ : [] = first ∧ [] = rest := by simpa [splitWhere] using pieces
    exact ⟨List.prefix_refl _, by simp⟩
  | cons c cs ih =>
    obtain ⟨head, tail, inner⟩ := List.exists_cons_of_ne_nil (splitWhere_ne_nil p cs)
    obtain ⟨starts, inside⟩ := ih inner
    have wider : ∀ piece ∈ tail, piece <:+: c :: cs := fun piece member =>
      (inside piece member).trans (List.suffix_cons c cs).isInfix
    rw [splitWhere, inner] at pieces
    split at pieces
    · obtain ⟨rfl, rfl⟩ : [] = first ∧ head :: tail = rest := by simpa using pieces
      refine ⟨List.nil_prefix, List.forall_mem_cons.mpr ⟨?_, wider⟩⟩
      exact starts.isInfix.trans (List.suffix_cons c cs).isInfix
    · obtain ⟨rfl, rfl⟩ : c :: head = first ∧ tail = rest := by simpa using pieces
      exact ⟨List.cons_prefix_cons.mpr ⟨rfl, starts⟩, wider⟩

theorem infix_of_mem_splitWhere {p : Char → Bool} {cs piece : List Char}
    (member : piece ∈ splitWhere p cs) : piece <:+: cs := by
  obtain ⟨first, rest, pieces⟩ := List.exists_cons_of_ne_nil (splitWhere_ne_nil p cs)
  obtain ⟨starts, inside⟩ := prefix_infix_splitWhere pieces
  rw [pieces] at member
  rcases List.mem_cons.mp member with rfl | later
  · exact starts.isInfix
  · exact inside piece later

/-- The first piece ends at the first character that cuts. -/
theorem splitWhere_cons {p : Char → Bool} {piece rest : List Char} {c : Char}
    (plain : ∀ c ∈ piece, p c = false) (cuts : p c = true) :
    splitWhere p (piece ++ c :: rest) = piece :: splitWhere p rest := by
  induction piece with
  | nil => simp [splitWhere, cuts]
  | cons first piece ih =>
    have tail := ih fun other member => plain other (List.mem_cons_of_mem first member)
    rw [List.cons_append, splitWhere, plain first List.mem_cons_self, tail]
    rfl

/-! ### Cutting at one character -/

theorem plain_of_not_mem {sep : Char} {cs : List Char} (plain : sep ∉ cs) :
    ∀ c ∈ cs, (c == sep) = false :=
  fun _ member => beq_eq_false_iff_ne.mpr fun same => plain (same ▸ member)

theorem splitAt_plain {sep : Char} {cs : List Char} (plain : sep ∉ cs) : splitAt sep cs = [cs] :=
  splitWhere_plain (plain_of_not_mem plain)

theorem splitAt_cons {sep : Char} {piece rest : List Char} (plain : sep ∉ piece) :
    splitAt sep (piece ++ sep :: rest) = piece :: splitAt sep rest :=
  splitWhere_cons (plain_of_not_mem plain) (beq_self_eq_true sep)

theorem splitAt_append (sep : Char) (front : List Char) {back : List Char} (plain : sep ∉ back) :
    splitAt sep (front ++ sep :: back) = splitAt sep front ++ [back] := by
  have last : splitWhere (· == sep) back = [back] := splitAt_plain plain
  unfold splitAt
  induction front with
  | nil => simp [splitWhere, last]
  | cons c front ih =>
    by_cases cuts : (c == sep) = true
    · simp [splitWhere, cuts, ih]
    · cases pieces : splitWhere (· == sep) front with
      | nil => exact absurd pieces (splitWhere_ne_nil _ _)
      | cons piece rest => simp [splitWhere, cuts, ih, pieces]

/-- Pieces without the separator are found again when they are joined by it. -/
theorem splitAt_intercalate {sep : Char} {pieces : List (List Char)} (nonempty : pieces ≠ [])
    (plain : ∀ piece ∈ pieces, sep ∉ piece) :
    splitAt sep (List.intercalate [sep] pieces) = pieces := by
  induction pieces with
  | nil => exact absurd rfl nonempty
  | cons piece rest ih =>
    have first := plain piece List.mem_cons_self
    cases rest with
    | nil =>
      rw [List.intercalate_singleton]
      exact splitAt_plain first
    | cons next others =>
      rw [List.intercalate_cons_cons, List.append_assoc, List.singleton_append, splitAt_cons first,
        ih (List.cons_ne_nil _ _) fun other member => plain other (List.mem_cons_of_mem _ member)]

end PageWiring.Text
