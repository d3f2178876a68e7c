import PageWiring.Proofs.Spellings

/-!
A word that is cut out of an id.

The search for a keyword tries every place of the id. Inside a word there is no boundary, so the
keyword is found at the start of a word only, and it ends where a word ends. Between separators that
makes it one word of the id; without them it may be several words in a row, as `tabbar` is found in
`tabBar`.
-/
namespace PageWiring.Naming

open PageWiring.Text

/-! ### Boundaries -/

section

variable (k l : Letter) (s : Separator)

@[simp] theorem toLower_capital : l.capital.toLower = l.char :=
  l.all (p := fun c => c.toUpper.toLower = c) (by decide)

@[simp] theorem toLower_separator : s.char.toLower = s.char := by
  cases s <;> decide

theorem isLowercase_char : isLowercase l.char = true :=
  l.all (p := fun c => isLowercase c = true) (by decide)

theorem isUppercase_char : isUppercase l.char = false :=
  l.all (p := fun c => isUppercase c = false) (by decide)

theorem isUppercase_capital : isUppercase l.capital = true :=
  l.all (p := fun c => isUppercase c.toUpper = true) (by decide)

theorem isAsciiDigit_char : isAsciiDigit l.char = false :=
  l.all (p := fun c => isAsciiDigit c = false) (by decide)

theorem isAsciiDigit_capital : isAsciiDigit l.capital = false :=
  l.all (p := fun c => isAsciiDigit c.toUpper = false) (by decide)

@[simp] theorem isSeparator_char : isSeparator l.char = false :=
  l.all (p := fun c => isSeparator c = false) (by decide)

@[simp] theorem isSeparator_capital : isSeparator l.capital = false :=
  l.all (p := fun c => isSeparator c.toUpper = false) (by decide)

@[simp] theorem isSeparator_separator : isSeparator s.char = true := by
  cases s <;> decide

/-- A small letter behind a letter goes on with its word. -/
@[simp] theorem isBoundary_char_char : isBoundary (some k.char) (some l.char) = false := by
  simp [isBoundary, isUppercase_char, isAsciiDigit_char]

@[simp] theorem isBoundary_capital_char : isBoundary (some k.capital) (some l.char) = false := by
  simp [isBoundary, isUppercase_char, isAsciiDigit_char, isAsciiDigit_capital]

@[simp] theorem isBoundary_char_capital : isBoundary (some k.char) (some l.capital) = true := by
  simp [isBoundary, isLowercase_char, isUppercase_capital]

@[simp] theorem isBoundary_separator_left (c : Option Char) :
    isBoundary (some s.char) c = true := by
  cases c <;> simp [isBoundary]

@[simp] theorem isBoundary_separator_right (c : Option Char) :
    isBoundary c (some s.char) = true := by
  cases c <;> simp [isBoundary]

@[simp] theorem isBoundary_none_left (c : Option Char) : isBoundary none c = true := rfl

@[simp] theorem isBoundary_none_right (c : Option Char) : isBoundary c none = true := by
  cases c <;> rfl

end

/-! ### Where a keyword stands -/

/-- A keyword stands between two parts of an id, in any case, and its ends are word boundaries. -/
structure Stands (keyword before own after : List Char) : Prop where
  same : asciiLower own = keyword
  starts : isBoundary before.getLast? own.head? = true
  ends : isBoundary own.getLast? after.head? = true

section

variable {keyword before own after cs : List Char} {c : Char}

theorem Stands.ne_nil (stands : Stands keyword before own after) (filled : keyword ≠ []) :
    own ≠ [] := by
  rintro rfl
  exact filled stands.same.symm

theorem Stands.head?_eq (stands : Stands keyword before own after) (filled : keyword ≠ [])
    (split : c :: cs = own ++ after) : own.head? = some c := by
  obtain ⟨first, own, rfl⟩ := List.exists_cons_of_ne_nil (stands.ne_nil filled)
  obtain ⟨rfl, -⟩ := List.cons.inj split
  rfl

theorem Stands.length_eq (stands : Stands keyword before own after) :
    own.length = keyword.length := by
  rw [← stands.same, asciiLower, List.length_map]

theorem findWord_of_stands (stands : Stands keyword before own after) (filled : keyword ≠ []) :
    findWord keyword before (own ++ after) = some (before, after) := by
  have long := stands.length_eq
  obtain ⟨c, cs, rfl⟩ := List.exists_cons_of_ne_nil (stands.ne_nil filled)
  have found : keyword.isPrefixOf (asciiLower (c :: cs ++ after)) = true := by
    rw [List.isPrefixOf_iff_prefix, ← stands.same, asciiLower, asciiLower, List.map_append]
    exact List.prefix_append _ _
  have taken : (c :: cs ++ after).take keyword.length = c :: cs := by
    rw [← long, List.take_left]
  have left : (c :: cs ++ after).drop keyword.length = after := by
    rw [← long, List.drop_left]
  have starts : isBoundary before.getLast? (some c) = true := stands.starts
  rw [List.cons_append] at found taken left ⊢
  rw [findWord, found, taken, left, starts, stands.ends]
  rfl

/-- A place where the keyword does not stand is passed over. -/
theorem findWord_cons (filled : keyword ≠ [])
    (elsewhere : ∀ own after, c :: cs = own ++ after → ¬ Stands keyword before own after) :
    findWord keyword before (c :: cs) = findWord keyword (before ++ [c]) cs := by
  rw [findWord, if_neg]
  intro here
  simp only [Bool.and_eq_true] at here
  obtain ⟨⟨found, starts⟩, ends⟩ := here
  refine elsewhere _ _ (List.take_append_drop keyword.length (c :: cs)).symm ⟨?_, ?_, ends⟩
  · rw [asciiLower, List.map_take, ← asciiLower]
    exact (List.prefix_iff_eq_take.mp (List.isPrefixOf_iff_prefix.mp found)).symm
  · obtain ⟨first, others, rfl⟩ := List.exists_cons_of_ne_nil filled
    exact starts

end

variable {kw : Word} {before own after rest : List Char}

/-! ### Letters in a row -/

theorem Word.chars_ne_nil (w : Word) : w.chars ≠ [] := List.cons_ne_nil _ _

def IsLetter (c : Char) : Prop := ∃ l : Letter, c = l.char ∨ c = l.capital

theorem Letter.isLetter_char (l : Letter) : IsLetter l.char := ⟨l, .inl rfl⟩

theorem Letter.isLetter_capital (l : Letter) : IsLetter l.capital := ⟨l, .inr rfl⟩

theorem IsLetter.isBoundary_char {c : Char} (letter : IsLetter c) (l : Letter) :
    isBoundary (some c) (some l.char) = false := by
  obtain ⟨k, rfl | rfl⟩ := letter
  · exact isBoundary_char_char k l
  · exact isBoundary_capital_char k l

theorem exists_last_letter {c : Char} (letter : IsLetter c) (ls : List Letter) :
    ∃ last, (c :: ls.map (·.char)).getLast? = some last ∧ IsLetter last := by
  rcases List.eq_nil_or_concat ls with rfl | ⟨init, l, rfl⟩
  · exact ⟨c, rfl, letter⟩
  · refine ⟨l.char, ?_, l.isLetter_char⟩
    rw [List.concat_eq_append, List.map_append, ← List.cons_append, List.map_singleton,
      List.getLast?_concat]

/-- No keyword starts at small letters that go on with a word. -/
theorem findWord_letters (ls : List Letter)
    (inside : ∃ last, before.getLast? = some last ∧ IsLetter last) :
    findWord kw.chars before (ls.map (·.char) ++ rest) =
      findWord kw.chars (before ++ ls.map (·.char)) rest := by
  induction ls generalizing before with
  | nil => simp
  | cons l ls ih =>
    obtain ⟨last, ended, letter⟩ := inside
    have elsewhere : ∀ own after, l.char :: (ls.map (·.char) ++ rest) = own ++ after →
        ¬ Stands kw.chars before own after := by
      intro own after split stands
      have starts := stands.starts
      rw [ended, stands.head?_eq kw.chars_ne_nil split, letter.isBoundary_char] at starts
      cases starts
    rw [List.map_cons, List.cons_append, findWord_cons kw.chars_ne_nil elsewhere,
      ih ⟨l.char, List.getLast?_concat, l.isLetter_char⟩, List.append_assoc, List.singleton_append]

/-- A word is passed over when the keyword does not stand at its start. -/
theorem findWord_word {c : Char} (letter : IsLetter c) (ls : List Letter)
    (elsewhere : ∀ own after, c :: ls.map (·.char) ++ rest = own ++ after →
      ¬ Stands kw.chars before own after) :
    findWord kw.chars before (c :: ls.map (·.char) ++ rest) =
      findWord kw.chars (before ++ c :: ls.map (·.char)) rest := by
  simp only [List.cons_append] at elsewhere ⊢
  rw [findWord_cons kw.chars_ne_nil elsewhere,
    findWord_letters ls ⟨c, List.getLast?_concat, letter⟩, List.append_assoc,
    List.singleton_append]

/-- What starts with a word and ends at a boundary has the whole word. -/
theorem exists_of_word {c : Char} (letter : IsLetter c) (ls : List Letter)
    (split : c :: ls.map (·.char) ++ rest = own ++ after) (filled : own ≠ [])
    (ends : isBoundary own.getLast? after.head? = true) :
    ∃ more, own = c :: ls.map (·.char) ++ more ∧ rest = more ++ after := by
  rcases List.append_eq_append_iff.mp split with ⟨more, rfl, rfl⟩ | ⟨left, whole, rfl⟩
  · exact ⟨more, rfl, rfl⟩
  · cases left with
    | nil => exact ⟨[], by simpa using whole.symm, by simp⟩
    | cons next left =>
      -- The end would be between two letters of the word.
      obtain ⟨first, own, rfl⟩ := List.exists_cons_of_ne_nil filled
      obtain ⟨rfl, tail⟩ := List.cons.inj whole
      obtain ⟨front, back, rfl, rfl, behind⟩ := List.map_eq_append_iff.mp tail
      obtain ⟨l, back, rfl, rfl, -⟩ := List.map_eq_cons_iff.mp behind
      obtain ⟨last, ended, isLetter⟩ := exists_last_letter letter front
      rw [ended, List.cons_append, List.head?_cons, isLetter.isBoundary_char] at ends
      cases ends

/-! ### Words behind separators -/

theorem Word.chars_injective {v w : Word} (same : v.chars = w.chars) : v = w := by
  have letters : Function.Injective Letter.char := by
    rintro ⟨c, _⟩ ⟨d, _⟩ rfl
    rfl
  obtain ⟨first, rest⟩ := List.cons.inj same
  obtain ⟨first', rest'⟩ := w
  obtain rfl := letters first
  obtain rfl := List.map_injective_iff.mpr letters rest
  rfl

/-- A keyword is a word of letters and reaches over no separator. -/
theorem Stands.separator_not_mem (stands : Stands kw.chars before own after) (s : Separator) :
    s.char ∉ own := by
  intro inside
  have lowered : s.char ∈ kw.chars := by
    rw [← stands.same, ← toLower_separator s]
    exact List.mem_map_of_mem inside
  have := alphanumeric_of_mem_chars lowered
  simp at this

theorem findWord_gap (g : Gap) :
    findWord kw.chars before (g.chars ++ rest) = findWord kw.chars (before ++ g.chars) rest := by
  have pass (seps : List Separator) :
      findWord kw.chars before (seps.map (·.char) ++ rest) =
        findWord kw.chars (before ++ seps.map (·.char)) rest := by
    induction seps generalizing before with
    | nil => simp
    | cons s seps ih =>
      have elsewhere : ∀ own after, s.char :: (seps.map (·.char) ++ rest) = own ++ after →
          ¬ Stands kw.chars before own after := by
        intro own after split stands
        exact stands.separator_not_mem s
          (List.mem_of_mem_head? (stands.head?_eq kw.chars_ne_nil split))
      rw [List.map_cons, List.cons_append, findWord_cons kw.chars_ne_nil elsewhere, ih,
        List.append_assoc, List.singleton_append]
  exact pass (g.first :: g.rest)

/-- A keyword that stands at the start of a word is that word. -/
theorem eq_of_stands {w : Word} {more : List (Gap × Word)}
    (split : w.chars ++ behindGaps more = own ++ after)
    (stands : Stands kw.chars before own after) : w = kw := by
  obtain ⟨further, rfl, behind⟩ :=
    exists_of_word w.first.isLetter_char w.rest split (stands.ne_nil kw.chars_ne_nil) stands.ends
  have exactly : further = [] := by
    cases further with
    | nil => rfl
    | cons c further =>
      cases more with
      | nil => cases behind
      | cons p more =>
        rw [behindGaps_cons, Gap.chars, List.cons_append, List.cons_append] at behind
        obtain ⟨rfl, -⟩ := List.cons.inj behind
        exact absurd (List.mem_append_right _ List.mem_cons_self)
          (stands.separator_not_mem p.1.first)
  subst exactly
  apply Word.chars_injective
  rw [← asciiLower_chars w, ← stands.same, List.append_nil, Word.chars]

theorem findWord_other {w : Word} (other : w ≠ kw) (more : List (Gap × Word)) :
    findWord kw.chars before (w.chars ++ behindGaps more) =
      findWord kw.chars (before ++ w.chars) (behindGaps more) :=
  findWord_word w.first.isLetter_char w.rest fun _ _ split stands =>
    other (eq_of_stands split stands)

theorem findWord_behindGaps {front : List (Gap × Word)} (others : ∀ p ∈ front, p.2 ≠ kw)
    (back : List (Gap × Word)) :
    findWord kw.chars before (behindGaps (front ++ back)) =
      findWord kw.chars (before ++ behindGaps front) (behindGaps back) := by
  induction front generalizing before with
  | nil => simp [behindGaps_nil]
  | cons p front ih =>
    rw [List.cons_append, behindGaps_cons, behindGaps_cons, findWord_gap,
      findWord_other (others p List.mem_cons_self),
      ih fun q member => others q (List.mem_cons_of_mem p member)]
    simp

theorem exists_getLast?_chars (w : Word) : ∃ l : Letter, w.chars.getLast? = some l.char := by
  refine ⟨(w.first :: w.rest).getLast (List.cons_ne_nil _ _), ?_⟩
  show ((w.first :: w.rest).map (·.char)).getLast? = _
  rw [List.getLast?_map, List.getLast?_eq_some_getLast (List.cons_ne_nil _ _)]
  rfl

/-- A word ends before a gap, and with the text. -/
theorem isBoundary_behindGaps (w : Word) (more : List (Gap × Word)) :
    isBoundary w.chars.getLast? (behindGaps more).head? = true := by
  cases more with
  | nil => simp [behindGaps_nil]
  | cons p more => simp [behindGaps_cons, Gap.chars]

theorem findWord_first (more : List (Gap × Word)) :
    findWord kw.chars [] (kw.chars ++ behindGaps more) = some ([], behindGaps more) :=
  findWord_of_stands ⟨asciiLower_chars kw, rfl, isBoundary_behindGaps kw more⟩ kw.chars_ne_nil

theorem findWord_later {w : Word} {front : List (Gap × Word)} (first : w ≠ kw)
    (others : ∀ p ∈ front, p.2 ≠ kw) (s : Separator) (back : List (Gap × Word)) :
    findWord kw.chars [] (w.chars ++ behindGaps (front ++ (⟨s, []⟩, kw) :: back)) =
      some (w.chars ++ behindGaps front ++ [s.char], behindGaps back) := by
  rw [findWord_other first, findWord_behindGaps others, behindGaps_cons, findWord_gap]
  refine findWord_of_stands ⟨asciiLower_chars kw, ?_, isBoundary_behindGaps kw back⟩ kw.chars_ne_nil
  simp [Gap.chars]

/-! ### What stays of words with separators -/

/-- `shop-tab_content` -/
def linked (ws : List Word) (seps : List Separator) : List Char :=
  separated ws (seps.map (⟨·, []⟩))

/-- What stays of an id, if anything does. -/
def kept (base : List Char) : Option (List Char) := if base = [] then none else some base

theorem map_kept {base : List Char} {ws : List Word} (empty : base = [] ↔ ws = []) :
    (kept base).map String.ofList = if ws = [] then none else some (String.ofList base) := by
  rw [kept]
  by_cases nothing : ws = []
  · rw [if_pos nothing, if_pos (empty.mpr nothing)]
    rfl
  · rw [if_neg nothing, if_neg (mt empty.mp nothing)]
    rfl

theorem stripKeywordChars_of_findWord {id keyword : List Char}
    (same : asciiLower keyword = kw.chars)
    (found : findWord kw.chars [] id = some (before, after)) :
    stripKeywordChars id keyword = kept (joinAround before after) := by
  have filled : keyword.isEmpty = false := by
    cases keyword with
    | nil => simp [asciiLower, Word.chars] at same
    | cons c cs => rfl
  rw [stripKeywordChars, filled, same, found]
  simp [kept]

theorem decapitalizeChars_chars (w : Word) (more : List Char) :
    decapitalizeChars (w.chars ++ more) = w.chars ++ more := by
  simp [decapitalizeChars, Word.chars]

/-- The separator in front of the keyword goes with it. -/
theorem joinAround_separator {front : List Char} (filled : front ≠ []) (s : Separator)
    (after : List Char) : joinAround (front ++ [s.char]) after = front ++ after := by
  simp [joinAround, filled]

/-- A keyword that comes first takes the separator behind it. -/
theorem joinAround_first (s : Separator) (w : Word) (more : List Char) :
    joinAround [] (s.char :: (w.chars ++ more)) = w.chars ++ more := by
  simp [joinAround, decapitalizeChars_chars]

theorem linked_cons (w : Word) (ws : List Word) (seps : List Separator) :
    linked (w :: ws) seps = w.chars ++ behindGaps ((seps.map (⟨·, []⟩)).zip ws) := rfl

theorem strip_linked_first {ws : List Word} {keyword : List Char} {seps : List Separator}
    (same : asciiLower keyword = kw.chars) (between : seps.length = ws.length) :
    stripKeywordChars (linked (kw :: ws) seps) keyword = kept (linked ws (seps.eraseIdx 0)) := by
  rw [linked_cons, stripKeywordChars_of_findWord same (findWord_first _)]
  cases ws with
  | nil => simp [behindGaps, joinAround, decapitalizeChars, linked, separated]
  | cons w ws =>
    obtain ⟨s, seps, rfl⟩ := List.exists_cons_of_length_eq_add_one between
    rw [List.map_cons, List.zip_cons_cons, behindGaps_cons]
    exact congrArg kept (joinAround_first s w _)

theorem strip_linked_later {w : Word} {front back : List Word} {keyword : List Char}
    {left right : List Separator} (same : asciiLower keyword = kw.chars) (first : w ≠ kw)
    (unmet : kw ∉ front) (between : left.length = front.length) (s : Separator) :
    stripKeywordChars (linked (w :: (front ++ kw :: back)) (left ++ s :: right)) keyword =
      kept (linked (w :: (front ++ back)) (left ++ right)) := by
  have lengths : (left.map fun s => (⟨s, []⟩ : Gap)).length = front.length := by
    rw [List.length_map, between]
  have others : ∀ p ∈ (left.map fun s => (⟨s, []⟩ : Gap)).zip front, p.2 ≠ kw := by
    rintro ⟨g, v⟩ member rfl
    exact unmet (List.of_mem_zip member).2
  have filled : w.chars ++ behindGaps ((left.map (⟨·, []⟩)).zip front) ≠ [] := by
    simp [Word.chars]
  rw [linked_cons, linked_cons, List.map_append, List.map_cons, List.zip_append lengths,
    List.zip_cons_cons, stripKeywordChars_of_findWord same (findWord_later first others s _),
    joinAround_separator filled, List.map_append, List.zip_append lengths]
  simp [behindGaps]

theorem stripKeywordChars_linked {ws : List Word} {keyword : List Char} {seps : List Separator}
    (member : kw ∈ ws) (same : asciiLower keyword = kw.chars)
    (between : seps.length + 1 = ws.length) :
    stripKeywordChars (linked ws seps) keyword =
      kept (linked (ws.erase kw) (seps.eraseIdx (ws.idxOf kw - 1))) := by
  cases ws with
  | nil => cases member
  | cons w ws =>
    have between : seps.length = ws.length := by simpa using between
    by_cases first : w = kw
    · subst first
      rw [strip_linked_first same between, List.erase_cons_head, List.idxOf_cons_self]
    · have later : kw ∈ ws := by simpa [Ne.symm first] using member
      obtain ⟨front, back, unmet, rfl, erased⟩ := List.exists_erase_eq later
      obtain ⟨left, s, right, rfl, lengths⟩ : ∃ left s right, seps = left ++ s :: right ∧
          left.length = front.length := by
        have inside : front.length < seps.length := by
          rw [between]
          simp
        refine ⟨seps.take front.length, seps[front.length], seps.drop (front.length + 1), ?_, ?_⟩
        · rw [← List.drop_eq_getElem_cons inside, List.take_append_drop]
        · rw [List.length_take, Nat.min_eq_left (Nat.le_of_lt inside)]
      have place : (w :: (front ++ kw :: back)).idxOf kw - 1 = left.length := by
        rw [List.idxOf_cons_ne _ first, List.idxOf_append_of_notMem unmet, List.idxOf_cons_self]
        omega
      rw [strip_linked_later same first unmet lengths s,
        List.erase_cons_tail (by simpa using first), erased, place,
        List.eraseIdx_append_of_length_le (Nat.le_refl _), Nat.sub_self]
      rfl

/-! ### Words with capitals -/

/-- No two or more words in a row, written together, are the keyword. -/
def Apart (ws : List Word) (kw : Word) : Prop :=
  ∀ run, run <:+: ws → 2 ≤ run.length → run.flatMap (·.chars) ≠ kw.chars

theorem Apart.tail {w : Word} {ws : List Word} (apart : Apart (w :: ws) kw) : Apart ws kw :=
  fun run inside => apart run (inside.trans (List.suffix_cons w ws).isInfix)

theorem asciiLower_capitalized (w : Word) : asciiLower w.capitalized = w.chars := by
  simp [asciiLower, Word.chars, Word.capitalized]

theorem asciiLower_pascal (ws : List Word) : asciiLower (pascal ws) = ws.flatMap (·.chars) := by
  rw [asciiLower, pascal, List.map_flatMap]
  congr 1
  funext w
  exact asciiLower_capitalized w

theorem isBoundary_of_append {front back : List Char} {next : Option Char}
    (ends : isBoundary (front ++ back).getLast? next = true) :
    isBoundary back.getLast? next = true := by
  cases back with
  | nil => rfl
  | cons c back => rwa [List.getLast?_append_of_ne_nil _ (List.cons_ne_nil c back)] at ends

/-- What starts with a word and ends at a boundary is that word, or some words in a row. -/
theorem exists_of_pascal {ws : List Word} (split : pascal ws = own ++ after)
    (ends : isBoundary own.getLast? after.head? = true) :
    ∃ run left, ws = run ++ left ∧ own = pascal run := by
  induction ws generalizing own with
  | nil =>
    obtain ⟨rfl, -⟩ := List.append_eq_nil_iff.mp split.symm
    exact ⟨[], [], rfl, rfl⟩
  | cons w ws ih =>
    by_cases empty : own = []
    · exact ⟨[], w :: ws, rfl, empty⟩
    · obtain ⟨more, rfl, behind⟩ :=
        exists_of_word w.first.isLetter_capital w.rest split empty ends
      obtain ⟨run, left, rfl, rfl⟩ := ih behind (isBoundary_of_append ends)
      exact ⟨w :: run, left, rfl, rfl⟩

/-- A word that is not the keyword is passed over, in small letters and with a capital. -/
theorem findWord_apart {w : Word} {ws : List Word} {c : Char} (letter : IsLetter c)
    (lowered : c.toLower = w.first.char) (other : w ≠ kw) (apart : Apart (w :: ws) kw) :
    findWord kw.chars before (c :: w.rest.map (·.char) ++ pascal ws) =
      findWord kw.chars (before ++ c :: w.rest.map (·.char)) (pascal ws) := by
  refine findWord_word letter w.rest fun own after split stands => ?_
  obtain ⟨more, rfl, behind⟩ :=
    exists_of_word letter w.rest split (stands.ne_nil kw.chars_ne_nil) stands.ends
  obtain ⟨run, left, rfl, rfl⟩ := exists_of_pascal behind (isBoundary_of_append stands.ends)
  have spelled : (w :: run).flatMap (·.chars) = kw.chars := by
    rw [← stands.same, asciiLower, List.map_append, ← asciiLower, ← asciiLower, asciiLower_pascal]
    simp [asciiLower, lowered, Word.chars]
  cases run with
  | nil =>
    apply other
    apply Word.chars_injective
    simpa using spelled
  | cons next run =>
    refine apart (w :: next :: run) ?_ (by simp) spelled
    exact (List.prefix_append (w :: next :: run) left).isInfix

theorem findWord_pascal {front back : List Word} (unmet : kw ∉ front)
    (apart : Apart (front ++ back) kw) :
    findWord kw.chars before (pascal (front ++ back)) =
      findWord kw.chars (before ++ pascal front) (pascal back) := by
  induction front generalizing before with
  | nil => simp [pascal]
  | cons w front ih =>
    obtain ⟨other, unmet⟩ : kw ≠ w ∧ kw ∉ front := by simpa using unmet
    have passed : findWord kw.chars before (w.capitalized ++ pascal (front ++ back)) =
        findWord kw.chars (before ++ w.capitalized) (pascal (front ++ back)) :=
      findWord_apart w.first.isLetter_capital (toLower_capital _) (Ne.symm other) apart
    rw [List.cons_append, pascal_cons, pascal_cons, passed, ih unmet apart.tail,
      List.append_assoc]

/-- A word of two letters or more ends in a small letter, also with a capital at its start. -/
theorem exists_getLast?_capitalized {w : Word} (long : 2 ≤ w.chars.length) :
    ∃ l : Letter, w.capitalized.getLast? = some l.char := by
  have filled := Word.rest_ne_nil long
  refine ⟨w.rest.getLast filled, ?_⟩
  have mapped : w.rest.map (·.char) ≠ [] := by simpa using filled
  rw [Word.capitalized, ← List.singleton_append, List.getLast?_append_of_ne_nil _ mapped,
    List.getLast?_map, List.getLast?_eq_some_getLast filled]
  rfl

theorem exists_getLast?_camel {ws : List Word} (filled : ws ≠ [])
    (long : ∀ w ∈ ws, 2 ≤ w.chars.length) : ∃ l : Letter, (camel ws).getLast? = some l.char := by
  obtain ⟨w, ws, rfl⟩ := List.exists_cons_of_ne_nil filled
  rcases List.eq_nil_or_concat ws with rfl | ⟨init, v, rfl⟩
  · simpa [camel, pascal] using exists_getLast?_chars w
  · obtain ⟨l, last⟩ := exists_getLast?_capitalized (long v (by simp))
    refine ⟨l, ?_⟩
    have solid : v.capitalized ≠ [] := List.cons_ne_nil _ _
    have split : camel (w :: init.concat v) = (w.chars ++ pascal init) ++ v.capitalized := by
      simp [camel, pascal]
    rw [split, List.getLast?_append_of_ne_nil _ solid, last]

/-- A capital follows, or the text ends. -/
theorem isBoundary_pascal (l : Letter) (ws : List Word) :
    isBoundary (some l.char) (pascal ws).head? = true := by
  cases ws with
  | nil => rfl
  | cons w ws => simp [pascal_cons, Word.capitalized]

theorem findWord_camel {front back : List Word} (unmet : kw ∉ front)
    (long : ∀ w ∈ front ++ kw :: back, 2 ≤ w.chars.length)
    (apart : Apart (front ++ kw :: back) kw) :
    findWord kw.chars [] (camel (front ++ kw :: back)) = some (camel front, pascal back) := by
  cases front with
  | nil =>
    obtain ⟨l, last⟩ := exists_getLast?_chars kw
    refine findWord_of_stands ⟨asciiLower_chars kw, rfl, ?_⟩ kw.chars_ne_nil
    rw [last]
    exact isBoundary_pascal l back
  | cons w front =>
    obtain ⟨other, unmet⟩ : kw ≠ w ∧ kw ∉ front := by simpa using unmet
    have passed : findWord kw.chars [] (w.chars ++ pascal (front ++ kw :: back)) =
        findWord kw.chars ([] ++ w.chars) (pascal (front ++ kw :: back)) :=
      findWord_apart w.first.isLetter_char (toLower_char _) (Ne.symm other) apart
    obtain ⟨before, small⟩ := exists_getLast?_camel (List.cons_ne_nil w front)
      fun v member => long v (List.mem_append_left _ member)
    obtain ⟨l, last⟩ := exists_getLast?_capitalized (long kw (by simp))
    rw [List.cons_append, camel, passed, findWord_pascal unmet apart.tail, pascal_cons]
    refine findWord_of_stands ⟨asciiLower_capitalized kw, ?_, ?_⟩ kw.chars_ne_nil
    · have starts : isBoundary (camel (w :: front)).getLast? (some kw.first.capital) = true := by
        rw [small]
        exact isBoundary_char_capital before kw.first
      exact starts
    · rw [last]
      exact isBoundary_pascal l back

/-- Without separators the parts are put together as they are, with a small letter in front. -/
theorem joinAround_camel {front back : List Word} (long : ∀ w ∈ front, 2 ≤ w.chars.length) :
    joinAround (camel front) (pascal back) = camel (front ++ back) := by
  have behind : (pascal back).head?.any isSeparator = false := by
    cases back with
    | nil => rfl
    | cons w ws => simp [pascal_cons, Word.capitalized]
  cases front with
  | nil => simp [joinAround, camel, behind, decapitalizeChars_pascal]
  | cons w front =>
    obtain ⟨l, last⟩ := exists_getLast?_camel (List.cons_ne_nil w front) long
    have filled : (camel (w :: front)).isEmpty = false := rfl
    have joined : camel (w :: front) ++ pascal back = camel (w :: front ++ back) := by
      simp [camel, pascal]
    simp only [joinAround, last, behind, Option.any_some, isSeparator_char, filled,
      Bool.false_eq_true, if_false]
    exact joined

theorem stripKeywordChars_camel {ws : List Word} {keyword : List Char} (member : kw ∈ ws)
    (same : asciiLower keyword = kw.chars) (long : ∀ w ∈ ws, 2 ≤ w.chars.length)
    (apart : Apart ws kw) :
    stripKeywordChars (camel ws) keyword = kept (camel (ws.erase kw)) := by
  obtain ⟨front, back, unmet, rfl, erased⟩ := List.exists_erase_eq member
  have early : ∀ w ∈ front, 2 ≤ w.chars.length :=
    fun w inside => long w (List.mem_append_left _ inside)
  rw [stripKeywordChars_of_findWord same (findWord_camel unmet long apart), joinAround_camel early,
    erased]

/-! ### The rest of an id -/

theorem linked_eq_nil_iff {ws : List Word} {seps : List Separator} :
    linked ws seps = [] ↔ ws = [] := by
  cases ws with
  | nil => simp [linked, separated]
  | cons w ws => simp [linked_cons, Word.chars]

theorem camel_eq_nil_iff {ws : List Word} : camel ws = [] ↔ ws = [] := by
  cases ws with
  | nil => simp [camel]
  | cons w ws => simp [camel, Word.chars]

/-- A keyword that is one of the words of an id, in any case, is cut out at its first occurrence,
and the other words stay as they are spelled. One separator goes with it: the one before it, or the
one behind it when it comes first. Nothing stays of an id that has no other word. -/
theorem stripKeyword_of_mem {ws : List Word} {kw : Word} {keyword : String} (member : kw ∈ ws)
    (same : asciiLowerString keyword = kw.text) :
    (∀ seps : List Separator, seps.length + 1 = ws.length →
      stripKeyword (String.ofList (linked ws seps)) keyword =
        if ws.erase kw = [] then none
        else some (String.ofList (linked (ws.erase kw) (seps.eraseIdx (ws.idxOf kw - 1))))) ∧
      ((∀ w ∈ ws, 2 ≤ w.chars.length) → Apart ws kw →
        stripKeyword (String.ofList (camel ws)) keyword =
          if ws.erase kw = [] then none else some (String.ofList (camel (ws.erase kw)))) := by
  have lowered : asciiLower keyword.toList = kw.chars := String.ofList_injective same
  refine ⟨fun seps between => ?_, fun long apart => ?_⟩
  · rw [stripKeyword, String.toList_ofList, stripKeywordChars_linked member lowered between,
      map_kept linked_eq_nil_iff]
  · rw [stripKeyword, String.toList_ofList, stripKeywordChars_camel member lowered long apart,
      map_kept camel_eq_nil_iff]

theorem apart_tabShopTab : Apart [.tab, .shop, .tab] .tab := by
  intro run inside several spelled
  have long : ∀ w ∈ run, 3 ≤ w.chars.length := by
    have all : ∀ w ∈ [Word.tab, .shop, .tab], 3 ≤ w.chars.length := by decide
    exact fun w member => all w (inside.subset member)
  obtain ⟨v, w, more, rfl⟩ : ∃ v w more, run = v :: w :: more := by
    rcases run with _ | ⟨v, _ | ⟨w, more⟩⟩
    · simp at several
    · simp at several
    · exact ⟨v, w, more, rfl⟩
  have first := long v (by simp)
  have second := long w (by simp)
  have lengths := congrArg List.length spelled
  have three : Word.tab.chars.length = 3 := rfl
  simp only [List.flatMap_cons, List.length_append] at lengths
  omega

theorem stripKeyword_of_mem_tabShopTab :
    asciiLowerString "Tab" = Word.tab.text ∧ Word.tab ∈ [Word.tab, .shop, .tab] ∧
      stripKeyword "tab-shop_tab" "Tab" = some "shop_tab" ∧
      stripKeyword "tabShopTab" "Tab" = some "shopTab" := by
  have same : asciiLowerString "Tab" = Word.tab.text := by decide
  have member : Word.tab ∈ [Word.tab, .shop, .tab] := by decide
  obtain ⟨apart, humps⟩ := stripKeyword_of_mem member same
  exact ⟨same, member, apart [.dash, .underscore] (by decide), humps (by decide) apart_tabShopTab⟩

/-- Two words in a row are taken for the keyword where they make it up. -/
example : stripKeyword "tabBarTabbar" "tabbar" = some "tabbar" := by decide

end PageWiring.Naming
