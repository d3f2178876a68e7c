import PageWiring.Naming

/-!
The words of an id, for all ids.

The words are the stretches of an id between separators and changes of class, in lower case and in
the order of the id. Every character that is no separator goes into exactly one of them, and the
words on the two sides of a separator are read as if each side were an id of its own.
-/
namespace PageWiring.Text

theorem isAsciiDigit_ofNat {n : Nat} (beyond : 57 < n) : isAsciiDigit (Char.ofNat n) = false := by
  have code : (Char.ofNat n).toNat = n ∨ (Char.ofNat n).toNat = 0 := by
    by_cases valid : n.isValidChar
    · left
      rw [Char.ofNat, dif_pos valid]
      rfl
    · right
      rw [Char.ofNat, dif_neg valid]
      rfl
  rw [isAsciiDigit, Bool.and_eq_false_iff]
  rcases code with same | zero
  · right
    rw [decide_eq_false_iff_not]
    intro low
    have : (Char.ofNat n).toNat ≤ 57 := low
    omega
  · left
    rw [decide_eq_false_iff_not]
    intro high
    have : 48 ≤ (Char.ofNat n).toNat := high
    omega

/-- Characters beyond ASCII are moved to characters beyond the digits. -/
theorem lt_shifted_lowerShifts {n : Nat} (beyond : 57 < n) : 57 < shifted lowerShifts n := by
  have each : lowerShifts.all (fun s => 57 < Int.ofNat s.first + s.distance) = true := by decide
  unfold shifted
  split
  · next s found =>
    have covers := List.find?_some found
    have far := List.all_eq_true.mp each s (List.mem_of_find?_eq_some found)
    simp only [Shift.contains, Bool.and_eq_true, decide_eq_true_eq, Int.ofNat_eq_natCast]
      at covers far ⊢
    omega
  · exact beyond

theorem toLowercase_ne_nil (c : Char) : toLowercase c ≠ [] := by
  have each : lowerExpansions.all (fun e => !e.2.isEmpty) = true := by decide
  unfold toLowercase
  dsimp only
  split
  · exact List.cons_ne_nil _ _
  · split
    · next e found =>
      have filled := List.all_eq_true.mp each e (List.mem_of_find?_eq_some found)
      simpa using filled
    · exact List.cons_ne_nil _ _

theorem flatMap_toLowercase_ne_nil {cs : List Char} (filled : cs ≠ []) :
    cs.flatMap toLowercase ≠ [] := by
  obtain ⟨c, cs, rfl⟩ := List.exists_cons_of_ne_nil filled
  simp [toLowercase_ne_nil]

/-- Digits stay digits in lower case, and no other character becomes one. -/
theorem isAsciiDigit_of_mem_toLowercase {c d : Char} (member : d ∈ toLowercase c) :
    isAsciiDigit d = isAsciiDigit c := by
  by_cases ascii : c.toNat < 128
  · have tabled : ∀ n < 128, (toLowercase (Char.ofNat n)).all
        (fun d => isAsciiDigit d == isAsciiDigit (Char.ofNat n)) = true := by
      decide
    have here := tabled c.toNat ascii
    rw [Char.ofNat_toNat] at here
    exact beq_iff_eq.mp (List.all_eq_true.mp here d member)
  · have other : isAsciiDigit c = false := by
      have := isAsciiDigit_ofNat (n := c.toNat) (by omega)
      rwa [Char.ofNat_toNat] at this
    rw [other]
    unfold toLowercase at member
    dsimp only at member
    rw [if_neg ascii] at member
    split at member
    · next e found =>
      have each : lowerExpansions.all (fun e => e.2.all (57 < ·)) = true := by decide
      obtain ⟨n, listed, rfl⟩ := List.mem_map.mp member
      have far := List.all_eq_true.mp each e (List.mem_of_find?_eq_some found)
      exact isAsciiDigit_ofNat (by simpa using List.all_eq_true.mp far n listed)
    · obtain rfl := List.mem_singleton.mp member
      exact isAsciiDigit_ofNat (lt_shifted_lowerShifts (by omega))

end PageWiring.Text

namespace PageWiring.Naming

open PageWiring.Text

/-! ### Characters of words -/

/-- Does the character belong to a word? All others are separators. -/
def inWord (c : Char) : Bool := isAsciiDigit c || isUppercase c || isAlphanumeric c

theorem isSome_letterClass (c : Char) : (letterClass c).isSome = inWord c := by
  unfold letterClass inWord
  cases isAsciiDigit c <;> cases isUppercase c <;> cases isAlphanumeric c <;> rfl

theorem letterClass_eq_none_iff {c : Char} : letterClass c = none ↔ inWord c = false := by
  rw [← isSome_letterClass, Option.isSome_eq_false_iff, Option.isNone_iff_eq_none]

theorem inWord_of_letterClass {c : Char} {cls : LetterClass} (known : letterClass c = some cls) :
    inWord c = true := by
  rw [← isSome_letterClass, known]
  rfl

theorem isAsciiDigit_of_letterClass {c : Char} {cls : LetterClass}
    (known : letterClass c = some cls) : isAsciiDigit c = (cls == .digit) := by
  unfold letterClass at known
  split at known
  · next digit =>
    obtain rfl := Option.some.inj known
    exact digit
  · next other =>
    rw [Bool.eq_false_iff.mpr other]
    split at known
    · obtain rfl := Option.some.inj known
      rfl
    · split at known
      · obtain rfl := Option.some.inj known
        rfl
      · cases known

/-- Two neighbours of one word are both digits, or neither is. -/
theorem digit_eq_of_startsWord {last cls : LetterClass} (goes : startsWord last cls = false) :
    (last == .digit) = (cls == .digit) := by
  cases last <;> cases cls <;> first | rfl | cases goes

/-! ### Steps of the reading -/

namespace WordScan

theorem step_of_none {s : WordScan} {c : Char} (apart : letterClass c = none) :
    s.step c = { words := s.flush } := by
  rw [step, apart]

/-- A character of a word starts a word of its own, or goes on with the one before it. -/
theorem step_cases {s : WordScan} {c : Char} {cls : LetterClass}
    (known : letterClass c = some cls) :
    ((∃ last, s.last = some last ∧ startsWord last cls = true) ∧
        s.step c = { words := s.flush, current := toLowercase c, last := some cls }) ∨
      (∀ last, s.last = some last → startsWord last cls = false) ∧
        s.step c = { s with current := s.current ++ toLowercase c, last := some cls } := by
  cases before : s.last with
  | none => exact .inr ⟨nofun, by simp [step, known, before]⟩
  | some last =>
    cases starts : startsWord last cls with
    | true => exact .inl ⟨⟨last, rfl, starts⟩, by simp [step, known, before, starts]⟩
    | false =>
      refine .inr ⟨fun other same => ?_, by simp [step, known, before, starts]⟩
      exact Option.some.inj same ▸ starts

end WordScan

/-! ### Stretches of an id -/

/-- A stretch of an id without separators, in which all characters are digits or none is. -/
structure Stretch (id piece : List Char) : Prop where
  inside : piece <:+: id
  solid : ∀ c ∈ piece, inWord c = true
  uniform : (∀ c ∈ piece, isAsciiDigit c = true) ∨ ∀ c ∈ piece, isAsciiDigit c = false

theorem Stretch.mono {id piece : List Char} (stretch : Stretch id piece) (more : List Char) :
    Stretch (id ++ more) piece :=
  ⟨stretch.inside.trans (List.prefix_append id more).isInfix, stretch.solid, stretch.uniform⟩

/-- Stretches that are found stay stretches when the id goes on. -/
theorem stretches_append {id : List Char} {pieces : List (List Char)}
    (stretches : ∀ piece ∈ pieces, piece ≠ [] ∧ Stretch id piece) (more : List Char) :
    ∀ piece ∈ pieces, piece ≠ [] ∧ Stretch (id ++ more) piece :=
  fun piece member => ⟨(stretches piece member).1, (stretches piece member).2.mono more⟩

theorem stretch_nil (id : List Char) : Stretch id [] :=
  ⟨List.nil_infix, by simp, .inl (by simp)⟩

theorem uniform_singleton (c : Char) :
    (∀ d ∈ [c], isAsciiDigit d = true) ∨ ∀ d ∈ [c], isAsciiDigit d = false := by
  cases digit : isAsciiDigit c with
  | true => exact .inl (by simpa using digit)
  | false => exact .inr (by simpa using digit)

/-- What has been read of an id: some stretches, and one that may go on. -/
structure Reading (passed : List Char) (done : List (List Char)) (pending : List Char)
    (s : WordScan) : Prop where
  words : s.words = done.map (·.flatMap toLowercase)
  current : s.current = pending.flatMap toLowercase
  last : s.last = pending.getLast?.bind letterClass
  spelled : done.flatten ++ pending = passed.filter inWord
  finished : ∀ piece ∈ done, piece ≠ [] ∧ Stretch passed piece
  ended : pending <:+ passed
  stretch : Stretch passed pending

/-- The words of an id, one for each of its stretches. -/
structure Spelled (id : List Char) (pieces words : List (List Char)) : Prop where
  words : words = pieces.map (·.flatMap toLowercase)
  spelled : pieces.flatten = id.filter inWord
  stretches : ∀ piece ∈ pieces, piece ≠ [] ∧ Stretch id piece

namespace Reading

variable {passed pending : List Char} {done : List (List Char)} {s : WordScan} {c : Char}
  {cls : LetterClass}

theorem flush (reading : Reading passed done pending s) :
    ∃ pieces, Spelled passed pieces s.flush := by
  by_cases empty : pending = []
  · subst empty
    refine ⟨done, ?_, by simpa using reading.spelled, reading.finished⟩
    rw [WordScan.flush, reading.current, reading.words]
    rfl
  · refine ⟨done ++ [pending], ?_, by simpa using reading.spelled, fun piece member => ?_⟩
    · have filled : (pending.flatMap toLowercase).isEmpty = false :=
        List.isEmpty_eq_false_iff.mpr (flatMap_toLowercase_ne_nil empty)
      rw [WordScan.flush, reading.current, filled, reading.words]
      simp
    · rcases List.mem_append.mp member with earlier | last
      · exact reading.finished piece earlier
      · obtain rfl := List.mem_singleton.mp last
        exact ⟨empty, reading.stretch⟩

theorem separator (reading : Reading passed done pending s) (apart : letterClass c = none) :
    ∃ done', Reading (passed ++ [c]) done' [] (s.step c) := by
  obtain ⟨pieces, words, spelled, stretches⟩ := reading.flush
  have outside := letterClass_eq_none_iff.mp apart
  rw [WordScan.step_of_none apart]
  refine ⟨pieces, words, rfl, rfl, ?_, stretches_append stretches _, List.nil_suffix,
    stretch_nil _⟩
  simp [spelled, outside]

theorem newWord (reading : Reading passed done pending s) (known : letterClass c = some cls)
    (stepped : s.step c = { words := s.flush, current := toLowercase c, last := some cls }) :
    ∃ done', Reading (passed ++ [c]) done' [c] (s.step c) := by
  obtain ⟨pieces, words, spelled, stretches⟩ := reading.flush
  have inside := inWord_of_letterClass known
  rw [stepped]
  refine ⟨pieces, words, by simp, by simp [known], ?_, stretches_append stretches _,
    List.suffix_append _ _, (List.suffix_append _ _).isInfix, by simpa using inside,
    uniform_singleton c⟩
  simp [spelled, inside]

/-- A character that goes on with a word is a digit exactly when the word is made of digits. -/
theorem uniform_push (reading : Reading passed done pending s) (known : letterClass c = some cls)
    (goes : ∀ last, s.last = some last → startsWord last cls = false) :
    (∀ d ∈ pending ++ [c], isAsciiDigit d = true) ∨
      ∀ d ∈ pending ++ [c], isAsciiDigit d = false := by
  rcases List.eq_nil_or_concat pending with rfl | ⟨front, d, rfl⟩
  · exact uniform_singleton c
  · have member : d ∈ front.concat d := by simp
    have inside := reading.stretch.solid d member
    rw [← isSome_letterClass] at inside
    obtain ⟨last, before⟩ := Option.isSome_iff_exists.mp inside
    have class_eq : s.last = some last := by rw [reading.last]; simp [before]
    have same : isAsciiDigit c = isAsciiDigit d := by
      rw [isAsciiDigit_of_letterClass known, isAsciiDigit_of_letterClass before,
        digit_eq_of_startsWord (goes last class_eq)]
    have extend {value : Bool} (all : ∀ x ∈ front.concat d, isAsciiDigit x = value) :
        ∀ x ∈ front.concat d ++ [c], isAsciiDigit x = value := by
      intro x within
      rcases List.mem_append.mp within with old | new
      · exact all x old
      · obtain rfl := List.mem_singleton.mp new
        rw [same]
        exact all d member
    exact reading.stretch.uniform.imp extend extend

theorem goOn (reading : Reading passed done pending s) (known : letterClass c = some cls)
    (goes : ∀ last, s.last = some last → startsWord last cls = false)
    (stepped : s.step c = { s with current := s.current ++ toLowercase c, last := some cls }) :
    Reading (passed ++ [c]) done (pending ++ [c]) (s.step c) := by
  have inside := inWord_of_letterClass known
  have ended : pending ++ [c] <:+ passed ++ [c] := by
    obtain ⟨front, same⟩ := reading.ended
    exact ⟨front, by rw [← List.append_assoc, same]⟩
  rw [stepped]
  refine ⟨reading.words, ?_, by simp [known], ?_, stretches_append reading.finished _, ended,
    ended.isInfix, ?_, reading.uniform_push known goes⟩
  · simp [reading.current]
  · simp [← reading.spelled, inside]
  · intro d member
    rcases List.mem_append.mp member with old | new
    · exact reading.stretch.solid d old
    · obtain rfl := List.mem_singleton.mp new
      exact inside

theorem step (reading : Reading passed done pending s) (c : Char) :
    ∃ done' pending', Reading (passed ++ [c]) done' pending' (s.step c) := by
  cases known : letterClass c with
  | none =>
    obtain ⟨done', next⟩ := reading.separator known
    exact ⟨done', [], next⟩
  | some cls =>
    rcases WordScan.step_cases known with ⟨-, stepped⟩ | ⟨goes, stepped⟩
    · obtain ⟨done', next⟩ := reading.newWord known stepped
      exact ⟨done', [c], next⟩
    · exact ⟨done, pending ++ [c], reading.goOn known goes stepped⟩

theorem foldl (reading : Reading passed done pending s) (cs : List Char) :
    ∃ done' pending', Reading (passed ++ cs) done' pending' (cs.foldl WordScan.step s) := by
  induction cs generalizing passed done pending s with
  | nil => exact ⟨done, pending, by simpa using reading⟩
  | cons c cs ih =>
    obtain ⟨done', pending', next⟩ := reading.step c
    simpa using ih next

end Reading

/-- The words of an id are its stretches in lower case. -/
theorem exists_spelled (cs : List Char) : ∃ pieces, Spelled cs pieces (wordsOfChars cs) := by
  have start : Reading [] [] [] {} :=
    ⟨rfl, rfl, rfl, rfl, by simp, List.suffix_refl _, stretch_nil _⟩
  obtain ⟨done, pending, reading⟩ := start.foldl cs
  exact reading.flush

/-! ### Both sides of a separator -/

namespace WordScan

theorem flush_words_append (s : WordScan) (front : List (List Char)) :
    flush { s with words := front ++ s.words } = front ++ s.flush := by
  unfold flush
  split <;> simp

/-- Words that have been read before stay in front. -/
theorem step_words_append (s : WordScan) (front : List (List Char)) (c : Char) :
    step { s with words := front ++ s.words } c =
      { s.step c with words := front ++ (s.step c).words } := by
  unfold step
  rw [flush_words_append]
  cases letterClass c with
  | none => rfl
  | some cls =>
    dsimp only
    split <;> split <;> rfl

theorem flush_foldl_words_append (s : WordScan) (front : List (List Char)) (cs : List Char) :
    (cs.foldl step { s with words := front ++ s.words }).flush =
      front ++ (cs.foldl step s).flush := by
  induction cs generalizing s with
  | nil => exact flush_words_append s front
  | cons c cs ih => rw [List.foldl_cons, List.foldl_cons, step_words_append, ih]

end WordScan

/-- A separator parts an id into two, each with its own words. -/
theorem wordsOfChars_append_separator (before after : List Char) {sep : Char}
    (apart : inWord sep = false) :
    wordsOfChars (before ++ sep :: after) = wordsOfChars before ++ wordsOfChars after := by
  have whole := WordScan.flush_foldl_words_append {} (before.foldl WordScan.step {}).flush after
  rw [List.append_nil] at whole
  rw [wordsOfChars, List.foldl_append, List.foldl_cons,
    WordScan.step_of_none (letterClass_eq_none_iff.mpr apart)]
  exact whole

/-- The words of an id, one behind the other, are the lowercase forms of its characters without the
separators. No word is empty, each is the lowercase form of a stretch of the id that is free of
separators, and is made of digits or free of them. A separator parts the id into two, each with its
own words. -/
theorem idWords_spell (id : String) :
    (idWords id).flatMap String.toList =
        (id.toList.filter fun c => isAsciiDigit c || isUppercase c || isAlphanumeric c).flatMap
          toLowercase ∧
      (∀ word ∈ idWords id, word ≠ "" ∧
        (word.toList.all isAsciiDigit ∨ word.toList.all (!isAsciiDigit ·)) ∧
        ∃ piece, Stretch id.toList piece ∧ word.toList = piece.flatMap toLowercase) ∧
      ∀ before sep after, id.toList = before ++ sep :: after → inWord sep = false →
        idWords id = idWords (String.ofList before) ++ idWords (String.ofList after) := by
  obtain ⟨pieces, words, spelled, stretches⟩ := exists_spelled id.toList
  have texts : (idWords id).map String.toList = pieces.map (·.flatMap toLowercase) := by
    rw [idWords, ← words, List.map_map]
    simp [Function.comp_def]
  refine ⟨?_, fun word member => ?_, fun before sep after split apart => ?_⟩
  · calc (idWords id).flatMap String.toList
        = pieces.flatMap (·.flatMap toLowercase) := by
          rw [List.flatMap_def, texts, ← List.flatMap_def]
      _ = pieces.flatten.flatMap toLowercase := by
          rw [← List.flatMap_id, List.flatMap_assoc]
          rfl
      _ = (id.toList.filter inWord).flatMap toLowercase := by rw [spelled]
  · have listed : word.toList ∈ pieces.map (·.flatMap toLowercase) :=
      texts ▸ List.mem_map_of_mem member
    obtain ⟨piece, inside, same⟩ := List.mem_map.mp listed
    obtain ⟨filled, stretch⟩ := stretches piece inside
    have digits {value : Bool} (all : ∀ c ∈ piece, isAsciiDigit c = value) :
        ∀ d ∈ word.toList, isAsciiDigit d = value := by
      intro d lowered
      rw [← same] at lowered
      obtain ⟨c, here, becomes⟩ := List.mem_flatMap.mp lowered
      rw [isAsciiDigit_of_mem_toLowercase becomes, all c here]
    refine ⟨?_, stretch.uniform.imp (fun all => ?_) (fun none => ?_), piece, stretch, same.symm⟩
    · rintro rfl
      exact flatMap_toLowercase_ne_nil filled same
    · exact List.all_eq_true.mpr (digits all)
    · exact List.all_eq_true.mpr fun d lowered => by rw [digits none d lowered]; rfl
  · rw [idWords, split, wordsOfChars_append_separator before after apart, List.map_append, idWords,
      idWords, String.toList_ofList, String.toList_ofList]

/-- A letter whose lowercase form is two characters, digits, a separator, and a capital. -/
theorem idWords_spell_mixed :
    idWords "İd42-tabÉ7" = idWords "İd42" ++ idWords "tabÉ7" ∧
      (idWords "İd42-tabÉ7").flatMap String.toList = "i̇d42tabé7".toList ∧
      "42" ∈ idWords "İd42-tabÉ7" ∧
      ∃ piece, Stretch "İd42-tabÉ7".toList piece ∧ "42".toList = piece.flatMap toLowercase := by
  obtain ⟨joined, each, parts⟩ := idWords_spell "İd42-tabÉ7"
  have member : "42" ∈ idWords "İd42-tabÉ7" := by decide
  refine ⟨parts "İd42".toList '-' "tabÉ7".toList (by decide) (by decide), ?_, member,
    (each "42" member).2.2⟩
  rw [joined]
  decide

end PageWiring.Naming
