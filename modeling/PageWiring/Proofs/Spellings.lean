import PageWiring.Check.Patterns
import PageWiring.Proofs.Pieces

/-!
The spellings of an id.

The words of an id are written with separators between them, or with a capital at the start of each
word. All these spellings are read as the same words, stand for the same widget and give the same
conventional names. A capital starts a word only behind a small letter, so with capitals a word has
to have a second letter.
-/
namespace PageWiring.Naming

open PageWiring.Text

/-! ### Letters, words and separators -/

structure Letter where
  char : Char
  small : 'a' ≤ char ∧ char ≤ 'z'
  deriving DecidableEq

structure Word where
  first : Letter
  rest : List Letter
  deriving DecidableEq

inductive Separator where
  | dash | underscore
  deriving DecidableEq

/-- One or more separators between two words. -/
structure Gap where
  first : Separator
  rest : List Separator := []
  deriving DecidableEq

def Letter.capital (l : Letter) : Char := l.char.toUpper

def Separator.char : Separator → Char
  | .dash => '-'
  | .underscore => '_'

def Gap.chars (g : Gap) : List Char := g.first.char :: g.rest.map (·.char)

namespace Word

def chars (w : Word) : List Char := w.first.char :: w.rest.map (·.char)

/-- The word with its first letter in upper case. -/
def capitalized (w : Word) : List Char := w.first.capital :: w.rest.map (·.char)

def text (w : Word) : String := String.ofList w.chars

theorem rest_ne_nil {w : Word} (long : 2 ≤ w.chars.length) : w.rest ≠ [] := by
  intro empty
  simp [chars, empty] at long

end Word

/-- Words that each stand behind a gap. -/
def behindGaps (more : List (Gap × Word)) : List Char :=
  more.flatMap fun p => p.1.chars ++ p.2.chars

/-- `shop-tab__content` -/
def separated : List Word → List Gap → List Char
  | [], _ => []
  | w :: ws, gaps => w.chars ++ behindGaps (gaps.zip ws)

/-- `ShopTabContent` -/
def pascal (ws : List Word) : List Char := ws.flatMap (·.capitalized)

/-- `shopTabContent` -/
def camel : List Word → List Char
  | [] => []
  | w :: ws => w.chars ++ pascal ws

/-- The ways to write some words as an id. -/
inductive Spells (ws : List Word) : String → Prop
  | separated (gaps : List Gap) (between : gaps.length + 1 = ws.length) :
    Spells ws (String.ofList (separated ws gaps))
  | camel (long : ∀ w ∈ ws, 2 ≤ w.chars.length) : Spells ws (String.ofList (camel ws))
  | pascal (long : ∀ w ∈ ws, 2 ≤ w.chars.length) : Spells ws (String.ofList (pascal ws))

theorem behindGaps_nil : behindGaps [] = [] := rfl

theorem behindGaps_cons (p : Gap × Word) (more : List (Gap × Word)) :
    behindGaps (p :: more) = p.1.chars ++ (p.2.chars ++ behindGaps more) := by
  simp [behindGaps]

theorem pascal_cons (w : Word) (ws : List Word) :
    pascal (w :: ws) = w.capitalized ++ pascal ws := rfl

/-! ### Classes and cases of letters -/

section

/-- What holds of each letter of the alphabet holds of all letters. -/
theorem Letter.all {p : Char → Prop} (each : ∀ i : Fin 26, p (Char.ofNat (97 + i))) (l : Letter) :
    p l.char := by
  obtain ⟨c, low, high⟩ := l
  have low : 97 ≤ c.toNat := low
  have high : c.toNat ≤ 122 := high
  have place := each ⟨c.toNat - 97, by omega⟩
  rwa [Nat.add_sub_cancel' low, Char.ofNat_toNat] at place

variable (l : Letter) (s : Separator)

@[simp] theorem letterClass_char : letterClass l.char = some .lower :=
  l.all (p := fun c => letterClass c = some .lower) (by decide)

@[simp] theorem letterClass_capital : letterClass l.capital = some .upper :=
  l.all (p := fun c => letterClass c.toUpper = some .upper) (by decide)

@[simp] theorem letterClass_separator : letterClass s.char = none := by
  cases s <;> decide

@[simp] theorem isAlphanumeric_char : isAlphanumeric l.char = true :=
  l.all (p := fun c => isAlphanumeric c = true) (by decide)

@[simp] theorem isAlphanumeric_capital : isAlphanumeric l.capital = true :=
  l.all (p := fun c => isAlphanumeric c.toUpper = true) (by decide)

@[simp] theorem isAlphanumeric_separator : isAlphanumeric s.char = false := by
  cases s <;> decide

@[simp] theorem toLowercase_char : toLowercase l.char = [l.char] :=
  l.all (p := fun c => toLowercase c = [c]) (by decide)

@[simp] theorem toLowercase_capital : toLowercase l.capital = [l.char] :=
  l.all (p := fun c => toLowercase c.toUpper = [c]) (by decide)

@[simp] theorem toUppercase_char : toUppercase l.char = [l.capital] :=
  l.all (p := fun c => toUppercase c = [c.toUpper]) (by decide)

@[simp] theorem toUppercase_capital : toUppercase l.capital = [l.capital] :=
  l.all (p := fun c => toUppercase c.toUpper = [c.toUpper]) (by decide)

@[simp] theorem toLower_char : l.char.toLower = l.char :=
  l.all (p := fun c => c.toLower = c) (by decide)

end

theorem alphanumeric_of_mem_chars {w : Word} {c : Char} (member : c ∈ w.chars) :
    isAlphanumeric c = true := by
  obtain rfl | ⟨l, -, rfl⟩ : c = w.first.char ∨ ∃ l ∈ w.rest, l.char = c := by
    simpa [Word.chars] using member
  · exact isAlphanumeric_char _
  · exact isAlphanumeric_char l

theorem alphanumeric_of_mem_pascal {ws : List Word} {c : Char} (member : c ∈ pascal ws) :
    isAlphanumeric c = true := by
  obtain ⟨w, -, inside⟩ := List.mem_flatMap.mp member
  obtain rfl | ⟨l, -, rfl⟩ : c = w.first.capital ∨ ∃ l ∈ w.rest, l.char = c := by
    simpa [Word.capitalized] using inside
  · exact isAlphanumeric_capital _
  · exact isAlphanumeric_char l

/-! ### Reading the words -/

namespace WordScan

variable {s : WordScan}

theorem step_char (l : Letter) (plain : s.last ≠ some .digit) :
    s.step l.char = { s with current := s.current ++ [l.char], last := some .lower } := by
  cases last : s.last with
  | none => simp [step, last]
  | some before => cases before <;> simp_all [step, startsWord]

theorem step_separator (sep : Separator) :
    s.step sep.char = { words := s.flush, current := [], last := none } := by
  simp [step]

/-- A capital at the start of a text starts no other word. -/
theorem step_capital_first (l : Letter) (start : s.last = none) :
    s.step l.capital = { s with current := s.current ++ [l.char], last := some .upper } := by
  simp [step, start]

/-- A capital behind a small letter starts a word. -/
theorem step_capital (l : Letter) (small : s.last = some .lower) :
    s.step l.capital = { words := s.flush, current := [l.char], last := some .upper } := by
  simp [step, small, startsWord]

/-- Small letters go on with the word. -/
theorem foldl_chars (ls : List Letter) (filled : ls ≠ []) (plain : s.last ≠ some .digit) :
    (ls.map (·.char)).foldl step s =
      { s with current := s.current ++ ls.map (·.char), last := some .lower } := by
  induction ls generalizing s with
  | nil => exact absurd rfl filled
  | cons l ls ih =>
    rw [List.map_cons, List.foldl_cons, step_char l plain]
    cases ls with
    | nil => rfl
    | cons next ls =>
      rw [ih (List.cons_ne_nil next ls) (by simp)]
      simp

end WordScan

open WordScan

/-- A word is read from where the last one is done. -/
theorem scan_word (words : List (List Char)) (w : Word) :
    w.chars.foldl step { words } = { words, current := w.chars, last := some .lower } :=
  foldl_chars (w.first :: w.rest) (List.cons_ne_nil _ _) (by simp)

/-- However long a gap is, it ends one word. -/
theorem scan_gap (words : List (List Char)) (w : Word) (last : Option LetterClass) (g : Gap) :
    g.chars.foldl step { words, current := w.chars, last } = { words := words ++ [w.chars] } := by
  have further (words : List (List Char)) (seps : List Separator) :
      (seps.map (·.char)).foldl step { words } = { words } := by
    induction seps with
    | nil => rfl
    | cons sep seps ih =>
      rw [List.map_cons, List.foldl_cons, step_separator]
      exact ih
  rw [Gap.chars, List.foldl_cons, step_separator]
  exact further _ _

/-- A capital ends the word before it, and small letters behind it go on with its own word. -/
theorem scan_capitalized (words : List (List Char)) {v w : Word} (long : 2 ≤ w.chars.length) :
    w.capitalized.foldl step { words, current := v.chars, last := some .lower } =
      { words := words ++ [v.chars], current := w.chars, last := some .lower } := by
  rw [Word.capitalized, List.foldl_cons, step_capital _ rfl,
    foldl_chars _ (Word.rest_ne_nil long) (by simp)]
  rfl

theorem scan_separated (words : List (List Char)) (w : Word) (more : List (Gap × Word)) :
    ((w.chars ++ behindGaps more).foldl step { words }).flush =
      words ++ (w :: more.map (·.2)).map (·.chars) := by
  induction more generalizing words w with
  | nil =>
    rw [behindGaps_nil, List.append_nil, scan_word]
    rfl
  | cons p more ih =>
    rw [behindGaps_cons, List.foldl_append, List.foldl_append, scan_word, scan_gap, ih]
    simp

theorem scan_pascal (words : List (List Char)) (v : Word) {ws : List Word}
    (long : ∀ w ∈ ws, 2 ≤ w.chars.length) :
    ((pascal ws).foldl step { words, current := v.chars, last := some .lower }).flush =
      words ++ v.chars :: ws.map (·.chars) := by
  induction ws generalizing words v with
  | nil => rfl
  | cons w ws ih =>
    rw [pascal_cons, List.foldl_append, scan_capitalized words (long w List.mem_cons_self),
      ih _ _ fun other member => long other (List.mem_cons_of_mem w member)]
    simp

theorem wordsOfChars_separated {ws : List Word} {gaps : List Gap}
    (between : gaps.length + 1 = ws.length) :
    wordsOfChars (separated ws gaps) = ws.map (·.chars) := by
  cases ws with
  | nil => cases between
  | cons w ws =>
    have enough : ws.length ≤ gaps.length := by
      simp only [List.length_cons] at between
      omega
    have read := scan_separated [] w (gaps.zip ws)
    rw [List.map_snd_zip enough] at read
    exact read

theorem wordsOfChars_camel {ws : List Word} (long : ∀ w ∈ ws, 2 ≤ w.chars.length) :
    wordsOfChars (camel ws) = ws.map (·.chars) := by
  cases ws with
  | nil => rfl
  | cons w ws =>
    rw [wordsOfChars, camel, List.foldl_append, scan_word,
      scan_pascal [] w fun other member => long other (List.mem_cons_of_mem w member)]
    rfl

theorem wordsOfChars_pascal {ws : List Word} (long : ∀ w ∈ ws, 2 ≤ w.chars.length) :
    wordsOfChars (pascal ws) = ws.map (·.chars) := by
  cases ws with
  | nil => rfl
  | cons w ws =>
    have filled := Word.rest_ne_nil (long w List.mem_cons_self)
    have first : w.capitalized.foldl step {} = { current := w.chars, last := some .lower } := by
      rw [Word.capitalized, List.foldl_cons, step_capital_first _ rfl,
        foldl_chars _ filled (by simp)]
      rfl
    rw [wordsOfChars, pascal_cons, List.foldl_append, first,
      scan_pascal [] w fun other member => long other (List.mem_cons_of_mem w member)]
    rfl

/-! ### Conventional names -/

theorem capitalizeChars_chars (w : Word) (more : List Char) :
    capitalizeChars (w.chars ++ more) = w.capitalized ++ more := by
  simp [capitalizeChars, Word.chars, Word.capitalized]

theorem capitalizeChars_capitalized (w : Word) (more : List Char) :
    capitalizeChars (w.capitalized ++ more) = w.capitalized ++ more := by
  simp [capitalizeChars, Word.capitalized]

theorem decapitalizeChars_pascal (ws : List Word) : decapitalizeChars (pascal ws) = camel ws := by
  cases ws with
  | nil => rfl
  | cons w ws => simp [decapitalizeChars, pascal, camel, Word.chars, Word.capitalized]

/-- A text without separators is one part, whose first letter becomes a capital. -/
theorem pascalChars_plain {cs : List Char} (plain : ∀ c ∈ cs, isAlphanumeric c = true) :
    pascalChars cs = capitalizeChars cs := by
  have whole : splitWhere (fun c => !isAlphanumeric c) cs = [cs] :=
    splitWhere_plain fun c member => by rw [plain c member]; rfl
  rw [pascalChars, whole]
  cases cs with
  | nil => rfl
  | cons c cs => simp

/-- A part ends at a separator, and an empty one adds nothing. -/
theorem pascalChars_cons {part rest : List Char} (s : Separator)
    (plain : ∀ c ∈ part, isAlphanumeric c = true) :
    pascalChars (part ++ s.char :: rest) = capitalizeChars part ++ pascalChars rest := by
  have first : splitWhere (fun c => !isAlphanumeric c) (part ++ s.char :: rest) =
      part :: splitWhere (fun c => !isAlphanumeric c) rest :=
    splitWhere_cons (fun c member => by rw [plain c member]; rfl) (by simp)
  rw [pascalChars, first]
  cases part with
  | nil => rfl
  | cons c cs => simp [pascalChars]

theorem pascalChars_gap (w : Word) (g : Gap) (rest : List Char) :
    pascalChars (w.chars ++ (g.chars ++ rest)) = w.capitalized ++ pascalChars rest := by
  have further (seps : List Separator) :
      pascalChars (seps.map (·.char) ++ rest) = pascalChars rest := by
    induction seps with
    | nil => rfl
    | cons s seps ih =>
      have skipped : pascalChars ([] ++ s.char :: (seps.map (·.char) ++ rest)) =
          capitalizeChars [] ++ pascalChars (seps.map (·.char) ++ rest) :=
        pascalChars_cons s (by simp)
      exact skipped.trans ih
  have named : capitalizeChars w.chars = w.capitalized := by
    simpa using capitalizeChars_chars w []
  rw [Gap.chars, List.cons_append, pascalChars_cons g.first fun c => alphanumeric_of_mem_chars,
    further, named]

theorem pascalChars_separated {ws : List Word} {gaps : List Gap}
    (between : gaps.length + 1 = ws.length) : pascalChars (separated ws gaps) = pascal ws := by
  induction ws generalizing gaps with
  | nil => cases between
  | cons w ws ih =>
    cases ws with
    | nil =>
      rw [separated, List.zip_nil_right, behindGaps_nil,
        pascalChars_plain (by simpa using fun c => alphanumeric_of_mem_chars),
        capitalizeChars_chars]
      simp [pascal]
    | cons next ws =>
      cases gaps with
      | nil => simp at between
      | cons g gaps =>
        have rest : pascalChars (separated (next :: ws) gaps) = pascal (next :: ws) :=
          ih (by simpa using between)
        have opened : separated (w :: next :: ws) (g :: gaps) =
            w.chars ++ (g.chars ++ separated (next :: ws) gaps) := by
          simp [separated, behindGaps_cons]
        rw [opened, pascalChars_gap, rest]
        rfl

theorem pascalChars_camel (ws : List Word) : pascalChars (camel ws) = pascal ws := by
  cases ws with
  | nil => rfl
  | cons w ws =>
    have plain : ∀ c ∈ camel (w :: ws), isAlphanumeric c = true := by
      intro c member
      rcases List.mem_append.mp member with first | later
      · exact alphanumeric_of_mem_chars first
      · exact alphanumeric_of_mem_pascal later
    rw [pascalChars_plain plain, camel, capitalizeChars_chars]
    rfl

theorem pascalChars_pascal (ws : List Word) : pascalChars (pascal ws) = pascal ws := by
  rw [pascalChars_plain fun c => alphanumeric_of_mem_pascal]
  cases ws with
  | nil => rfl
  | cons w ws => exact capitalizeChars_capitalized w _

/-! ### One id in several spellings -/

theorem asciiLower_chars (w : Word) : asciiLower w.chars = w.chars := by
  simp [asciiLower, Word.chars]

/-- A keyword is found among words in small letters when it is one of them in lower case. -/
theorem matchingKeyword_texts (ws : List Word) (keywords : List String) :
    Check.matchingKeyword (ws.map Word.text) keywords =
      keywords.find? fun kw => ws.any fun w => w.chars == asciiLower kw.toList := by
  unfold Check.matchingKeyword
  congr 1
  funext kw
  rw [List.any_map]
  congr 1
  funext w
  simp [Check.equalIgnoringAsciiCase, Word.text, asciiLower_chars]

theorem chars_of_spells {ws : List Word} {id : String} (spelled : Spells ws id) :
    wordsOfChars id.toList = ws.map (·.chars) ∧ pascalChars id.toList = pascal ws := by
  cases spelled with
  | separated gaps between =>
    rw [String.toList_ofList]
    exact ⟨wordsOfChars_separated between, pascalChars_separated between⟩
  | camel long =>
    rw [String.toList_ofList]
    exact ⟨wordsOfChars_camel long, pascalChars_camel ws⟩
  | pascal long =>
    rw [String.toList_ofList]
    exact ⟨wordsOfChars_pascal long, pascalChars_pascal ws⟩

/-- An id is read as its words however it is spelled: it has the same conventional names, and it is
recognised by the first keyword that is one of its words. -/
theorem words_of_spells {ws : List Word} {id : String} (spelled : Spells ws id) :
    idWords id = ws.map Word.text ∧
      pascalCase id = String.ofList (pascal ws) ∧ camelCase id = String.ofList (camel ws) ∧
      ∀ keywords, Check.matchingKeyword (idWords id) keywords =
        keywords.find? fun kw => ws.any fun w => w.chars == asciiLower kw.toList := by
  obtain ⟨words, names⟩ := chars_of_spells spelled
  have texts : idWords id = ws.map Word.text := by
    rw [idWords, words, List.map_map]
    rfl
  refine ⟨texts, ?_, ?_, ?_⟩
  · rw [pascalCase, names]
  · rw [camelCase, names, decapitalizeChars_pascal]
  · intro keywords
    rw [texts, matchingKeyword_texts]

def Word.shop : Word :=
  ⟨⟨'s', by decide⟩, [⟨'h', by decide⟩, ⟨'o', by decide⟩, ⟨'p', by decide⟩]⟩

def Word.tab : Word := ⟨⟨'t', by decide⟩, [⟨'a', by decide⟩, ⟨'b', by decide⟩]⟩

theorem words_of_spells_shopTab :
    (Spells [.shop, .tab] "shop-_tab" ∧ idWords "shop-_tab" = ["shop", "tab"]) ∧
      (Spells [.shop, .tab] "shopTab" ∧ idWords "shopTab" = ["shop", "tab"]) ∧
      (Spells [.shop, .tab] "ShopTab" ∧ camelCase "ShopTab" = "shopTab") := by
  have apart : Spells [.shop, .tab] "shop-_tab" :=
    .separated [⟨.dash, [.underscore]⟩] (by decide)
  have humps : Spells [.shop, .tab] "shopTab" := .camel (by decide)
  have capitals : Spells [.shop, .tab] "ShopTab" := .pascal (by decide)
  exact ⟨⟨apart, (words_of_spells apart).1⟩, ⟨humps, (words_of_spells humps).1⟩,
    capitals, (words_of_spells capitals).2.2.1⟩

end PageWiring.Naming
