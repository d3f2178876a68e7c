import Mathlib.Data.List.Basic
import PageWiring.Handler
import PageWiring.Proofs.Pieces

/-!
Handlers as they are written, and the functions they are found to call.

A statement is written as blanks, leading words, a path of names and an argument text, and a handler
as statements with semicolons between them. Each statement is found to call the last name of its
path, unless the path starts at a receiver of the browser; a global object in front does not count.
-/
namespace PageWiring

/-! ### Texts made of runs and pieces -/

namespace Text

/-- No character with the property starts the text. -/
def Stops (p : Char → Bool) (text : List Char) : Prop := ∀ c ∈ text.head?, p c = false

variable {p : Char → Bool} {run rest : List Char}

theorem dropWhile_run (all : run.all p) (stops : Stops p rest) :
    (run ++ rest).dropWhile p = rest := by
  rw [List.dropWhile_append_of_pos (List.all_eq_true.mp all)]
  cases rest with
  | nil => rfl
  | cons c cs => simp [stops c rfl]

theorem takeWhile_run (all : run.all p) (stops : Stops p rest) :
    (run ++ rest).takeWhile p = run := by
  rw [List.takeWhile_append_of_pos (List.all_eq_true.mp all)]
  cases rest with
  | nil => simp
  | cons c cs => simp [stops c rfl]

/-- Characters at the end are dropped up to one without the property. -/
theorem dropEndWhile_append {front back : List Char} {last : Char}
    (ends : front.getLast? = some last) (kept : p last = false) :
    dropEndWhile p (front ++ back) = front ++ dropEndWhile p back := by
  have same : front.reverse.dropWhile p = front.reverse := by
    obtain ⟨rest, reversed⟩ := List.head?_eq_some_iff.mp (List.head?_reverse.trans ends)
    rw [reversed, List.dropWhile_cons, kept]
    rfl
  rw [dropEndWhile, List.reverse_append, List.dropWhile_append]
  split
  · next allDropped =>
    rw [same, List.reverse_reverse, dropEndWhile, List.isEmpty_iff.mp allDropped]
    simp
  · rw [List.reverse_append, List.reverse_reverse]
    rfl

theorem dropEndWhile_run {front : List Char} {last : Char} (ends : front.getLast? = some last)
    (kept : p last = false) (all : run.all p) : dropEndWhile p (front ++ run) = front := by
  have dropped : dropEndWhile p run = [] := by
    have none : run.reverse.dropWhile p = [] := by
      rw [← List.append_nil run.reverse]
      exact dropWhile_run (List.all_reverse.trans all) fun _ => nofun
    rw [dropEndWhile, none, List.reverse_nil]
  rw [dropEndWhile_append ends kept, dropped, List.append_nil]

/-- The code points of blanks. -/
def blankCodes : List Nat :=
  List.range' 0x09 5 ++ [0x20, 0x85, 0xA0, 0x1680] ++ List.range' 0x2000 11 ++
    [0x2028, 0x2029, 0x202F, 0x205F, 0x3000]

theorem mem_blankCodes {c : Char} (blank : isBlank c = true) : c.toNat ∈ blankCodes := by
  simp only [isBlank, Bool.or_eq_true, Bool.and_eq_true, decide_eq_true_eq, beq_iff_eq] at blank
  simp only [blankCodes, List.mem_append, List.mem_range'_1, List.mem_cons, List.not_mem_nil,
    or_false]
  omega

end Text

namespace Handler

open Text

/-- Blanks are no part of names. -/
theorem isNamePart_of_isBlank {c : Char} (blank : isBlank c = true) : isNamePart c = false := by
  have apart : ∀ n ∈ blankCodes, isNamePart (Char.ofNat n) = false := by decide +kernel
  have := apart c.toNat (mem_blankCodes blank)
  rwa [Char.ofNat_toNat] at this

theorem isNamePart_of_isNameStart {c : Char} (starts : isNameStart c = true) :
    isNamePart c = true := by
  have ascii : c.toNat < 128 := by
    simp only [isNameStart, Bool.or_eq_true, Bool.and_eq_true, decide_eq_true_eq, beq_iff_eq,
      Char.le_def, UInt32.le_iff_toNat_le] at starts
    rcases starts with ((⟨_, high⟩ | ⟨_, high⟩) | rfl) | rfl
    · exact Nat.lt_of_le_of_lt high (by decide)
    · exact Nat.lt_of_le_of_lt high (by decide)
    · decide
    · decide
  have tabled : ∀ n < 128, isNameStart (Char.ofNat n) = true →
      isNamePart (Char.ofNat n) = true := by
    decide
  have := tabled c.toNat ascii
  rw [Char.ofNat_toNat] at this
  exact this starts

/-! ### Statements as they are written -/

/-- A name: a letter, `_` or `$`, followed by word characters and `$`. -/
structure Name where
  first : Char
  others : List Char
  first_starts : isNameStart first = true
  others_go_on : others.all isNamePart

def Name.text (n : Name) : List Char := n.first :: n.others

/-- The words that may stand before a path. -/
def leads : List (List Char) := ["return".toList, "void".toList, "await".toList]

/-- A word before a path, with a space and further blanks behind it. -/
structure Lead where
  word : List Char
  blanks : List Char
  known : word ∈ leads
  blank : blanks.all isBlank

def Lead.text (l : Lead) : List Char := l.word ++ ' ' :: l.blanks

/-- A further name of a path, with the point before it and perhaps a question mark and blanks. -/
structure Link where
  before : List Char
  optional : Bool
  behind : List Char
  name : Name
  before_blank : before.all isBlank
  behind_blank : behind.all isBlank

/-- The point, and the question mark before it. -/
def Link.mark (l : Link) : List Char := if l.optional then ['?', '.'] else ['.']

def Link.text (l : Link) : List Char := l.before ++ (l.mark ++ (l.behind ++ l.name.text))

/-- A statement: blanks, leading words, a path of names, and nothing or an argument text. -/
structure Statement where
  indent : List Char
  before : List Lead
  first : Name
  links : List Link
  argument : List Char
  indent_blank : indent.all isBlank
  first_free : first.text ∉ leads
  argument_opens : ∀ c ∈ argument.head?, c = '('
  argument_plain : ';' ∉ argument

namespace Statement

def text (s : Statement) : List Char :=
  s.indent ++ (s.before.flatMap Lead.text ++
    (s.first.text ++ (s.links.flatMap Link.text ++ s.argument)))

/-- The names of the path. -/
def path (s : Statement) : List String :=
  (s.first :: s.links.map Link.name).map fun n => String.ofList n.text

/-- The names that count: a global object before other names does not. -/
def counted (s : Statement) : List String :=
  if 2 ≤ s.path.length ∧ ∃ receiver ∈ s.path.head?, receiver ∈ globalObjects then s.path.tail
  else s.path

/-- The function that the statement calls: the last name that counts, and none at a receiver of the
browser. -/
def callee (s : Statement) : Option String :=
  if 2 ≤ s.counted.length ∧ ∃ receiver ∈ s.counted.head?, receiver ∈ builtinReceivers then none
  else s.counted.getLast?

end Statement

/-! ### Reading them -/

variable {rest : List Char}

namespace Name

variable (n : Name)

theorem text_goes_on : n.text.all isNamePart := by
  rw [text, List.all_cons, isNamePart_of_isNameStart n.first_starts, n.others_go_on]
  rfl

/-- A character that is no part of names is in none. -/
theorem not_mem_text {c : Char} (apart : isNamePart c = false) : c ∉ n.text := by
  intro member
  rw [List.all_eq_true.mp n.text_goes_on c member] at apart
  cases apart

theorem visible {c : Char} (member : c ∈ n.text) : isBlank c = false := by
  by_contra blank
  exact n.not_mem_text (isNamePart_of_isBlank (eq_true_of_ne_false blank)) member

theorem exists_last : ∃ c ∈ n.text, n.text.getLast? = some c :=
  ⟨_, List.getLast_mem (List.cons_ne_nil _ _), List.getLast?_eq_some_getLast _⟩

theorem readName_text (stops : Stops isNamePart rest) :
    readName (n.text ++ rest) = some (n.text, rest) := by
  rw [text, List.cons_append, readName, n.first_starts, takeWhile_run n.others_go_on stops,
    dropWhile_run n.others_go_on stops]
  rfl

/-- What is read as a name is one. -/
theorem exists_of_readName {cs name : List Char} (read : readName cs = some (name, rest)) :
    ∃ n : Name, cs = n.text ++ rest := by
  cases cs with
  | nil => cases read
  | cons c cs =>
    rw [readName] at read
    split at read
    · next starts =>
      obtain ⟨rfl, rfl⟩ := Prod.mk.inj (Option.some.inj read)
      exact ⟨⟨c, cs.takeWhile isNamePart, starts, List.all_takeWhile⟩, by simp [text]⟩
    · cases read

theorem trim_text {before behind : List Char} (before_blank : before.all isBlank)
    (behind_blank : behind.all isBlank) : trim (before ++ (n.text ++ behind)) = n.text := by
  obtain ⟨c, member, last⟩ := n.exists_last
  have starts : Stops isBlank (n.text ++ behind) := by
    simpa [Stops, text] using n.visible List.mem_cons_self
  rw [trim, trimStart, dropWhile_run before_blank starts]
  exact dropEndWhile_run last (n.visible member) behind_blank

/-- A segment of a path is the name in it. -/
theorem plainSegment_text {before behind asked : List Char} (before_blank : before.all isBlank)
    (behind_blank : behind.all isBlank) (marked : asked = [] ∨ asked = ['?']) :
    plainSegment (before ++ (n.text ++ (behind ++ asked))) = n.text := by
  -- nothing before the question mark is one
  have unasked {front : List Char} (filled : n.text <+: front) (apart : '?' ∉ front) :
      dropEndWhile (· == '?') (front ++ asked) = front := by
    have nonempty : front ≠ [] := by
      rintro rfl
      cases List.prefix_nil.mp filled
    have last := List.getLast?_eq_some_getLast nonempty
    refine dropEndWhile_run last ?_ (by rcases marked with rfl | rfl <;> rfl)
    exact beq_eq_false_iff_ne.mpr fun same => apart (same ▸ List.mem_of_getLast? last)
  have plain : '?' ∉ n.text := n.not_mem_text rfl
  rcases marked with rfl | rfl
  · have kept := unasked (List.prefix_refl _) plain
    rw [List.append_nil] at kept
    have alone : trim ([] ++ (n.text ++ [])) = n.text := n.trim_text rfl rfl
    rw [List.nil_append, List.append_nil] at alone
    rw [plainSegment, List.append_nil, n.trim_text before_blank behind_blank, kept, alone]
  · have blank : '?' ∉ behind := fun member => by
      cases List.all_eq_true.mp behind_blank '?' member
    have trimmed : trim (before ++ (n.text ++ (behind ++ ['?']))) = n.text ++ behind ++ ['?'] := by
      have starts : Stops isBlank (n.text ++ (behind ++ ['?'])) := by
        simpa [Stops, text] using n.visible List.mem_cons_self
      have ends : (n.text ++ behind ++ ['?']).getLast? = some '?' := List.getLast?_concat
      rw [trim, trimStart, dropWhile_run before_blank starts, ← List.append_assoc]
      exact (congrArg trimEnd (List.append_nil _)).symm.trans (dropEndWhile_run ends rfl rfl)
    rw [plainSegment, trimmed, unasked (List.prefix_append _ _) (by simp [plain, blank])]
    exact n.trim_text (List.all_nil : [].all isBlank) behind_blank

end Name

namespace Link

variable (l : Link)

theorem text_append :
    l.text ++ rest = l.before ++ (l.mark ++ (l.behind ++ (l.name.text ++ rest))) := by
  simp only [text, List.append_assoc]

theorem stops_mark (p : Char → Bool) (question : p '?' = false) (point : p '.' = false) :
    Stops p (l.mark ++ rest) := by
  cases h : l.optional <;> simp [Stops, mark, h, question, point]

/-- A link ends the name before it. -/
theorem stops_text : Stops isNamePart (l.text ++ rest) := by
  rw [text_append]
  cases run : l.before with
  | nil => exact l.stops_mark isNamePart rfl rfl
  | cons c cs =>
    have blank := List.all_eq_true.mp l.before_blank c (run ▸ List.mem_cons_self)
    simpa [Stops] using isNamePart_of_isBlank blank

theorem readLink_text : readLink (l.text ++ rest) = some (l.name.text ++ rest) := by
  have named : trimStart (l.behind ++ (l.name.text ++ rest)) = l.name.text ++ rest := by
    apply dropWhile_run l.behind_blank
    simpa [Stops, Name.text] using l.name.visible List.mem_cons_self
  have trimmed : trimStart (l.text ++ rest) = l.mark ++ (l.behind ++ (l.name.text ++ rest)) := by
    rw [text_append]
    exact dropWhile_run l.before_blank (l.stops_mark isBlank rfl rfl)
  rw [readLink, trimmed]
  cases h : l.optional <;> simp [mark, h, named]

end Link

theorem dropNames_of_readLink {cs : List Char} (ended : readLink cs = none) :
    dropNames cs = cs := by
  rw [dropNames]
  split
  · rfl
  · simp_all

theorem dropNames_of_readName {cs linked name : List Char} (link : readLink cs = some linked)
    (named : readName linked = some (name, rest)) : dropNames cs = dropNames rest := by
  rw [dropNames]
  split
  · simp_all
  · next found =>
    obtain rfl : linked = _ := Option.some.inj (link.symm.trans found)
    split <;> simp_all

section Path

variable {argument : List Char} (opens : ∀ c ∈ argument.head?, c = '(') (links : List Link)
include opens

theorem readLink_argument : readLink argument = none := by
  cases argument with
  | nil => rfl
  | cons c cs =>
    obtain rfl := opens c rfl
    rfl

/-- Whatever follows a name of a path ends it. -/
theorem stops_links : Stops isNamePart (links.flatMap Link.text ++ argument) := by
  cases links with
  | nil =>
    intro c head
    obtain rfl := opens c head
    rfl
  | cons l ls =>
    rw [List.flatMap_cons, List.append_assoc]
    exact l.stops_text

theorem dropNames_links : dropNames (links.flatMap Link.text ++ argument) = argument := by
  induction links with
  | nil => exact dropNames_of_readLink (readLink_argument opens)
  | cons l ls ih =>
    have name := l.name.readName_text (stops_links opens ls)
    rw [List.flatMap_cons, List.append_assoc, dropNames_of_readName l.readLink_text name, ih]

theorem readPath_links (n : Name) :
    readPath (n.text ++ (links.flatMap Link.text ++ argument)) =
      some (n.text ++ links.flatMap Link.text) := by
  simp only [readPath, n.readName_text (stops_links opens links), Option.map_some,
    dropNames_links opens links]
  rw [← List.append_assoc, List.length_append, Nat.add_sub_cancel, List.take_left]

end Path

/-- Cut at its points, a path falls into segments with one name each. -/
theorem segments_links {before : List Char} (blank : before.all isBlank) (n : Name)
    (links : List Link) :
    segments (before ++ (n.text ++ links.flatMap Link.text)) =
      n.text :: links.map fun l => l.name.text := by
  have pointless {cs : List Char} (blank : cs.all isBlank) : '.' ∉ cs := fun member => by
    cases List.all_eq_true.mp blank '.' member
  have unnamed : '.' ∉ n.text := n.not_mem_text rfl
  induction links generalizing before n with
  | nil =>
    have single : plainSegment (before ++ (n.text ++ ([] ++ []))) = n.text :=
      n.plainSegment_text blank rfl (.inl rfl)
    rw [List.flatMap_nil, segments, splitAt_plain (by simp [pointless blank, unnamed])]
    simpa using single
  | cons l ls ih =>
    let asked : List Char := if l.optional then ['?'] else []
    have marked : l.mark = asked ++ ['.'] := by
      cases h : l.optional <;> simp [asked, Link.mark, h]
    have question : asked = [] ∨ asked = ['?'] := by
      cases h : l.optional <;> simp [asked, h]
    have plain : '.' ∉ before ++ (n.text ++ (l.before ++ asked)) := by
      have unasked : '.' ∉ asked := by rcases question with same | same <;> simp [same]
      simp [pointless blank, unnamed, pointless l.before_blank, unasked]
    have cut : before ++ (n.text ++ (l :: ls).flatMap Link.text) =
        before ++ (n.text ++ (l.before ++ asked)) ++
          '.' :: (l.behind ++ (l.name.text ++ ls.flatMap Link.text)) := by
      simp [Link.text, marked]
    rw [cut, segments, splitAt_cons plain, List.map_cons,
      n.plainSegment_text blank l.before_blank question]
    exact congrArg _ (ih l.behind_blank l.name (l.name.not_mem_text rfl))

theorem leadWords_eq_map : leadWords = leads.map (· ++ [' ']) := rfl

theorem dropLeadWord?_lead {word : List Char} (known : word ∈ leads) :
    dropLeadWord? (word ++ ' ' :: rest) = some rest := by
  simp only [leads, List.mem_cons, List.not_mem_nil, or_false] at known
  rcases known with rfl | rfl | rfl <;> rfl

/-- Words read as far as they go: a name that is no leading word does not start with one. -/
theorem dropLeadWord?_name {n : Name} (free : n.text ∉ leads) (stops : Stops isNamePart rest) :
    dropLeadWord? (n.text ++ rest) = none := by
  rw [dropLeadWord?, List.findSome?_eq_none_iff, leadWords_eq_map]
  intro lead member
  obtain ⟨word, known, rfl⟩ := List.mem_map.mp member
  have parts : word.all isNamePart := by
    have all : ∀ w ∈ leads, w.all isNamePart := by decide
    exact all word known
  rw [dropLead?, if_neg]
  intro starts
  obtain ⟨others, same⟩ := List.isPrefixOf_iff_prefix.mp starts
  rw [List.append_assoc, List.singleton_append] at same
  have word_eq : word = n.text := by
    have ended : Stops isNamePart (' ' :: others) := by simp [Stops]; rfl
    rw [← takeWhile_run parts ended, same, takeWhile_run n.text_goes_on stops]
  exact free (word_eq ▸ known)

theorem dropLeadWords_of_some {cs : List Char} (found : dropLeadWord? cs = some rest) :
    dropLeadWords cs = dropLeadWords (trimStart rest) := by
  rw [dropLeadWords]
  split
  · simp_all
  · simp_all

theorem dropLeadWords_of_none {cs : List Char} (found : dropLeadWord? cs = none) :
    dropLeadWords cs = cs := by
  rw [dropLeadWords]
  split
  · simp_all
  · rfl

/-- Leading words and a name start with a character that is no blank. -/
theorem stops_before (before : List Lead) (n : Name) :
    Stops isBlank (before.flatMap Lead.text ++ (n.text ++ rest)) := by
  cases before with
  | nil => simpa [Stops, Name.text] using n.visible List.mem_cons_self
  | cons l ls =>
    have known := l.known
    simp only [leads, List.mem_cons, List.not_mem_nil, or_false] at known
    rcases known with word | word | word <;> simp [Stops, Lead.text, word] <;> rfl

theorem dropLeadWords_before (before : List Lead) {n : Name} (free : n.text ∉ leads)
    (stops : Stops isNamePart rest) :
    dropLeadWords (before.flatMap Lead.text ++ (n.text ++ rest)) = n.text ++ rest := by
  induction before with
  | nil => exact dropLeadWords_of_none (dropLeadWord?_name free stops)
  | cons l ls ih =>
    rw [List.flatMap_cons, Lead.text, List.append_assoc, List.append_assoc, List.cons_append,
      dropLeadWords_of_some (dropLeadWord?_lead l.known), trimStart,
      dropWhile_run l.blank (stops_before ls n), ih]

/-! ### Whole statements -/

namespace Statement

variable (s : Statement)

/-- The text up to the argument ends with a character of a name. -/
theorem exists_last_path : ∃ c, isBlank c = false ∧
    (s.first.text ++ s.links.flatMap Link.text).getLast? = some c := by
  have ends (n : Name) : ∃ c, isBlank c = false ∧ n.text.getLast? = some c := by
    obtain ⟨c, member, last⟩ := n.exists_last
    exact ⟨c, n.visible member, last⟩
  rcases List.eq_nil_or_concat s.links with single | ⟨front, l, joined⟩
  · simpa [single] using ends s.first
  · obtain ⟨c, visible, last⟩ := ends l.name
    refine ⟨c, visible, ?_⟩
    simp [joined, Link.text, List.getLast?_append, last]

theorem trim_text : trim s.text = s.before.flatMap Lead.text ++
    (s.first.text ++ (s.links.flatMap Link.text ++ trimEnd s.argument)) := by
  obtain ⟨c, visible, last⟩ := s.exists_last_path
  have front : trimStart s.text = (s.before.flatMap Lead.text ++
      (s.first.text ++ s.links.flatMap Link.text)) ++ s.argument := by
    rw [text, trimStart, dropWhile_run s.indent_blank (stops_before s.before s.first)]
    simp only [List.append_assoc]
  have ends : (s.before.flatMap Lead.text ++
      (s.first.text ++ s.links.flatMap Link.text)).getLast? = some c := by
    rw [List.getLast?_append, last]
    rfl
  rw [trim, front, trimEnd, dropEndWhile_append ends visible]
  simp only [trimEnd, List.append_assoc]

theorem trimEnd_argument_opens : ∀ c ∈ (trimEnd s.argument).head?, c = '(' := by
  cases text : s.argument with
  | nil => simp [trimEnd, dropEndWhile]
  | cons first others =>
    obtain rfl := s.argument_opens first (text ▸ rfl)
    have kept : trimEnd (['('] ++ others) = ['('] ++ trimEnd others :=
      dropEndWhile_append rfl rfl
    rw [List.singleton_append] at kept
    simp [kept]

theorem readPath_text : readPath (dropLeadWords (trim s.text)) =
    some (s.first.text ++ s.links.flatMap Link.text) := by
  have opens := s.trimEnd_argument_opens
  rw [trim_text, dropLeadWords_before s.before s.first_free (stops_links opens s.links),
    readPath_links opens]

theorem segments_path : (segments (s.first.text ++ s.links.flatMap Link.text)).map String.ofList =
    s.path := by
  have names : segments ([] ++ (s.first.text ++ s.links.flatMap Link.text)) = _ :=
    segments_links rfl s.first s.links
  rw [List.nil_append] at names
  simp [names, path]

theorem calleeOfPath_path : calleeOfPath s.path = s.callee := by
  unfold callee counted
  cases s.path with
  | nil => simp [calleeOfPath, dropGlobal]
  | cons first others =>
    cases others with
    | nil => simp [calleeOfPath, dropGlobal]
    | cons second more =>
      by_cases global : first ∈ globalObjects
      · cases more <;> simp [calleeOfPath, dropGlobal, global]
      · simp [calleeOfPath, dropGlobal, global]

theorem calleeOfStatement_trim_text : calleeOfStatement (trim s.text) = s.callee := by
  rw [calleeOfStatement, readPath_text, Option.bind_eq_bind, Option.bind_some, segments_path,
    calleeOfPath_path]

/-- No semicolon stands in a statement. -/
theorem text_plain : ';' ∉ s.text := by
  have blanks {cs : List Char} (blank : cs.all isBlank) : ';' ∉ cs := fun member => by
    cases List.all_eq_true.mp blank ';' member
  have name (n : Name) : ';' ∉ n.text := n.not_mem_text rfl
  have lead (l : Lead) : ';' ∉ l.text := by
    have words : ∀ word ∈ leads, ';' ∉ word := by decide
    simp [Lead.text, words l.word l.known, blanks l.blank]
  have link (l : Link) : ';' ∉ l.text := by
    have mark : ';' ∉ l.mark := by cases h : l.optional <;> simp [Link.mark, h]
    simp [Link.text, mark, name, blanks l.before_blank, blanks l.behind_blank]
  simp [text, lead, name, link, blanks s.indent_blank, s.argument_plain]

end Statement

/-- Every handler is found to call the function of each of its statements, in order. -/
theorem callees_statements (statements : List Statement) :
    callees (String.ofList (List.intercalate [';'] (statements.map Statement.text))) =
      statements.filterMap Statement.callee := by
  rw [callees, String.toList_ofList]
  cases statements with
  | nil =>
    have nothing : calleeOfStatement (trim []) = none := by
      rw [calleeOfStatement, dropLeadWords_of_none rfl]
      rfl
    simp [splitAt, splitWhere, nothing]
  | cons s others =>
    rw [splitAt_intercalate (by simp) (by simpa using ⟨s.text_plain, fun t _ => t.text_plain⟩),
      List.filterMap_map]
    exact congrFun (congrArg _ (funext fun t => t.calleeOfStatement_trim_text)) _

example : ∃ s : Statement, s.text = " return  window.app ?. menu.open(1)".toList ∧
    s.callee = some "open" :=
  ⟨{ indent := [' ']
     before := [⟨"return".toList, [' '], by decide, rfl⟩]
     first := ⟨'w', "indow".toList, rfl, rfl⟩
     links := [⟨[], false, [], ⟨'a', "pp".toList, rfl, rfl⟩, rfl, rfl⟩,
       ⟨[' '], true, [' '], ⟨'m', "enu".toList, rfl, rfl⟩, rfl, rfl⟩,
       ⟨[], false, [], ⟨'o', "pen".toList, rfl, rfl⟩, rfl, rfl⟩]
     argument := "(1)".toList
     indent_blank := rfl
     first_free := by decide
     argument_opens := fun _ here => (Option.some.inj here).symm
     argument_plain := by decide }, by decide⟩

end Handler

end PageWiring
