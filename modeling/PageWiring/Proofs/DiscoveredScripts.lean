import Mathlib.Data.List.TakeWhile
import PageWiring.Discovery
import PageWiring.Proofs.FileNames
import PageWiring.Proofs.FixCourse

/-!
Which scripts a search below a directory finds, and in which order.

A search comes to the files that no skipped directory contains and keeps those with a known
extension that no pattern leaves out. They come out in the order of the names that lead to them.
This holds for any way of reading patterns in which blank ones match nothing but themselves.
-/
namespace PageWiring

/-! ### Patterns -/

namespace Text

theorem isBlank_of_trim_isEmpty {cs : List Char} (blank : (trim cs).isEmpty = true) :
    ∀ c ∈ cs, isBlank c = true := by
  have later : ∀ c ∈ cs.dropWhile isBlank, isBlank c = true := by
    have nothing : trim cs = [] := List.isEmpty_iff.mp blank
    simpa [trim, trimEnd, dropEndWhile, trimStart, List.dropWhile_eq_nil_iff] using nothing
  intro c member
  rw [← List.takeWhile_append_dropWhile (p := isBlank) (l := cs)] at member
  rcases List.mem_append.mp member with first | last
  · exact List.mem_takeWhile_imp first
  · exact later c last

end Text

namespace Glob

theorem mem_of_mem_distinct {rests : List (List UInt8)} {rest : List UInt8}
    (member : rest ∈ distinct rests) : rest ∈ rests := by
  have kept (start : List (List UInt8)) : rest ∈ rests.foldl (fun kept r =>
      if kept.any (·.length == r.length) then kept else r :: kept) start →
        rest ∈ start ∨ rest ∈ rests := by
    clear member
    induction rests generalizing start with
    | nil => exact .inl
    | cons first others ih =>
      intro member
      rcases ih _ member with held | later
      · beta_reduce at held
        split at held
        · exact .inl held
        · rcases List.mem_cons.mp held with rfl | held
          · exact .inr List.mem_cons_self
          · exact .inl held
      · exact .inr (List.mem_cons_of_mem first later)
  rcases kept [] member with held | held
  · cases held
  · exact held

theorem mem_dropBytes {bytes path rest : List UInt8} (member : rest ∈ dropBytes bytes path) :
    path = bytes ++ rest := by
  unfold dropBytes at member
  split at member
  · rename_i starts
    obtain ⟨more, rfl⟩ := List.isPrefixOf_iff_prefix.mp starts
    obtain rfl : rest = more := by simpa using member
    rfl
  · cases member

/-- Characters that stand for themselves leave what follows them. -/
theorem exists_of_mem_restsOf_literals {cs : List Char} {paths : List (List UInt8)}
    {rest : List UInt8} (member : rest ∈ restsOf (cs.map .literal) paths) :
    ∃ path ∈ paths, path = Text.encode cs ++ rest := by
  induction cs generalizing paths with
  | nil => exact ⟨rest, by simpa [restsOf] using member, rfl⟩
  | cons c cs ih =>
    obtain ⟨path, found, rfl⟩ := ih (by simpa [restsOf] using member)
    obtain ⟨whole, listed, left⟩ := List.mem_flatMap.mp (mem_of_mem_distinct found)
    refine ⟨whole, listed, ?_⟩
    rw [mem_dropBytes left]
    simp [Text.encode]

theorem readPart_blank (r : Reading) {c : Char} (blank : Text.isBlank c = true) :
    readPart r c = .ok ({ r with previous := some c }.push (.literal c), .part) := by
  have other {d : Char} (visible : Text.isBlank d = false) : (c == d) = false := by
    rw [beq_eq_false_iff_ne]
    rintro rfl
    rw [blank] at visible
    cases visible
  unfold readPart
  simp only [other (d := '?') rfl, other (d := '*') rfl, other (d := '[') rfl,
    other (d := '{') rfl, other (d := '}') rfl, other (d := ',') rfl, other (d := '\\') rfl]
  rfl

theorem readFrom_blank (r : Reading) (single : r.groups = []) {cs : List Char}
    (blank : ∀ c ∈ cs, Text.isBlank c = true) :
    readFrom r .part cs = .ok (r.parts.reverse ++ cs.map .literal) := by
  induction cs generalizing r with
  | nil => simp [readFrom, finish, single, bind, Except.bind]
  | cons c cs ih =>
    have first := readPart_blank r (blank c List.mem_cons_self)
    have later := ih ({ r with previous := some c }.push (.literal c)) single
      fun d member => blank d (List.mem_cons_of_mem c member)
    simp only [readFrom, readChar, first, bind, Except.bind, later]
    simp [Reading.push]

end Glob

namespace Discovery

/-- A blank pattern matches nothing but itself. -/
def BlankIsLiteral (reader : PatternReader) : Prop :=
  ∀ pattern isMatch, Text.trim pattern.toList = [] → reader pattern = .ok isMatch →
    ∀ path, isMatch path = true → path = Text.encode pattern.toList

theorem blankIsLiteral_glob : BlankIsLiteral Glob.reader := by
  intro pattern isMatch blank read path matched
  have literals : Glob.ofText pattern = .ok (pattern.toList.map .literal) :=
    Glob.readFrom_blank {} rfl (Text.isBlank_of_trim_isEmpty (List.isEmpty_iff.mpr blank))
  obtain rfl : Glob.isMatch (pattern.toList.map .literal) = isMatch := by
    rw [Glob.reader, literals] at read
    exact Except.ok.inj read
  unfold Glob.isMatch at matched
  split at matched
  · rename_i lone
    cases chars : pattern.toList <;> simp [chars] at lone
  · obtain ⟨rest, member, empty⟩ := List.any_eq_true.mp matched
    obtain ⟨whole, listed, split⟩ := Glob.exists_of_mem_restsOf_literals member
    rwa [List.isEmpty_iff.mp empty, List.append_nil, List.mem_singleton.mp listed] at split

/-- Patterns that can be read leave out what one of them matches, blank ones apart. -/
theorem patterns_eq_ok {reader : PatternReader} {exclude : List String}
    (readable : ∀ pattern ∈ exclude, ∃ isMatch, reader pattern = .ok isMatch) :
    ∃ tests, patterns reader exclude = .ok tests ∧ ∀ path, tests.any (· path) = true ↔
      ∃ pattern ∈ exclude, Text.trim pattern.toList ≠ [] ∧
        ∃ isMatch, reader pattern = .ok isMatch ∧ isMatch path = true := by
  induction exclude with
  | nil => exact ⟨[], rfl, by simp⟩
  | cons pattern rest ih =>
    obtain ⟨tests, read, matched⟩ := ih fun p member => readable p (List.mem_cons_of_mem _ member)
    obtain ⟨isMatch, first⟩ := readable pattern List.mem_cons_self
    unfold patterns
    by_cases blank : (Text.trim pattern.toList).isEmpty = true
    · refine ⟨tests, by rw [if_pos blank, read], fun path => ?_⟩
      rw [matched]
      simp [List.isEmpty_iff.mp blank]
    · refine ⟨isMatch :: tests, by rw [if_neg blank, first, read]; rfl, fun path => ?_⟩
      rw [List.any_cons, Bool.or_eq_true, matched]
      simp [mt List.isEmpty_iff.mpr blank, first]

end Discovery

/-! ### The files that a search comes to -/

namespace FileNode

mutual

/-- The entries of every directory have proper names, no two of them the same. -/
def IsTree : FileNode → Prop
  | .file _ => True
  | .directory entries => (entries.map (·.1)).Nodup ∧ AreTrees entries
  | .link _ => True

def AreTrees : List (FileName × FileNode) → Prop
  | [] => True
  | (name, node) :: rest => name.IsProper ∧ node.IsTree ∧ AreTrees rest

end

mutual

def decideTree : (node : FileNode) → Decidable node.IsTree
  | .file _ => .isTrue trivial
  | .directory entries =>
    have := decideTrees entries
    inferInstanceAs (Decidable ((entries.map (·.1)).Nodup ∧ AreTrees entries))
  | .link _ => .isTrue trivial

def decideTrees : (entries : List (FileName × FileNode)) → Decidable (AreTrees entries)
  | [] => .isTrue trivial
  | (name, node) :: rest =>
    have := decideTree node
    have := decideTrees rest
    inferInstanceAs (Decidable (name.IsProper ∧ node.IsTree ∧ AreTrees rest))

end

instance (node : FileNode) : Decidable node.IsTree := decideTree node

mutual

/-- The places of the files below a directory, as far as no skipped directory contains them. -/
def reached : List (FileName × FileNode) → List (List FileName)
  | [] => []
  | (name, node) :: rest => (reachedAt name node).map (name :: ·) ++ reached rest

/-- The same from an entry of a directory on. -/
def reachedAt (name : FileName) : FileNode → List (List FileName)
  | .file _ => [[]]
  | .directory entries => if isSkippedDirectory name then [] else reached entries
  | .link _ => []

end

theorem shapeAt?_entry (entries : List (FileName × FileNode)) (name : FileName)
    (rest : List FileName) :
    (FileNode.directory entries).shapeAt? (name :: rest) =
      (entries.lookup name).bind (·.shapeAt? rest) := by
  show ((entries.lookup name).bind (find? rest)).map shape = _
  rw [Option.map_bind]
  rfl

theorem lookup_eq_none {entries : List (FileName × FileNode)} {name : FileName}
    (absent : name ∉ entries.map (·.1)) : entries.lookup name = none := by
  rw [List.lookup_eq_none_iff]
  intro entry member
  simpa using fun same : name = entry.1 => absent (same ▸ List.mem_map_of_mem member)

mutual

/-- A search comes to exactly the files that no skipped directory contains. -/
theorem mem_reached (entries : List (FileName × FileNode)) (distinct : (entries.map (·.1)).Nodup)
    (trees : AreTrees entries) (place : List FileName) :
    place ∈ reached entries ↔ (FileNode.directory entries).shapeAt? place = some .file ∧
      ∀ name ∈ place.dropLast, isSkippedDirectory name = false := by
  match entries, place with
  | [], [] => simp [reached, shapeAt?, find?, shape]
  | [], name :: tail => simp [reached, shapeAt?_entry]
  | (name, node) :: rest, [] =>
    have later := mem_reached rest (List.nodup_cons.mp distinct).2 trees.2.2 []
    simpa [reached, shapeAt?, find?, shape] using later
  | (name, node) :: rest, first :: tail =>
    obtain ⟨fresh, distinct⟩ := List.nodup_cons.mp distinct
    have later := mem_reached rest distinct trees.2.2 (first :: tail)
    by_cases same : first = name
    · -- No other entry has the name, so the place is below this one or nowhere.
      subst same
      have own := mem_reachedAt first node trees.2.1 tail
      have other : first :: tail ∉ reached rest := by
        rw [later, shapeAt?_entry, lookup_eq_none fresh]
        simp
      simpa [reached, shapeAt?_entry, other] using own
    · have other : (first == name) = false := beq_eq_false_iff_ne.mpr same
      rw [shapeAt?_entry] at later ⊢
      simpa [reached, List.lookup_cons, other, Ne.symm same] using later

theorem mem_reachedAt (name : FileName) (node : FileNode) (tree : node.IsTree)
    (place : List FileName) :
    place ∈ reachedAt name node ↔ node.shapeAt? place = some .file ∧
      ∀ n ∈ (name :: place).dropLast, isSkippedDirectory n = false := by
  match node, place with
  | .file bytes, [] => simp [reachedAt, shapeAt?, find?, shape]
  | .file bytes, first :: tail => simp [reachedAt, shapeAt?, find?]
  | .link target, [] => simp [reachedAt, shapeAt?, find?, shape]
  | .link target, first :: tail => simp [reachedAt, shapeAt?, find?]
  | .directory entries, [] =>
    have inside := mem_reached entries tree.1 tree.2 []
    by_cases skipped : isSkippedDirectory name
    · simp [reachedAt, skipped, shapeAt?, find?, shape]
    · simpa [reachedAt, skipped, shapeAt?, find?, shape] using inside
  | .directory entries, first :: tail =>
    have inside := mem_reached entries tree.1 tree.2 (first :: tail)
    by_cases skipped : isSkippedDirectory name
    · simp [reachedAt, skipped]
    · simpa [reachedAt, skipped] using inside

end

mutual

theorem nodup_reached (entries : List (FileName × FileNode)) (distinct : (entries.map (·.1)).Nodup)
    (trees : AreTrees entries) : (reached entries).Nodup := by
  match entries with
  | [] => exact List.nodup_nil
  | (name, node) :: rest =>
    obtain ⟨fresh, distinct⟩ := List.nodup_cons.mp distinct
    have own := (nodup_reachedAt name node trees.2.1).map (List.cons_injective (a := name))
    refine own.append (nodup_reached rest distinct trees.2.2) ?_
    -- What is below the entry starts with its name, which no other entry has.
    intro place here later
    obtain ⟨tail, -, rfl⟩ := List.mem_map.mp here
    rw [mem_reached rest distinct trees.2.2, shapeAt?_entry, lookup_eq_none fresh] at later
    cases later.1

theorem nodup_reachedAt (name : FileName) (node : FileNode) (tree : node.IsTree) :
    (reachedAt name node).Nodup := by
  match node with
  | .file bytes => exact List.nodup_singleton _
  | .link target => exact List.nodup_nil
  | .directory entries =>
    unfold reachedAt
    split
    · exact List.nodup_nil
    · exact nodup_reached entries tree.1 tree.2

end

theorem isProper_of_lookup {entries : List (FileName × FileNode)} (trees : AreTrees entries)
    {name : FileName} {node : FileNode} (held : entries.lookup name = some node) :
    name.IsProper ∧ node.IsTree := by
  induction entries with
  | nil => cases held
  | cons entry rest ih =>
    obtain ⟨first, other⟩ := entry
    rw [List.lookup_cons] at held
    split at held
    · rename_i same
      cases held
      rw [beq_iff_eq.mp same]
      exact ⟨trees.1, trees.2.1⟩
    · exact ih trees.2.2 held

theorem isProper_of_shapeAt? {node : FileNode} (tree : node.IsTree) {place : List FileName}
    {shape : Shape} (here : node.shapeAt? place = some shape) : ∀ n ∈ place, n.IsProper := by
  induction place generalizing node with
  | nil => simp
  | cons name rest ih =>
    cases node with
    | file bytes => cases here
    | link target => cases here
    | directory entries =>
      rw [shapeAt?_entry] at here
      obtain ⟨inner, held, below⟩ := Option.bind_eq_some_iff.mp here
      obtain ⟨named, proper⟩ := isProper_of_lookup tree.2 held
      simpa [named] using ih proper below

end FileNode

/-- The path that leads on over some names. -/
def DiskPath.below (p : DiskPath) (place : List FileName) : DiskPath :=
  { p with names := p.names ++ place }

theorem DiskPath.below_join (p : DiskPath) (name : FileName) (place : List FileName) :
    (p.join name).below place = p.below (name :: place) := by
  simp [below, join]

theorem DiskPath.below_nil (p : DiskPath) : p.below [] = p := by simp [below]

namespace Discovery

/-- Is a file kept, by its path? -/
def keeps (d : Discovery) (path : DiskPath) : Bool := d.supports path && !d.excludes path

mutual

theorem filesBelow_listings (d : Discovery) (path : DiskPath)
    (entries : List (FileName × FileNode)) :
    d.filesBelow path (FileNode.listings entries) =
      ((FileNode.reached entries).map path.below).filter d.keeps := by
  match entries with
  | [] => rfl
  | (name, node) :: rest =>
    have own := filesAt_listing d (path.join name) name node
    have later := filesBelow_listings d path rest
    have step : (path.join name).below = path.below ∘ (name :: ·) := funext (path.below_join name)
    show d.filesAt _ name node.listing ++ d.filesBelow path (FileNode.listings rest) = _
    rw [own, later, step, FileNode.reached, List.map_append, List.filter_append, List.map_map]

theorem filesAt_listing (d : Discovery) (path : DiskPath) (name : FileName) (node : FileNode) :
    d.filesAt path name node.listing =
      ((FileNode.reachedAt name node).map path.below).filter d.keeps := by
  match node with
  | .link target => rfl
  | .file bytes =>
    show (if d.keeps path then [path] else []) = _
    rw [FileNode.reachedAt, List.map_singleton, path.below_nil, List.filter_singleton,
      Bool.cond_eq_ite]
  | .directory entries =>
    show (if isSkippedDirectory name then [] else
      d.filesBelow path (FileNode.listings entries)) = _
    unfold FileNode.reachedAt
    split
    · rfl
    · exact filesBelow_listings d path entries

end

end Discovery

/-! ### The order -/

theorem insertSorted_map {α β : Type} {f : α → β} {le : β → β → Bool} {le' : α → α → Bool} {a : α}
    {l : List α} (same : ∀ b ∈ l, le (f a) (f b) = le' a b) :
    insertSorted le (f a) (l.map f) = (insertSorted le' a l).map f := by
  induction l with
  | nil => rfl
  | cons b l ih =>
    have later := ih fun c member => same c (List.mem_cons_of_mem b member)
    simp only [List.map_cons, insertSorted, same b List.mem_cons_self, later]
    split <;> rfl

/-- Sorting commutes with a change of the elements that keeps their order. -/
theorem sortBy_map {α β : Type} {f : α → β} {le : β → β → Bool} {le' : α → α → Bool} {l : List α}
    (same : ∀ a ∈ l, ∀ b ∈ l, le (f a) (f b) = le' a b) :
    sortBy le (l.map f) = (sortBy le' l).map f := by
  induction l with
  | nil => rfl
  | cons a l ih =>
    have later := ih fun b first c second =>
      same b (List.mem_cons_of_mem a first) c (List.mem_cons_of_mem a second)
    simp only [List.map_cons, sortBy, later]
    apply insertSorted_map
    intro b member
    exact same a List.mem_cons_self b (List.mem_cons_of_mem a ((perm_sortBy _ l).mem_iff.mp member))

/-- Lists of names in the order of paths. -/
def namesLe (a b : List FileName) : Bool := DiskPath.le ⟨"", a⟩ ⟨"", b⟩

theorem pairwise_sortBy_names {places : List (List FileName)} (distinct : places.Nodup) :
    ((sortBy namesLe places).map (·.map FileName.bytes)).Pairwise (· < ·) := by
  have injective : Function.Injective fun place : List FileName => place.map FileName.bytes :=
    List.map_injective_iff.mpr fun a b same => by cases a; cases b; exact congrArg _ same
  have sorted : (sortBy namesLe places).Pairwise fun a b =>
      a.map FileName.bytes ≤ b.map FileName.bytes := by
    rw [sortBy_eq_insertionSort]
    simp only [namesLe, DiskPath.le, decide_eq_true_eq]
    have total : Std.Total fun a b : List FileName =>
        a.map FileName.bytes ≤ b.map FileName.bytes := ⟨fun _ _ => List.le_total _ _⟩
    have trans : IsTrans (List FileName) fun a b =>
        a.map FileName.bytes ≤ b.map FileName.bytes := ⟨fun _ _ _ => List.le_trans⟩
    exact List.pairwise_insertionSort _ _
  have different := (perm_sortBy namesLe places).nodup_iff.mpr distinct
  rw [List.pairwise_map]
  refine (sorted.and different).imp fun both => ?_
  exact (List.le_iff_lt_or_eq.mp both.1).resolve_right (mt (injective ·) both.2)

namespace Discovery

/-- What makes a file below the root of a search one of those that are looked for. Its place is the
list of names that lead to it from there. -/
structure IsSought (reader : PatternReader) (extensions exclude : List String) (tree : FileNode)
    (place : List FileName) : Prop where
  /-- A link is no file, and nothing is below it. -/
  file : tree.shapeAt? place = some .file
  /-- A directory is hidden, or has one of the names, by its text. One whose name is no text is
  entered. -/
  entered : ∀ name ∈ place.dropLast, ∀ text, name.text? = some text →
    text.toList.head? ≠ some '.' ∧ text ∉ ["node_modules", "dist", "build", "coverage"]
  supported : ∃ name ext text, place.getLast? = some name ∧ name.HasExtension ext ∧
    ext.text? = some text ∧ ∃ known ∈ extensions,
      Text.asciiLowerString (Text.lowercaseString known) = Text.asciiLowerString text
  kept : ∀ pattern ∈ exclude, ∀ isMatch, reader pattern = .ok isMatch →
    isMatch ([Glob.separator].intercalate (place.map FileName.bytes)) = false

theorem isSkippedDirectory_eq_false_iff {name : FileName} : isSkippedDirectory name = false ↔
    ∀ text, name.text? = some text →
      text.toList.head? ≠ some '.' ∧ text ∉ ["node_modules", "dist", "build", "coverage"] := by
  cases read : name.text? with
  | none => simp [isSkippedDirectory, read]
  | some text => simp [isSkippedDirectory, skippedDirectories, read]

theorem supports_below {d : Discovery} {extensions : List String}
    (known : d.extensions = extensions.map Text.lowercaseString) (root : String)
    (place : List FileName) {name : FileName} (last : place.getLast? = some name) :
    d.supports (DiskPath.mk root place) = true ↔ ∃ ext text, name.HasExtension ext ∧
      ext.text? = some text ∧ ∃ known ∈ extensions,
        Text.asciiLowerString (Text.lowercaseString known) = Text.asciiLowerString text := by
  have file : (DiskPath.mk root place).fileName? = some name := by simp [DiskPath.fileName?, last]
  rw [supports, file, Option.bind_some, Option.any_eq_true, known]
  simp only [Option.bind_eq_some_iff, FileName.extension?_eq_some_iff, List.any_map,
    List.any_eq_true, Function.comp_apply, beq_iff_eq]
  constructor
  · rintro ⟨text, ⟨ext, dotted, read⟩, listed⟩
    exact ⟨ext, text, dotted, read, listed⟩
  · rintro ⟨ext, text, dotted, read, listed⟩
    exact ⟨text, ⟨ext, dotted, read⟩, listed⟩

/-- What is in a piece is in the pieces that are joined. -/
theorem mem_intercalate {α : Type} {sep : List α} {pieces : List (List α)} {piece : List α}
    (member : piece ∈ pieces) {a : α} (inside : a ∈ piece) : a ∈ sep.intercalate pieces := by
  induction pieces with
  | nil => cases member
  | cons first rest ih =>
    cases rest with
    | nil =>
      obtain rfl := List.mem_singleton.mp member
      simpa using inside
    | cons second more =>
      rw [List.intercalate_cons_cons]
      rcases List.mem_cons.mp member with rfl | later
      · simp [inside]
      · simp [ih later]

/-- A path whose last name has an extension is no blank text. -/
theorem not_blank_of_hasExtension {place : List FileName} {name ext : FileName}
    (last : place.getLast? = some name) (dotted : name.HasExtension ext) {pattern : String}
    (blank : Text.trim pattern.toList = []) :
    [Glob.separator].intercalate (place.map FileName.bytes) ≠ Text.encode pattern.toList := by
  obtain ⟨stem, -, -, split⟩ := dotted
  have dot : FileName.dot ∈ [Glob.separator].intercalate (place.map FileName.bytes) :=
    mem_intercalate (List.mem_map_of_mem (List.mem_of_getLast? last)) (by simp [split])
  intro same
  rw [same] at dot
  obtain ⟨c, member, inside⟩ := List.mem_flatMap.mp dot
  have visible : c = '.' := Char.toNat_inj.mp (Text.toNat_of_mem_utf8EncodeChar inside (by decide))
  have empty := Text.isBlank_of_trim_isEmpty (List.isEmpty_iff.mpr blank) c member
  rw [visible] at empty
  cases empty

/-- A search keeps the files that are looked for, of those that it comes to. -/
theorem keeps_iff_isSought {d : Discovery} {reader : PatternReader}
    (literal : BlankIsLiteral reader) {extensions exclude : List String}
    (known : d.extensions = extensions.map Text.lowercaseString)
    (matched : ∀ path, d.exclude.any (· path) = true ↔ ∃ pattern ∈ exclude,
      Text.trim pattern.toList ≠ [] ∧ ∃ isMatch, reader pattern = .ok isMatch ∧
        isMatch path = true)
    {entries : List (FileName × FileNode)} (tree : (FileNode.directory entries).IsTree)
    (root : String) (place : List FileName) :
    place ∈ FileNode.reached entries ∧ d.keeps (DiskPath.mk root place) = true ↔
      IsSought reader extensions exclude (.directory entries) place := by
  rw [FileNode.mem_reached entries tree.1 tree.2]
  simp only [isSkippedDirectory_eq_false_iff]
  simp only [keeps, Bool.and_eq_true, Bool.not_eq_true', excludes, Bool.eq_false_iff, ne_eq,
    matched, DiskPath.relative]
  constructor
  · rintro ⟨⟨file, entered⟩, supported, kept⟩
    obtain ⟨name, last⟩ : ∃ name, place.getLast? = some name := by
      cases place with
      | nil => cases file
      | cons first rest => exact ⟨_, List.getLast?_cons⟩
    obtain ⟨ext, text, dotted, read, listed⟩ := (supports_below known root place last).mp supported
    refine ⟨file, entered, ⟨name, ext, text, last, dotted, read, listed⟩, ?_⟩
    intro pattern listed isMatch compiled
    rw [Bool.eq_false_iff]
    intro matches_
    refine kept ⟨pattern, listed, ?_, isMatch, compiled, matches_⟩
    intro blank
    exact not_blank_of_hasExtension last dotted blank
      (literal pattern isMatch blank compiled _ matches_)
  · rintro ⟨file, entered, ⟨name, ext, text, last, supported⟩, kept⟩
    refine ⟨⟨file, entered⟩,
      (supports_below known root place last).mpr ⟨ext, text, supported⟩, ?_⟩
    rintro ⟨pattern, listed, -, isMatch, compiled, matches_⟩
    rw [kept pattern listed isMatch compiled] at matches_
    cases matches_

theorem discover_run (d : Discovery) {fs : FileSystem} {root : String}
    {entries : List (FileName × FileNode)}
    (directory : fs.node root = .ok (.directory entries)) :
    (d.discover FileSystem.disk root).run fs =
      (.ok (sortBy DiskPath.le (d.filesBelow root (FileNode.listings entries))), fs) := by
  have node : fs.node? root = some (.directory entries) := by
    rw [FileSystem.node?, directory]
    rfl
  have present : fs.isPresent root = true := by rw [FileSystem.isPresent, node]; rfl
  have folder : fs.isFile root = false := by rw [FileSystem.isFile, node]; rfl
  simp [discover, FileSystem.disk, present, folder, node, FileNode.listing]
  rfl

/-- The bytes of a dot and of a byte that starts no character. -/
def hiddenBytes : FileName := ⟨[0x2E, 0xFF]⟩

/-- Scripts beside a hidden file and directory, a directory that is skipped, and a link. The hidden
directory whose name is no text is entered. -/
def mixedEntries : List (FileName × FileNode) := [
  ("zeta.js", .file []),
  ("a-b.js", .file []),
  ("a", .directory [("x.JS", .file []), ("y.min.js", .file []), ("z", .directory [])]),
  (".config.js", .file []),
  (".git", .directory [("hook.js", .file [])]),
  (hiddenBytes, .directory [("in.js", .file [])]),
  ("dist", .directory [("out.js", .file [])]),
  ("main.js", .link "zeta.js"),
  ("notes.txt", .file [])]

def mixedFiles : FileSystem where
  root := .directory [("site", .directory [("js", .directory mixedEntries)])]
  workingDirectory := ["site"]

example : ((discover {} FileSystem.disk "js").run mixedFiles).1.toOption.map (·.map (·.names)) =
    some ([[".config.js"], [hiddenBytes, "in.js"], ["a", "x.JS"], ["a", "y.min.js"], ["a-b.js"],
      ["zeta.js"]] : List (List FileName)) := by
  rfl

end Discovery

end PageWiring
