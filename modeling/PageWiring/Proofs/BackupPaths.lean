import Mathlib.Data.List.Nodup
import Mathlib.Data.List.Perm.Subperm
import PageWiring.Fix.Apply
import PageWiring.Proofs.FileTree
import PageWiring.Proofs.Pieces

/-!
The entries of a directory by their paths, and the paths of backups.

The name of a backup is the first in a row of names for which there is nothing yet. A directory has
fewer entries than names are tried, so one of them is free.
-/
namespace PageWiring

namespace Path

/-- What an entry of a directory can be called. -/
def IsName (name : String) : Prop :=
  name ≠ "" ∧ name ≠ "." ∧ name ≠ ".." ∧ '/' ∉ name.toList

theorem toList_mem_of_name_mem {s : String} {stop position : Nat} {isStart : Bool}
    {pieces : List (List Char)}
    (member : (Component.name s, stop) ∈ componentsFrom position isStart pieces) :
    s.toList ∈ pieces := by
  induction pieces generalizing position isStart with
  | nil => simp [componentsFrom] at member
  | cons piece rest ih =>
    rw [componentsFrom] at member
    rcases List.mem_append.mp member with member | member
    · obtain ⟨component, counted, same⟩ := List.mem_map.mp member
      obtain rfl : component = .name s := congrArg Prod.fst same
      rw [Option.mem_toList, componentOf] at counted
      split at counted
      · cases counted
      split at counted
      · split at counted <;> cases counted
      split at counted
      · cases counted
      · cases counted
        simp
    · exact List.mem_cons_of_mem piece (ih member)

/-- The last component of a path has no slash in it. -/
theorem slash_not_mem_fileName? {path name : String} (named : fileName? path = some name) :
    '/' ∉ name.toList := by
  have listed : Component.name name ∈ components path := by
    unfold fileName? at named
    split at named
    · rename_i s last
      cases named
      exact List.mem_of_getLast? last
    · cases named
  obtain ⟨⟨component, stop⟩, member, rfl⟩ := List.mem_map.mp listed
  have piece : name.toList ∈ Text.splitAt '/' path.toList := by
    rw [marked] at member
    split at member
    · rcases List.mem_cons.mp member with absurd | member
      · cases absurd
      · exact List.mem_of_mem_drop (toList_mem_of_name_mem member)
    · exact toList_mem_of_name_mem member
  intro slash
  have clean := Text.plain_of_mem_splitWhere piece '/' slash
  simp at clean

theorem IsName.isAbsolute_eq_false {name : String} (named : IsName name) :
    isAbsolute name = false := by
  unfold isAbsolute
  cases chars : name.toList with
  | nil => rfl
  | cons c cs =>
    have other : c ≠ '/' := by
      rintro rfl
      exact named.2.2.2 (chars ▸ List.mem_cons_self)
    simpa using other

theorem isAbsolute_join (base : String) {name : String} (named : IsName name) :
    isAbsolute (join base name) = isAbsolute base := by
  unfold join
  rw [named.isAbsolute_eq_false, Bool.false_or]
  cases chars : base.toList with
  | nil =>
    obtain rfl := String.toList_eq_nil_iff.mp chars
    exact named.isAbsolute_eq_false
  | cons c cs =>
    have filled : base.isEmpty = false := by
      rw [Bool.eq_false_iff, ne_eq, String.isEmpty_iff]
      rintro rfl
      cases chars
    rw [if_neg (by simp [filled])]
    unfold isAbsolute
    split <;> simp [chars]

end Path

namespace FileSystem

/-! ### Entries by their paths -/

/-- The names on the way to a directory, to which the name of an entry is added. -/
def lead (directory : String) : List FileName :=
  if directory.isEmpty then []
  else if directory.toList.getLast? == some '/' then
    (Text.splitAt '/' directory.toList.dropLast).map fun piece => ⟨Text.encode piece⟩
  else pieces directory

theorem pieces_join (directory : String) {name : String} (named : Path.IsName name) :
    pieces (Path.join directory name) = lead directory ++ [.ofText name] := by
  have relative := named.isAbsolute_eq_false
  obtain ⟨-, -, -, plain⟩ := named
  unfold lead Path.join
  by_cases empty : directory.isEmpty = true
  · have whole : Text.splitAt '/' name.toList = [name.toList] :=
      Text.splitWhere_plain fun c member =>
        beq_eq_false_iff_ne.mpr fun same => plain (same ▸ member)
    simp [pieces, empty, whole, FileName.ofText]
  · simp only [relative, empty, Bool.or_self, Bool.false_eq_true, if_false]
    by_cases slash : directory.toList.getLast? = some '/'
    · have ended : directory.toList = directory.toList.dropLast ++ ['/'] :=
        (List.dropLast_append_getLast? '/' slash).symm
      have joined : directory.toList ++ name.toList =
          directory.toList.dropLast ++ '/' :: name.toList := by
        conv_lhs => rw [ended]
        simp
      simp [pieces, slash, joined, Text.splitAt_append '/' _ plain, FileName.ofText]
    · simp [pieces, slash, Text.splitAt_append '/' directory.toList plain, FileName.ofText]

/-- The directory in which the entries of a path are. -/
def Opens (fs : FileSystem) (directory : String) (above : List FileName) : Prop :=
  Arrives fs.root true (linkLimit + 1) (fs.start directory) (lead directory) above ∧
    fs.root.shapeAt? above = some .directory

theorem Opens.unique {fs : FileSystem} {directory : String} {a b : List FileName}
    (first : fs.Opens directory a) (second : fs.Opens directory b) : a = b :=
  Except.ok.inj
    ((walkLinks_eq_ok_iff.mpr first.1).symm.trans (walkLinks_eq_ok_iff.mpr second.1))

/-- A walk to an entry leads through its directory, and ends at the entry unless that is a link. -/
theorem Arrives.entry {root : FileNode} {links : Nat} {here names place : List FileName}
    {name : FileName} (real : name ≠ "" ∧ name ≠ "." ∧ name ≠ "..")
    (directory : root.shapeAt? here = some .directory)
    (arrives : Arrives root true links here (names ++ [name]) place) :
    ∃ above, Arrives root true links here names above ∧
      root.shapeAt? above = some .directory ∧
      (place = above ++ [name] ∨
        ∃ target, root.shapeAt? (above ++ [name]) = some (.link target)) := by
  generalize all : names ++ [name] = walked at arrives
  induction arrives generalizing names with
  | here => simp at all
  | stay idle later ih =>
    cases names with
    | nil =>
      obtain ⟨rfl, -⟩ : name = _ ∧ _ := by simpa using all
      rcases idle with rfl | rfl
      · exact absurd rfl real.1
      · exact absurd rfl real.2.1
    | cons first names =>
      obtain ⟨rfl, rest⟩ := List.cons.inj all
      obtain ⟨above, reached, inner, ends⟩ := ih directory rest
      exact ⟨above, .stay idle reached, inner, ends⟩
  | up later ih =>
    cases names with
    | nil =>
      obtain ⟨rfl, -⟩ : name = ".." ∧ _ := by simpa using all
      exact absurd rfl real.2.2
    | cons first names =>
      obtain ⟨rfl, rest⟩ := List.cons.inj all
      obtain ⟨above, reached, inner, ends⟩ := ih (FileNode.shapeAt?_dropLast directory) rest
      exact ⟨above, .up reached, inner, ends⟩
  | enter step inner later ih =>
    cases names with
    | nil =>
      obtain ⟨rfl, rfl⟩ := List.cons.inj all
      cases later
      exact ⟨_, .here, directory, .inl rfl⟩
    | cons first names =>
      obtain ⟨rfl, rest⟩ := List.cons.inj all
      obtain ⟨above, reached, below, ends⟩ := ih inner rest
      exact ⟨above, .enter step inner reached, below, ends⟩
  | last step leaf =>
    cases names with
    | nil =>
      obtain ⟨rfl, -⟩ := List.cons.inj all
      exact ⟨_, .here, directory, .inl rfl⟩
    | cons first names => simp at all
  | lastLink step kept link => cases kept
  | follow step link followed later ih =>
    cases names with
    | nil =>
      obtain ⟨rfl, -⟩ := List.cons.inj all
      exact ⟨_, .here, directory, .inr ⟨_, link⟩⟩
    | cons first names =>
      obtain ⟨rfl, rfl⟩ := List.cons.inj all
      obtain ⟨above, reached, inner, ends⟩ :=
        ih (FileNode.shapeAt?_turn directory _) (List.append_assoc _ names [name])
      exact ⟨above, .follow step link (fun _ => rfl) reached, inner, ends⟩

theorem Denotes.entry {fs : FileSystem} {directory name : String} {place : List FileName}
    (named : Path.IsName name) (denotes : fs.Denotes (Path.join directory name) place) :
    ∃ above, fs.Opens directory above ∧
      (place = above ++ [.ofText name] ∨
        ∃ target, fs.root.shapeAt? (above ++ [.ofText name]) = some (.link target)) := by
  obtain ⟨-, -, -, start, arrives⟩ := locate_eq_ok_iff.mp denotes
  have same : fs.start (Path.join directory name) = fs.start directory := by
    rw [FileSystem.start, FileSystem.start, Path.isAbsolute_join directory named]
  rw [same] at start arrives
  rw [pieces_join directory named] at arrives
  obtain ⟨above, reached, inner, ends⟩ :=
    arrives.entry ⟨mt FileName.ofText_inj.mp named.1, mt FileName.ofText_inj.mp named.2.1,
      mt FileName.ofText_inj.mp named.2.2.1⟩ start
  exact ⟨above, ⟨reached, inner⟩, ends⟩

/-- A place is inside a directory when one of its entries is there, or leads there. -/
def Inside (fs : FileSystem) (directory : String) (place : List FileName) : Prop :=
  ∃ name, Path.IsName name ∧ fs.Denotes (Path.join directory name) place

/-! ### Presence -/

theorem isPresent_iff {fs : FileSystem} {path : String} :
    fs.isPresent path ↔ ∃ place, fs.Denotes path place ∧ fs.root.shapeAt? place ≠ none := by
  unfold isPresent node? node Denotes FileNode.shapeAt?
  cases fs.locate true path with
  | error cause => simp [bind, Except.bind, Except.toOption]
  | ok place =>
    cases found : fs.root.find? place with
    | none => simp [bind, Except.bind, Except.toOption, found]
    | some node => simp [bind, Except.bind, Except.toOption, found]

theorem Grows.isPresent {a b : FileSystem} (grows : a.Grows b) {path : String}
    (present : a.isPresent path) : b.isPresent path := by
  obtain ⟨place, denotes, filled⟩ := isPresent_iff.mp present
  obtain ⟨shape, here⟩ := Option.ne_none_iff_exists'.mp filled
  refine isPresent_iff.mpr ⟨place, grows.denotes denotes, ?_⟩
  rw [grows.root.shapeAt? here]
  exact Option.some_ne_none shape

/-- What is present under the path of an entry is an entry of the directory. -/
theorem exists_entry_of_isPresent {fs : FileSystem} {directory name : String}
    (named : Path.IsName name) (present : fs.isPresent (Path.join directory name)) :
    ∃ above entries, fs.Opens directory above ∧
      fs.root.find? above = some (.directory entries) ∧
      FileName.ofText name ∈ entries.map (·.1) := by
  obtain ⟨place, denotes, filled⟩ := isPresent_iff.mp present
  obtain ⟨above, opens, ends⟩ := denotes.entry named
  obtain ⟨entries, found⟩ := FileNode.exists_entries opens.2
  refine ⟨above, entries, opens, found, ?_⟩
  have listed : fs.root.shapeAt? (above ++ [.ofText name]) ≠ none := by
    rcases ends with rfl | ⟨target, link⟩
    · exact filled
    · simp [link]
  have held : entries.lookup (.ofText name) ≠ none := by
    intro missing
    rw [FileNode.shapeAt?, FileNode.find?_append, found] at listed
    simp [FileNode.find?, missing] at listed
  by_contra unlisted
  exact held (List.lookup_eq_none_iff.mpr fun entry member => by
    have other : .ofText name ≠ entry.1 := fun same => unlisted (same ▸ List.mem_map_of_mem member)
    simpa using other)

/-! ### The search for a free name -/

end FileSystem

namespace FileNode

theorem count_pos (node : FileNode) : 0 < node.count := by
  cases node with
  | file content => exact Nat.one_pos
  | link target => exact Nat.one_pos
  | directory entries =>
    rw [count]
    omega

theorem length_le_countAll (entries : List (FileName × FileNode)) :
    entries.length ≤ countAll entries := by
  induction entries with
  | nil => simp
  | cons entry rest ih =>
    have one := count_pos entry.2
    rw [List.length_cons, countAll]
    omega

theorem count_le_countAll {entries : List (FileName × FileNode)} {name : FileName} {node : FileNode}
    (held : entries.lookup name = some node) : node.count ≤ countAll entries := by
  induction entries with
  | nil => simp at held
  | cons entry rest ih =>
    obtain ⟨first, other⟩ := entry
    rw [countAll]
    rw [List.lookup_cons] at held
    split at held
    · cases held
      omega
    · have later := ih held
      omega

theorem count_find?_le {root node : FileNode} {place : List FileName}
    (found : root.find? place = some node) : node.count ≤ root.count := by
  induction place generalizing root with
  | nil =>
    cases found
    exact Nat.le_refl _
  | cons name rest ih =>
    cases root with
    | file bytes => cases found
    | link target => cases found
    | directory entries =>
      obtain ⟨inner, held, below⟩ := Option.bind_eq_some_iff.mp found
      have deeper := ih below
      have entry := count_le_countAll held
      rw [count]
      omega

theorem length_lt_count {root : FileNode} {place : List FileName}
    {entries : List (FileName × FileNode)} (found : root.find? place = some (.directory entries)) :
    entries.length < root.count := by
  have whole := count_find?_le found
  have listed := length_le_countAll entries
  rw [count] at whole
  omega

end FileNode

namespace FileSystem

theorem searchAbsent_cases (fs : FileSystem) (path : Nat → String) (limit n : Nat) :
    ¬ fs.isPresent (path (fs.searchAbsent path limit n)) ∨
      ∀ i < limit, fs.isPresent (path (n + i)) := by
  induction limit generalizing n with
  | zero => exact .inr fun i none => absurd none (Nat.not_lt_zero i)
  | succ limit ih =>
    rw [searchAbsent]
    split
    · rename_i taken
      refine (ih (n + 1)).imp_right fun others i inside => ?_
      cases i with
      | zero => exact taken
      | succ i =>
        have later := others i (by omega)
        rwa [Nat.add_assoc, Nat.add_comm 1 i] at later
    · rename_i free
      exact .inl free

/-- There is nothing at the path that the search ends with, if it tries different names. -/
theorem searchAbsent_absent (fs : FileSystem) (directory : String) {name : Nat → String}
    (injective : Function.Injective name) (named : ∀ n, Path.IsName (name n)) :
    let path := fun n => Path.join directory (name n)
    ¬ fs.isPresent (path (fs.searchAbsent path (fs.root.count + 1) 0)) := by
  intro path
  rcases fs.searchAbsent_cases path (fs.root.count + 1) 0 with free | taken
  · exact free
  · exfalso
    obtain ⟨above, entries, opens, found, -⟩ :=
      exists_entry_of_isPresent (named _) (taken 0 (by omega))
    have distinct :
        ((List.range (fs.root.count + 1)).map fun n => FileName.ofText (name n)).Nodup :=
      List.nodup_range.map fun a b same => injective (FileName.ofText_inj.mp same)
    have listed : (List.range (fs.root.count + 1)).map (fun n => FileName.ofText (name n)) ⊆
        entries.map (·.1) := by
      intro tried member
      obtain ⟨i, inside, rfl⟩ := List.mem_map.mp member
      have present := taken i (List.mem_range.mp inside)
      rw [Nat.zero_add] at present
      obtain ⟨above', entries', opens', found', here⟩ :=
        exists_entry_of_isPresent (named i) present
      obtain rfl := opens.unique opens'
      obtain rfl : entries = entries' := by
        rw [found] at found'
        simpa using found'
      exact here
    have most := (distinct.subperm listed).length_le
    have fewer := FileNode.length_lt_count found
    simp only [List.length_map, List.length_range] at most
    omega

end FileSystem

namespace Fix

/-! ### The names of backups -/

theorem toList_backupName (name : String) (time n : Nat) :
    (backupName name time n).toList = (name.toList ++ '.' :: Nat.toDigits 10 time) ++
      ((if n = 0 then [] else '-' :: Nat.toDigits 10 n) ++ ".backup".toList) := by
  unfold backupName
  by_cases first : n = 0
  · simp [first, toString, Nat.repr_eq_ofList_toDigits]
  · simp [first, toString, Nat.repr_eq_ofList_toDigits]

theorem backupName_injective (name : String) (time : Nat) :
    Function.Injective (backupName name time) := by
  intro a b same
  have chars := congrArg String.toList same
  rw [toList_backupName, toList_backupName] at chars
  have marks := List.append_cancel_right (List.append_cancel_left chars)
  by_cases zero : a = 0 <;> by_cases zero' : b = 0 <;>
    simp only [zero, zero', if_true, if_false] at marks
  · rw [zero, zero']
  · cases marks
  · cases marks
  · have digits := congrArg (Nat.ofDigitChars 10 · 0) (List.cons.inj marks).2
    simpa using digits

theorem isName_backupName {name : String} (plain : '/' ∉ name.toList) (time n : Nat) :
    Path.IsName (backupName name time n) := by
  have chars := toList_backupName name time n
  have digits (m : Nat) : '/' ∉ Nat.toDigits 10 m := by
    intro member
    have digit := Nat.isDigit_of_mem_toDigits (by decide) (by decide) member
    exact absurd digit (by decide)
  have long : 7 ≤ (backupName name time n).toList.length := by
    rw [chars]
    simp only [List.length_append]
    have suffix : ".backup".toList.length = 7 := rfl
    omega
  have other {short : String} (few : short.toList.length < 7) : backupName name time n ≠ short := by
    rintro same
    rw [same] at long
    omega
  refine ⟨other (by decide), other (by decide), other (by decide), ?_⟩
  rw [chars]
  by_cases first : n = 0
  · simp [first, plain, digits]
  · simp [first, plain, digits]

/-- The name of the file at a path, as backups of it have it. -/
theorem slash_not_mem_backedName (path : String) :
    '/' ∉ ((Path.fileName? path).getD "file").toList := by
  cases named : Path.fileName? path with
  | none => decide
  | some name => exact Path.slash_not_mem_fileName? named

end Fix

end PageWiring
