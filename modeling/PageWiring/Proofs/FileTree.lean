import Mathlib.Data.List.Induction
import PageWiring.Files.FileSystem

/-!
Places in a tree of files, and where paths lead.

A place is the list of names on the way from the root. A change of the tree only adds files and
directories, or replaces what a file holds. So a path that leads to a place keeps leading there.
-/
namespace PageWiring

theorem Text.encode_injective {a b : List Char} (same : encode a = encode b) : a = b := by
  have bytes : (String.ofList a).toByteArray = (String.ofList b).toByteArray := by
    rw [String.toByteArray_ofList, String.toByteArray_ofList]
    exact congrArg List.toByteArray same
  exact String.ofList_injective (String.toByteArray_inj.mp bytes)

/-- Different texts are different names. -/
theorem FileName.ofText_inj {a b : String} : ofText a = ofText b ↔ a = b := by
  refine ⟨fun same => ?_, congrArg ofText⟩
  exact String.toList_inj.mp (Text.encode_injective (FileName.mk.inj same))

namespace FileNode

/-- What a node is, without what it holds. -/
inductive Shape where
  | file
  | directory
  | link (target : String)
  deriving DecidableEq

def shape : FileNode → Shape
  | .file _ => .file
  | .directory _ => .directory
  | .link target => .link target

def shapeAt? (root : FileNode) (place : List FileName) : Option Shape :=
  (root.find? place).map shape

/-- What the file at a place holds. -/
def fileAt? (root : FileNode) (place : List FileName) : Option (List UInt8) :=
  match root.find? place with
  | some (.file bytes) => some bytes
  | _ => none

theorem fileAt?_eq_some_iff {root : FileNode} {place : List FileName} {bytes : List UInt8} :
    root.fileAt? place = some bytes ↔ root.find? place = some (.file bytes) := by
  unfold fileAt?
  split <;> simp_all

theorem shapeAt?_of_fileAt? {root : FileNode} {place : List FileName} {bytes : List UInt8}
    (held : root.fileAt? place = some bytes) : root.shapeAt? place = some .file := by
  simp [shapeAt?, fileAt?_eq_some_iff.mp held, shape]

theorem exists_fileAt? {root : FileNode} {place : List FileName}
    (file : root.shapeAt? place = some .file) : ∃ bytes, root.fileAt? place = some bytes := by
  obtain ⟨node, found, shaped⟩ := Option.map_eq_some_iff.mp file
  cases node with
  | file bytes => exact ⟨bytes, fileAt?_eq_some_iff.mpr found⟩
  | directory entries => cases shaped
  | link target => cases shaped

/-! ### Finding and putting nodes -/

theorem find?_append (place more : List FileName) (root : FileNode) :
    root.find? (place ++ more) = (root.find? place).bind (find? more) := by
  induction place generalizing root with
  | nil => rfl
  | cons name rest ih =>
    cases root with
    | file bytes => rfl
    | link target => rfl
    | directory entries =>
      simp only [List.cons_append, find?, Option.bind_assoc]
      exact congrArg (Option.bind _) (funext ih)

/-- Only directories have something below them. -/
theorem find?_below {root : FileNode} {place : List FileName}
    (leaf : root.shapeAt? place ≠ some .directory) (name : FileName) (rest : List FileName) :
    root.find? (place ++ name :: rest) = none := by
  rw [find?_append]
  unfold shapeAt? at leaf
  cases found : root.find? place with
  | none => rfl
  | some node =>
    rw [found] at leaf
    cases node with
    | file bytes => rfl
    | link target => rfl
    | directory entries => exact absurd rfl leaf

theorem shapeAt?_dropLast {root : FileNode} {place : List FileName}
    (here : root.shapeAt? place = some .directory) :
    root.shapeAt? place.dropLast = some .directory := by
  cases place using List.reverseRecOn with
  | nil => exact here
  | append_singleton above name =>
    rw [List.dropLast_concat]
    by_contra leaf
    rw [shapeAt?, find?_below leaf] at here
    cases here

/-- A tree with a directory in it is one. -/
theorem shapeAt?_nil {root : FileNode} {place : List FileName}
    (here : root.shapeAt? place = some .directory) : root.shapeAt? [] = some .directory := by
  cases place with
  | nil => exact here
  | cons name rest =>
    by_contra leaf
    rw [shapeAt?, ← List.nil_append (name :: rest), find?_below leaf] at here
    cases here

/-- Where a link starts: at the root, or in its own directory. -/
theorem shapeAt?_turn {root : FileNode} {here : List FileName}
    (directory : root.shapeAt? here = some .directory) (absolute : Bool) :
    root.shapeAt? (if absolute then [] else here) = some .directory := by
  cases absolute with
  | true => exact shapeAt?_nil directory
  | false => exact directory

theorem lookup_setEntry (name : FileName) (node : FileNode) (entries : List (FileName × FileNode))
    (other : FileName) : (setEntry name node entries).lookup other =
      if other = name then some node else entries.lookup other := by
  have unequal {a b : FileName} (different : ¬ a = b) : (a == b) = false :=
    beq_eq_false_iff_ne.mpr different
  induction entries with
  | nil =>
    by_cases same : other = name
    · simp [setEntry, same]
    · simp [setEntry, List.lookup_cons, same, unequal same]
  | cons entry rest ih =>
    obtain ⟨first, held⟩ := entry
    by_cases own : first = name
    · by_cases same : other = name
      · simp [setEntry, own, same]
      · simp [setEntry, List.lookup_cons, own, same, unequal same]
    · by_cases same : other = first
      · simp [setEntry, own, same]
      · simp [setEntry, List.lookup_cons, own, unequal same, ih]

theorem exists_entries {root : FileNode} {place : List FileName}
    (here : root.shapeAt? place = some .directory) :
    ∃ entries, root.find? place = some (.directory entries) := by
  obtain ⟨node, found, shaped⟩ := Option.map_eq_some_iff.mp here
  cases node with
  | file bytes => cases shaped
  | link target => cases shaped
  | directory entries => exact ⟨entries, found⟩

/-- A node that is put into a directory is an entry of it, and of no other. -/
theorem put_entry (new : FileNode) (name : FileName) (entries : List (FileName × FileNode)) :
    put new [name] (.directory entries) = .directory (setEntry name new entries) := by
  cases held : entries.lookup name with
  | none => simp [put, held]
  | some node => simp [put, held]

theorem find?_put_within (new : FileNode) (name : FileName) (rest : List FileName)
    {root : FileNode} {above : List FileName} (here : root.shapeAt? above = some .directory) :
    (put new (above ++ [name]) root).find? (above ++ name :: rest) = new.find? rest := by
  obtain ⟨entries, found⟩ := exists_entries here
  induction above generalizing root with
  | nil =>
    cases found
    simp [put_entry, find?, lookup_setEntry]
  | cons first above ih =>
    cases root with
    | file bytes => cases found
    | link target => cases found
    | directory top =>
      obtain ⟨node, held, inner⟩ := Option.bind_eq_some_iff.mp found
      have inside : node.shapeAt? above = some .directory := by rw [shapeAt?, inner]; rfl
      simpa [put, held, find?, lookup_setEntry] using ih inside inner

/-- Nothing changes beside a node that is put in place; directories above it stay directories. -/
theorem find?_put_beside (new : FileNode) (name : FileName) {root : FileNode}
    {above : List FileName} (here : root.shapeAt? above = some .directory) {place : List FileName}
    (beside : ¬ above ++ [name] <+: place) :
    (put new (above ++ [name]) root).find? place = root.find? place ∨
      (put new (above ++ [name]) root).shapeAt? place = some .directory ∧
        root.shapeAt? place = some .directory := by
  obtain ⟨entries, found⟩ := exists_entries here
  induction above generalizing root place with
  | nil =>
    cases found
    cases place with
    | nil => exact .inr ⟨by simp [put_entry, shapeAt?, find?, shape], rfl⟩
    | cons first rest =>
      have other : first ≠ name := by
        rintro rfl
        exact beside ⟨rest, rfl⟩
      exact .inl (by simp [put_entry, find?, lookup_setEntry, other])
  | cons first above ih =>
    cases root with
    | file bytes => cases found
    | link target => cases found
    | directory top =>
      obtain ⟨node, held, inner⟩ := Option.bind_eq_some_iff.mp found
      have inside : node.shapeAt? above = some .directory := by rw [shapeAt?, inner]; rfl
      cases place with
      | nil => exact .inr ⟨by simp [put, held, shapeAt?, find?, shape], rfl⟩
      | cons start rest =>
        by_cases same : start = first
        · subst same
          have further : ¬ above ++ [name] <+: rest := fun extends_ =>
            beside ((List.prefix_cons_inj start).mpr extends_)
          simpa [put, held, shapeAt?, find?, lookup_setEntry] using ih inside further inner
        · exact .inl (by simp [put, held, find?, lookup_setEntry, same])

/-- A file or an empty directory that is put where no directory was is all that changes. -/
theorem put_elsewhere {new : FileNode} (bare : ∀ first rest, new.find? (first :: rest) = none)
    {name : FileName} {root : FileNode} {above : List FileName}
    (here : root.shapeAt? above = some .directory)
    (leaf : root.shapeAt? (above ++ [name]) ≠ some .directory) {place : List FileName}
    (other : place ≠ above ++ [name]) :
    (put new (above ++ [name]) root).shapeAt? place = root.shapeAt? place ∧
      (put new (above ++ [name]) root).fileAt? place = root.fileAt? place := by
  by_cases inside : above ++ [name] <+: place
  · -- Below the place there was nothing, and there is nothing.
    obtain ⟨below, rfl⟩ := inside
    cases below with
    | nil => exact absurd (List.append_nil _) other
    | cons first rest =>
      have was := find?_below leaf first rest
      have is := find?_put_within new name (first :: rest) here
      rw [bare] at is
      rw [List.append_assoc, List.singleton_append] at was ⊢
      simp [shapeAt?, fileAt?, was, is]
  · rcases find?_put_beside new name here inside with same | ⟨still, was⟩
    · simp [shapeAt?, fileAt?, same]
    · refine ⟨still.trans was.symm, ?_⟩
      obtain ⟨now, found⟩ := exists_entries still
      obtain ⟨before, held⟩ := exists_entries was
      simp [fileAt?, found, held]

/-! ### Growing -/

/-- Everything that is there keeps its shape, and what is new is no link. -/
def Grows (a b : FileNode) : Prop :=
  ∀ place, a.shapeAt? place = b.shapeAt? place ∨
    a.shapeAt? place = none ∧ ∀ target, b.shapeAt? place ≠ some (.link target)

theorem Grows.refl (a : FileNode) : Grows a a := fun _ => .inl rfl

theorem Grows.trans {a b c : FileNode} (ab : Grows a b) (bc : Grows b c) : Grows a c := by
  intro place
  rcases ab place with same | ⟨absent, unlinked⟩
  · rw [same]
    exact bc place
  · rcases bc place with same | ⟨-, unlinked'⟩
    · exact .inr ⟨absent, same ▸ unlinked⟩
    · exact .inr ⟨absent, unlinked'⟩

theorem Grows.shapeAt? {a b : FileNode} (grows : Grows a b) {place : List FileName} {shape : Shape}
    (here : a.shapeAt? place = some shape) : b.shapeAt? place = some shape := by
  rcases grows place with same | ⟨absent, -⟩
  · rw [← same, here]
  · rw [absent] at here
    cases here

theorem grows_put {new : FileNode} (bare : ∀ first rest, new.find? (first :: rest) = none)
    (unlinked : ∀ target, new.shape ≠ .link target)
    {name : FileName} {root : FileNode} {above : List FileName}
    (here : root.shapeAt? above = some .directory)
    (leaf : root.shapeAt? (above ++ [name]) ≠ some .directory)
    (fits : root.shapeAt? (above ++ [name]) = none ∨
      root.shapeAt? (above ++ [name]) = some new.shape) :
    Grows root (put new (above ++ [name]) root) := by
  intro place
  by_cases own : place = above ++ [name]
  · have is : (put new (above ++ [name]) root).shapeAt? (above ++ [name]) = some new.shape := by
      rw [FileNode.shapeAt?, find?_put_within new name [] here]
      rfl
    rw [own, is]
    rcases fits with absent | same
    · exact .inr ⟨absent, fun target linked => unlinked target (Option.some.inj linked)⟩
    · exact .inl same
  · exact .inl (put_elsewhere bare here leaf own).1.symm

end FileNode

namespace FileSystem

open FileNode (Shape)

/-! ### Where paths lead -/

/-- A path leads to a place, where there may be nothing yet. -/
def Denotes (fs : FileSystem) (path : String) (place : List FileName) : Prop :=
  fs.locate true path = .ok place

instance (fs : FileSystem) (path : String) (place : List FileName) :
    Decidable (fs.Denotes path place) :=
  inferInstanceAs (Decidable (fs.locate true path = .ok place))

theorem Denotes.unique {fs : FileSystem} {path : String} {a b : List FileName}
    (first : fs.Denotes path a) (second : fs.Denotes path b) : a = b :=
  Except.ok.inj (first.symm.trans second)

/-- A step of a walk depends on the shape of what it meets, not on what that holds. -/
theorem walk_cons (root : FileNode) (followLast : Bool)
    (follow : List FileName → List FileName → Except FileError (List FileName))
    (here : List FileName) (name : FileName) (rest : List FileName) :
    walk root followLast follow here (name :: rest) =
      if name == "" || name == "." then walk root followLast follow here rest
      else if name == ".." then walk root followLast follow here.dropLast rest
      else if nameLimit < name.bytes.length then .error .nameTooLong
      else
        match root.shapeAt? (here ++ [name]) with
        | none => if rest.isEmpty then .ok (here ++ [name]) else .error .notFound
        | some .directory => walk root followLast follow (here ++ [name]) rest
        | some .file => if rest.isEmpty then .ok (here ++ [name]) else .error .notADirectory
        | some (.link target) =>
          if rest.isEmpty && !followLast then .ok (here ++ [name])
          else follow (if Path.isAbsolute target then [] else here) (pieces target ++ rest) := by
  rw [walk, FileNode.shapeAt?]
  dsimp only
  cases root.find? (here ++ [name]) with
  | none => rfl
  | some node => cases node <;> rfl

/-- A name that a walk looks up. -/
def IsStep (name : FileName) : Prop :=
  name ≠ "" ∧ name ≠ "." ∧ name ≠ ".." ∧ name.bytes.length ≤ nameLimit

/-- The walks that lead to a place, with the number of links that may be met, less one. -/
inductive Arrives (root : FileNode) (followLast : Bool) :
    Nat → List FileName → List FileName → List FileName → Prop
  | here {links here} : Arrives root followLast (links + 1) here [] here
  | stay {links here rest place} {name : FileName} (idle : name = "" ∨ name = ".")
      (later : Arrives root followLast (links + 1) here rest place) :
      Arrives root followLast (links + 1) here (name :: rest) place
  | up {links here rest place}
      (later : Arrives root followLast (links + 1) here.dropLast rest place) :
      Arrives root followLast (links + 1) here (".." :: rest) place
  | enter {links here name rest place} (step : IsStep name)
      (directory : root.shapeAt? (here ++ [name]) = some .directory)
      (later : Arrives root followLast (links + 1) (here ++ [name]) rest place) :
      Arrives root followLast (links + 1) here (name :: rest) place
  | last {links here name} (step : IsStep name)
      (leaf : root.shapeAt? (here ++ [name]) = none ∨ root.shapeAt? (here ++ [name]) = some .file) :
      Arrives root followLast (links + 1) here [name] (here ++ [name])
  | lastLink {links here name target} (step : IsStep name) (kept : followLast = false)
      (link : root.shapeAt? (here ++ [name]) = some (.link target)) :
      Arrives root followLast (links + 1) here [name] (here ++ [name])
  | follow {links here name rest place target} (step : IsStep name)
      (link : root.shapeAt? (here ++ [name]) = some (.link target))
      (followed : rest = [] → followLast = true)
      (later : Arrives root followLast links
        (if Path.isAbsolute target then [] else here) (pieces target ++ rest) place) :
      Arrives root followLast (links + 1) here (name :: rest) place

theorem Arrives.of_walk {root : FileNode} {followLast : Bool} {links : Nat}
    (follows : ∀ {here names place},
      walkLinks root followLast links here names = .ok place →
        Arrives root followLast links here names place)
    {here names place : List FileName}
    (walked : walk root followLast (walkLinks root followLast links) here names = .ok place) :
    Arrives root followLast (links + 1) here names place := by
  induction names generalizing here with
  | nil =>
    cases walked
    exact .here
  | cons name rest ih =>
    rw [walk_cons] at walked
    split at walked
    · rename_i idle
      exact .stay (by simpa using idle) (ih walked)
    split at walked
    · rename_i named
      obtain rfl : name = ".." := by simpa using named
      exact .up (ih walked)
    split at walked
    · cases walked
    rename_i stays ups long
    have step : IsStep name := by
      simp only [Bool.or_eq_true, beq_iff_eq, not_or] at stays ups
      exact ⟨stays.1, stays.2, ups, by omega⟩
    split at walked
    · rename_i shaped
      split at walked
      · rename_i final
        obtain rfl := List.isEmpty_iff.mp final
        cases walked
        exact .last step (.inl shaped)
      · cases walked
    · rename_i shaped
      exact .enter step shaped (ih walked)
    · rename_i shaped
      split at walked
      · rename_i final
        obtain rfl := List.isEmpty_iff.mp final
        cases walked
        exact .last step (.inr shaped)
      · cases walked
    · rename_i target shaped
      split at walked
      · rename_i final
        simp only [Bool.and_eq_true, List.isEmpty_iff, Bool.not_eq_true'] at final
        obtain ⟨rfl, kept⟩ := final
        cases walked
        exact .lastLink step kept shaped
      · rename_i followed
        refine .follow step shaped ?_ (follows walked)
        simpa using followed

/-- The walks of the file system are these. -/
theorem walkLinks_eq_ok_iff {root : FileNode} {followLast : Bool} {links : Nat}
    {here names place : List FileName} :
    walkLinks root followLast links here names = .ok place ↔
      Arrives root followLast links here names place := by
  constructor
  · intro walked
    induction links generalizing here names place with
    | zero => cases walked
    | succ links ih => exact .of_walk ih walked
  · intro arrives
    have look {name : FileName} (step : IsStep name) :
        ((name == "" || name == ".") = false ∧ (name == "..") = false) ∧
          ¬ nameLimit < name.bytes.length := by
      obtain ⟨named, other, down, short⟩ := step
      simp [named, other, down, Nat.not_lt.mpr short]
    induction arrives with
    | here => rfl
    | stay idle later ih =>
      rw [walkLinks, walk_cons, if_pos (by simpa using idle)]
      exact ih
    | up later ih =>
      rw [walkLinks, walk_cons, if_neg (by decide), if_pos (by decide)]
      exact ih
    | enter step directory later ih =>
      obtain ⟨⟨stays, ups⟩, long⟩ := look step
      simpa [walkLinks, walk_cons, stays, ups, long, directory] using ih
    | last step leaf =>
      obtain ⟨⟨stays, ups⟩, long⟩ := look step
      rcases leaf with absent | file
      · simp [walkLinks, walk_cons, stays, ups, long, absent]
      · simp [walkLinks, walk_cons, stays, ups, long, file]
    | lastLink step kept link =>
      obtain ⟨⟨stays, ups⟩, long⟩ := look step
      simp [walkLinks, walk_cons, stays, ups, long, link, kept]
    | follow step link followed later ih =>
      obtain ⟨⟨stays, ups⟩, long⟩ := look step
      rw [walkLinks, walk_cons]
      simp only [stays, ups, long, link, Bool.false_eq_true, if_false]
      rw [if_neg (by simpa using followed)]
      exact ih

/-- What is new in a tree that has grown is at most the last name of a path, and no link. -/
theorem Arrives.grows {a b : FileNode} (grows : a.Grows b) {followLast : Bool} {links : Nat}
    {here names place : List FileName} (arrives : Arrives a followLast links here names place) :
    Arrives b followLast links here names place := by
  induction arrives with
  | here => exact .here
  | stay idle _ ih => exact .stay idle ih
  | up _ ih => exact .up ih
  | enter step directory _ ih => exact .enter step (grows.shapeAt? directory) ih
  | last step leaf =>
    rename_i links here name
    rcases leaf with absent | file
    · cases new : b.shapeAt? (here ++ [name]) with
      | none => exact .last step (.inl new)
      | some shape =>
        cases shape with
        | file => exact .last step (.inr new)
        | directory => exact .enter step new .here
        | link target =>
          rcases grows (here ++ [name]) with same | ⟨-, unlinked⟩
          · rw [absent, new] at same
            cases same
          · exact absurd new (unlinked target)
    · exact .last step (.inr (grows.shapeAt? file))
  | lastLink step kept link => exact .lastLink step kept (grows.shapeAt? link)
  | follow step link followed _ ih => exact .follow step (grows.shapeAt? link) followed ih

/-- The tree grows, and the working directory is the same. -/
structure Grows (a b : FileSystem) : Prop where
  root : a.root.Grows b.root
  workingDirectory : a.workingDirectory = b.workingDirectory

theorem Grows.refl (a : FileSystem) : a.Grows a := ⟨.refl _, rfl⟩

theorem Grows.trans {a b c : FileSystem} (ab : a.Grows b) (bc : b.Grows c) : a.Grows c :=
  ⟨ab.root.trans bc.root, ab.workingDirectory.trans bc.workingDirectory⟩

/-- Where a path starts, which has to be a directory. -/
def start (fs : FileSystem) (path : String) : List FileName :=
  if Path.isAbsolute path then [] else fs.workingDirectory

theorem locate_eq_ok_iff {fs : FileSystem} {followLast : Bool} {path : String}
    {place : List FileName} :
    fs.locate followLast path = .ok place ↔
      path.toList.contains '\x00' = false ∧ path.isEmpty = false ∧
        path.utf8ByteSize < pathLimit ∧
        fs.root.shapeAt? (fs.start path) = some .directory ∧
        Arrives fs.root followLast (linkLimit + 1) (fs.start path) (pieces path) place := by
  rw [← walkLinks_eq_ok_iff]
  unfold locate
  by_cases clean : path.toList.contains '\x00' = true
  · simp only [clean, if_true, reduceCtorEq, Bool.true_eq_false, false_and]
  by_cases named : path.isEmpty = true
  · simp only [clean, named, if_true, Bool.false_eq_true, if_false, reduceCtorEq,
      Bool.true_eq_false, false_and, and_false]
  by_cases long : pathLimit ≤ path.utf8ByteSize
  · simp only [clean, named, long, Nat.not_lt.mpr long, if_true, Bool.false_eq_true, if_false,
      reduceCtorEq, false_and, and_false]
  rw [if_neg clean, if_neg named, if_neg long]
  simp only [Bool.not_eq_true] at clean named
  simp only [clean, named, Nat.not_le.mp long, true_and]
  rw [← start]
  unfold FileNode.shapeAt?
  cases fs.root.find? (fs.start path) with
  | none => simp
  | some node => cases node <;> simp [FileNode.shape]

/-- A path that leads to a place still leads there when the tree has grown. -/
theorem Grows.locate {a b : FileSystem} (grows : a.Grows b) {followLast : Bool} {path : String}
    {place : List FileName} (located : a.locate followLast path = .ok place) :
    b.locate followLast path = .ok place := by
  have start : b.start path = a.start path := by rw [start, start, grows.workingDirectory]
  rw [locate_eq_ok_iff] at located ⊢
  obtain ⟨clean, named, short, directory, arrives⟩ := located
  rw [start]
  exact ⟨clean, named, short, grows.root.shapeAt? directory, arrives.grows grows.root⟩

theorem Grows.denotes {a b : FileSystem} (grows : a.Grows b) {path : String} {place : List FileName}
    (denotes : a.Denotes path place) : b.Denotes path place := grows.locate denotes

/-- The end of a walk: a directory, or an entry of one that may be missing. A link is the end only
where the last name is not followed. -/
def IsEnd (root : FileNode) (followLast : Bool) (place : List FileName) : Prop :=
  root.shapeAt? place = some .directory ∨
    ∃ above name, place = above ++ [name] ∧ root.shapeAt? above = some .directory ∧
      (followLast → ∀ target, root.shapeAt? place ≠ some (.link target))

theorem Arrives.isEnd {root : FileNode} {followLast : Bool} {links : Nat}
    {here names place : List FileName} (directory : root.shapeAt? here = some .directory)
    (arrives : Arrives root followLast links here names place) :
    IsEnd root followLast place := by
  induction arrives with
  | here => exact .inl directory
  | stay idle _ ih => exact ih directory
  | up _ ih => exact ih (FileNode.shapeAt?_dropLast directory)
  | enter step inner _ ih => exact ih inner
  | last step leaf =>
    refine .inr ⟨_, _, rfl, directory, fun _ target link => ?_⟩
    rcases leaf with absent | file <;> simp_all
  | lastLink step kept link =>
    exact .inr ⟨_, _, rfl, directory, fun followed => by simp [kept] at followed⟩
  | follow step link followed _ ih => exact ih (FileNode.shapeAt?_turn directory _)

theorem isEnd_locate {fs : FileSystem} {followLast : Bool} {path : String} {place : List FileName}
    (located : fs.locate followLast path = .ok place) : IsEnd fs.root followLast place := by
  obtain ⟨-, -, -, directory, arrives⟩ := locate_eq_ok_iff.mp located
  exact arrives.isEnd directory

end FileSystem

end PageWiring
