import PageWiring.Proofs.BackupPaths

/-!
What operations do to files.

Any of them may fail. One that writes a file changes this file only, whether it fails or not; one
that makes directories changes no file; and reading changes nothing.
-/
namespace PageWiring.FileSystem

/-- What the file at a place holds. -/
def fileAt? (fs : FileSystem) (place : List FileName) : Option (List UInt8) := fs.root.fileAt? place

/-- The tree may have grown, but every file is as it was, and no file is new. -/
structure Keeps (a b : FileSystem) : Prop where
  grows : a.Grows b
  content : ∀ place, b.fileAt? place = a.fileAt? place

/-- The file at a place is given a content, and every other file is as it was. -/
structure Writes (a b : FileSystem) (place : List FileName) (bytes : List UInt8) : Prop where
  grows : a.Grows b
  content : ∀ other, b.fileAt? other = if other = place then some bytes else a.fileAt? other

theorem Keeps.refl (fs : FileSystem) : fs.Keeps fs := ⟨.refl fs, fun _ => rfl⟩

theorem Keeps.tick (fs : FileSystem) : fs.Keeps fs.tick :=
  ⟨⟨.refl fs.root, rfl⟩, fun _ => rfl⟩

theorem Keeps.trans {a b c : FileSystem} (ab : a.Keeps b) (bc : b.Keeps c) : a.Keeps c :=
  ⟨ab.grows.trans bc.grows, fun place => (bc.content place).trans (ab.content place)⟩

theorem Keeps.writes {a b c : FileSystem} {place : List FileName} {bytes : List UInt8}
    (ab : a.Keeps b) (bc : b.Writes c place bytes) : a.Writes c place bytes where
  grows := ab.grows.trans bc.grows
  content other := by rw [bc.content, ab.content]

theorem Writes.tick {a b : FileSystem} {place : List FileName} {bytes : List UInt8}
    (writes : a.Writes b place bytes) : a.Writes b.tick place bytes :=
  ⟨⟨writes.grows.root, writes.grows.workingDirectory⟩, writes.content⟩

theorem Writes.self {a b : FileSystem} {place : List FileName} {bytes : List UInt8}
    (writes : a.Writes b place bytes) : b.fileAt? place = some bytes := by
  rw [writes.content, if_pos rfl]

theorem Writes.other {a b : FileSystem} {place other : List FileName} {bytes : List UInt8}
    (writes : a.Writes b place bytes) (different : other ≠ place) :
    b.fileAt? other = a.fileAt? other := by
  rw [writes.content, if_neg different]

/-- A file stays a file. -/
theorem Grows.exists_fileAt? {a b : FileSystem} (grows : a.Grows b) {place : List FileName}
    {bytes : List UInt8} (held : a.fileAt? place = some bytes) :
    ∃ now, b.fileAt? place = some now :=
  FileNode.exists_fileAt? (grows.root.shapeAt? (FileNode.shapeAt?_of_fileAt? held))

theorem isPresent_of_fileAt? {fs : FileSystem} {path : String} {place : List FileName}
    {bytes : List UInt8} (denotes : fs.Denotes path place)
    (held : fs.fileAt? place = some bytes) : fs.isPresent path := by
  refine isPresent_iff.mpr ⟨place, denotes, ?_⟩
  rw [FileNode.shapeAt?_of_fileAt? held]
  exact Option.some_ne_none _

theorem isPresent_tick (fs : FileSystem) (path : String) :
    fs.tick.isPresent path = fs.isPresent path := rfl

/-! ### Changes of the tree -/

theorem bind_eq_ok {α β : Type} {x : Except FileError α} {f : α → Except FileError β} {b : β}
    (success : (x >>= f) = .ok b) : ∃ a, x = .ok a ∧ f a = .ok b := by
  cases x with
  | error cause => cases success
  | ok a => exact ⟨a, rfl, success⟩

theorem denotes_of_fileTarget {fs : FileSystem} {path : String} {place : List FileName}
    (target : fs.fileTarget path = .ok place) : fs.Denotes path place := by
  unfold fileTarget at target
  split at target
  · obtain ⟨-, -, failed⟩ := bind_eq_ok target
    cases failed
  · exact target

/-- A place that is no directory is the place of an entry. -/
theorem exists_entry_of_isEnd {root : FileNode} {followLast : Bool} {place : List FileName}
    (isEnd : IsEnd root followLast place) (leaf : root.shapeAt? place ≠ some .directory) :
    ∃ above name, place = above ++ [name] ∧ root.shapeAt? above = some .directory ∧
      (followLast → ∀ target, root.shapeAt? place ≠ some (.link target)) := by
  rcases isEnd with directory | entry
  · exact absurd directory leaf
  · exact entry

theorem store_writes {fs after : FileSystem} {path : String} {bytes : List UInt8}
    (stored : fs.store path bytes = .ok after) :
    ∃ place, fs.Denotes path place ∧ fs.Writes after place bytes := by
  obtain ⟨place, target, stored⟩ := bind_eq_ok stored
  have denotes := denotes_of_fileTarget target
  refine ⟨place, denotes, ?_⟩
  have leaf : fs.root.shapeAt? place ≠ some .directory := by
    intro directory
    obtain ⟨entries, found⟩ := FileNode.exists_entries directory
    rw [found] at stored
    cases stored
  have put : after = { fs with root := FileNode.put (.file bytes) place fs.root } := by
    split at stored
    · cases stored
    · exact (Except.ok.inj stored).symm
  obtain ⟨above, name, rfl, here, unlinked⟩ := exists_entry_of_isEnd (isEnd_locate denotes) leaf
  have fits : fs.root.shapeAt? (above ++ [name]) = none ∨
      fs.root.shapeAt? (above ++ [name]) = some (FileNode.file bytes).shape := by
    cases shaped : fs.root.shapeAt? (above ++ [name]) with
    | none => exact .inl rfl
    | some shape =>
      cases shape with
      | file => exact .inr rfl
      | directory => exact absurd shaped leaf
      | link target => exact absurd shaped (unlinked rfl target)
  have bare (first : FileName) (rest : List FileName) :
      (FileNode.file bytes).find? (first :: rest) = none := rfl
  subst put
  refine ⟨⟨FileNode.grows_put bare (by simp [FileNode.shape]) here leaf fits, rfl⟩, ?_⟩
  intro other
  split
  · rename_i same
    subst same
    exact FileNode.fileAt?_eq_some_iff.mpr (FileNode.find?_put_within _ name [] here)
  · rename_i different
    exact (FileNode.put_elsewhere bare here leaf different).2

theorem exists_file_of_node {fs : FileSystem} {path : String} {bytes : List UInt8}
    (found : fs.node path = .ok (.file bytes)) :
    ∃ place, fs.Denotes path place ∧ fs.fileAt? place = some bytes := by
  obtain ⟨place, denotes, found⟩ := bind_eq_ok found
  refine ⟨place, denotes, FileNode.fileAt?_eq_some_iff.mpr ?_⟩
  split at found
  · rename_i node here
    rw [here, Except.ok.inj found]
  · cases found

/-- A copy is what the source holds, unless the source is the target. -/
theorem duplicate_writes {fs after : FileSystem} {source target : String}
    (copied : fs.duplicate source target = .ok after) :
    ∃ origin bytes place, fs.Denotes source origin ∧ fs.fileAt? origin = some bytes ∧
      fs.Denotes target place ∧ fs.Writes after place (if origin = place then [] else bytes) := by
  obtain ⟨node, found, copied⟩ := bind_eq_ok copied
  split at copied
  · rename_i bytes
    obtain ⟨origin, denotes, held⟩ := exists_file_of_node found
    obtain ⟨place, aim, writes⟩ := store_writes copied
    refine ⟨origin, bytes, place, denotes, held, aim, ?_⟩
    have same : ((fs.locate true source).toOption == (fs.locate true target).toOption) =
        decide (origin = place) := by
      rw [denotes, aim, Bool.eq_iff_iff]
      simp [Except.toOption]
    simpa [same] using writes
  · cases copied

theorem makeDirectory_keeps {fs after : FileSystem} {path : String}
    (made : fs.makeDirectory path = .ok after) : fs.Keeps after := by
  obtain ⟨place, located, made⟩ := bind_eq_ok made
  split at made
  · cases made
  · rename_i absent
    cases made
    have missing : fs.root.shapeAt? place = none := by rw [FileNode.shapeAt?, absent]; rfl
    have leaf : fs.root.shapeAt? place ≠ some .directory := by simp [missing]
    obtain ⟨above, name, rfl, here, -⟩ := exists_entry_of_isEnd (isEnd_locate located) leaf
    have bare (first : FileName) (rest : List FileName) :
        (FileNode.directory []).find? (first :: rest) = none := rfl
    refine ⟨⟨FileNode.grows_put bare (by simp [FileNode.shape]) here leaf (.inl missing), rfl⟩, ?_⟩
    intro other
    by_cases same : other = above ++ [name]
    · subst same
      have new := FileNode.find?_put_within (.directory []) name [] here
      simp [fileAt?, FileNode.fileAt?, new, absent, FileNode.find?]
    · exact (FileNode.put_elsewhere bare here leaf same).2

/-! ### Operations that may fail -/

/-- What an operation that should write a file leaves when it fails: all files as they were, or this
one with some other content. -/
def Spoils (a b : FileSystem) (path : String) : Prop :=
  a.Keeps b ∨ ∃ place bytes, a.Denotes path place ∧ a.Writes b place bytes

theorem spoil_spoils (fs : FileSystem) (path : String) (fault : FileFault) :
    fs.Spoils (fs.spoil path fault).tick path := by
  unfold spoil
  split
  · rename_i bytes left
    cases stored : fs.store path bytes with
    | error cause => exact .inl (.tick fs)
    | ok after =>
      obtain ⟨place, denotes, writes⟩ := store_writes stored
      exact .inr ⟨place, bytes, denotes, writes.tick⟩
  · exact .inl (.tick fs)

/-- What follows an operation starts from what it gives and leaves. -/
theorem run_bind {α β : Type} {fs after : FileSystem} {operation : StateM FileSystem α} {result : α}
    (ran : operation.run fs = (result, after)) (next : α → StateM FileSystem β) :
    (operation >>= next).run fs = (next result).run after := by
  rw [StateT.run_bind, ran]
  rfl

theorem attempt_cases {fs after : FileSystem} {spoiled : FileSystem → FileFault → FileSystem}
    {change : FileSystem → Except FileError FileSystem} {result : Except FileError Unit}
    (ran : (attempt spoiled change).run fs = (result, after)) :
    (∃ changed, change fs = .ok changed ∧ result = .ok () ∧ after = changed.tick) ∨
      ∃ cause, result = .error cause ∧
        (after = fs.tick ∨ ∃ fault, after = (spoiled fs fault).tick) := by
  change attempt spoiled change fs = (result, after) at ran
  unfold attempt at ran
  split at ran
  · rename_i fault planned
    cases ran
    exact .inr ⟨_, rfl, .inr ⟨fault, rfl⟩⟩
  · split at ran
    · rename_i changed success
      cases ran
      exact .inl ⟨changed, success, rfl, rfl⟩
    · cases ran
      exact .inr ⟨_, rfl, .inl rfl⟩

theorem write_cases {fs after : FileSystem} {path : String} {bytes : List UInt8}
    {result : Except FileError Unit} (ran : (disk.write path bytes).run fs = (result, after)) :
    (result = .ok () ∧ ∃ place, fs.Denotes path place ∧ fs.Writes after place bytes) ∨
      ∃ cause, result = .error cause ∧ fs.Spoils after path := by
  rcases attempt_cases ran with ⟨changed, stored, rfl, rfl⟩ | ⟨cause, rfl, rfl | ⟨fault, rfl⟩⟩
  · obtain ⟨place, denotes, writes⟩ := store_writes stored
    exact .inl ⟨rfl, place, denotes, writes.tick⟩
  · exact .inr ⟨cause, rfl, .inl (.tick fs)⟩
  · exact .inr ⟨cause, rfl, spoil_spoils fs path fault⟩

theorem copy_cases {fs after : FileSystem} {source target : String}
    {result : Except FileError Unit} (ran : (disk.copy source target).run fs = (result, after)) :
    (result = .ok () ∧ ∃ origin bytes place, fs.Denotes source origin ∧
      fs.fileAt? origin = some bytes ∧ fs.Denotes target place ∧
      fs.Writes after place (if origin = place then [] else bytes)) ∨
      ∃ cause, result = .error cause ∧ fs.Spoils after target := by
  rcases attempt_cases ran with ⟨changed, copied, rfl, rfl⟩ | ⟨cause, rfl, rfl | ⟨fault, rfl⟩⟩
  · obtain ⟨origin, bytes, place, denotes, held, aim, writes⟩ := duplicate_writes copied
    exact .inl ⟨rfl, origin, bytes, place, denotes, held, aim, writes.tick⟩
  · exact .inr ⟨cause, rfl, .inl (.tick fs)⟩
  · exact .inr ⟨cause, rfl, spoil_spoils fs target fault⟩

/-- An operation that leaves every file as it was. -/
def Harmless {α : Type} (operation : StateM FileSystem α) : Prop :=
  ∀ fs : FileSystem, fs.Keeps (operation.run fs).2

theorem harmless_pure {α : Type} (result : α) : Harmless (pure result) := .refl

theorem Harmless.bind {α β : Type} {operation : StateM FileSystem α}
    {next : α → StateM FileSystem β} (first : Harmless operation)
    (later : ∀ result, Harmless (next result)) : Harmless (operation >>= next) := by
  intro fs
  rcases ran : operation.run fs with ⟨result, middle⟩
  have kept := first fs
  rw [ran] at kept
  rw [run_bind ran]
  exact kept.trans (later result middle)

theorem harmless_ensureDirectory (path : String) : Harmless (ensureDirectory path) := by
  unfold ensureDirectory
  split
  · exact harmless_pure _
  · refine .bind ?_ ?_
    · intro fs
      rcases ran : (attempt (fun fs _ => fs) (·.makeDirectory (withoutSlashes path))).run fs with
        ⟨result, after⟩
      rcases attempt_cases ran with ⟨changed, made, rfl, rfl⟩ | ⟨cause, rfl, rfl | ⟨fault, rfl⟩⟩
      · exact (makeDirectory_keeps made).trans (.tick changed)
      · exact .tick fs
      · exact .tick fs
    · intro result
      cases result with
      | ok made => exact harmless_pure _
      | error cause =>
        refine .bind (fun fs => .refl fs) fun now => ?_
        split <;> exact harmless_pure _

/-- Making directories leaves every file as it was, also when not all of them can be made. -/
theorem harmless_makeDirectories (path : String) (above : List String) :
    Harmless (makeDirectories path above) := by
  induction above generalizing path with
  | nil => exact harmless_ensureDirectory path
  | cons parent rest ih =>
    refine .bind (harmless_ensureDirectory path) fun result => ?_
    split
    · refine .bind (ih parent) fun made => ?_
      cases made with
      | ok done => exact harmless_ensureDirectory path
      | error cause => exact harmless_pure _
    · exact harmless_pure _

theorem makeDirectories_keeps {fs after : FileSystem} {path : String}
    {result : Except FileError Unit}
    (ran : (disk.makeDirectories path).run fs = (result, after)) : fs.Keeps after := by
  have keeps := harmless_makeDirectories path (Path.parents path) fs
  change fs.Keeps ((disk.makeDirectories path).run fs).2 at keeps
  rwa [ran] at keeps

/-! ### Reading -/

theorem content_eq_ok {fs : FileSystem} {path : String} {bytes : List UInt8}
    (read : fs.content path = .ok bytes) :
    ∃ place, fs.Denotes path place ∧ fs.fileAt? place = some bytes := by
  obtain ⟨node, found, read⟩ := bind_eq_ok read
  cases node with
  | file held =>
    cases read
    exact exists_file_of_node found
  | directory entries => cases read
  | link target => cases read

theorem content_of_fileAt? {fs : FileSystem} {path : String} {place : List FileName}
    {bytes : List UInt8} (denotes : fs.Denotes path place)
    (held : fs.fileAt? place = some bytes) : fs.content path = .ok bytes := by
  have found : fs.root.find? place = some (.file bytes) := FileNode.fileAt?_eq_some_iff.mp held
  have located : fs.locate true path = .ok place := denotes
  simp [content, node, located, found, FileNode.find?, bind, Except.bind]

/-- A file is reported as missing only where there is nothing. -/
theorem not_isPresent_of_content {fs : FileSystem} {path : String}
    (missing : fs.content path = .error .notFound) : ¬ fs.isPresent path := by
  intro present
  obtain ⟨place, denotes, filled⟩ := isPresent_iff.mp present
  obtain ⟨node, found⟩ : ∃ node, fs.root.find? place = some node := by
    cases found : fs.root.find? place with
    | none => simp [FileNode.shapeAt?, found] at filled
    | some node => exact ⟨node, rfl⟩
  have located : fs.locate true path = .ok place := denotes
  cases node <;>
    simp [content, FileSystem.node, located, found, FileNode.find?, bind, Except.bind] at missing

/-- The next operation is made to report something as missing, whether it is or not. -/
def Overlooks (fs : FileSystem) : Prop :=
  ∃ fault, fs.faults fs.clock = some fault ∧ fault.cause = .notFound

theorem readText_cases {fs after : FileSystem} {path : String}
    {result : Except FileError (List Char)} (ran : (disk.readText path).run fs = (result, after)) :
    after = fs.tick ∧
      ((∃ place bytes text, fs.Denotes path place ∧ fs.fileAt? place = some bytes ∧
          Text.decode? bytes = some text ∧ result = .ok text) ∨
        ∃ cause, result = .error cause ∧
          (cause = .notFound → ¬ fs.isPresent path ∨ fs.Overlooks)) := by
  rcases read : (disk.read path).run fs with ⟨bytes, next⟩
  unfold Disk.readText at ran
  rw [run_bind read] at ran
  change readFile path fs = (bytes, next) at read
  unfold readFile at read
  cases planned : fs.faults fs.clock with
  | some fault =>
    rw [planned] at read
    cases read
    cases ran
    exact ⟨rfl, .inr ⟨_, rfl, fun missing => .inr ⟨fault, planned, missing⟩⟩⟩
  | none =>
    rw [planned] at read
    cases read
    cases held : fs.content path with
    | error cause =>
      rw [held] at ran
      cases ran
      refine ⟨rfl, .inr ⟨cause, rfl, ?_⟩⟩
      rintro rfl
      exact .inl (not_isPresent_of_content held)
    | ok bytes =>
      obtain ⟨place, denotes, here⟩ := content_eq_ok held
      rw [held] at ran
      dsimp only at ran
      cases decoded : Text.decode? bytes with
      | none =>
        rw [decoded] at ran
        cases ran
        exact ⟨rfl, .inr ⟨.notUtf8, rfl, fun missing => by cases missing⟩⟩
      | some text =>
        rw [decoded] at ran
        cases ran
        exact ⟨rfl, .inl ⟨place, bytes, text, denotes, here, decoded, rfl⟩⟩

end PageWiring.FileSystem
