import Mathlib.Data.List.TakeWhile
import Mathlib.Tactic.IntervalCases
import PageWiring.Proofs.BackupPaths

/-!
The names of files, and the paths that are made of them.

A name is a sequence of bytes. One that is the bytes of a text is shown as that text, so a path over
such names has them as its components. What follows the last dot of a name is its extension.
-/
namespace PageWiring

namespace Text

/-! ### Texts in bytes -/

theorem announced_of_two {n : Nat} (above : 0xC2 ≤ n) (below : n ≤ 0xDF) :
    announced (UInt8.ofNat n) = some { value := n - 0xC0, missing := 1 } := by
  interval_cases n <;> rfl

theorem announced_of_three {n : Nat} (above : 0xE0 ≤ n) (below : n ≤ 0xEF) :
    announced (UInt8.ofNat n) = some
      { value := n - 0xE0, missing := 2, low := if n = 0xE0 then 0xA0 else 0x80,
        high := if n = 0xED then 0x9F else 0xBF } := by
  interval_cases n <;> rfl

theorem announced_of_four {n : Nat} (above : 0xF0 ≤ n) (below : n ≤ 0xF4) :
    announced (UInt8.ofNat n) = some
      { value := n - 0xF0, missing := 3, low := if n = 0xF0 then 0x90 else 0x80,
        high := if n = 0xF4 then 0x8F else 0xBF } := by
  interval_cases n <;> rfl

section Bytes

variable {n : Nat} (byte : n < 256) (bs : List UInt8)
include byte

theorem decodePieces_announced (long : 0x80 ≤ n) {u : Unfinished}
    (first : announced (UInt8.ofNat n) = some u) :
    decodePieces none (UInt8.ofNat n :: bs) = decodePieces (some u) bs := by
  have long : ¬ UInt8.ofNat n < 0x80 := by
    rw [UInt8.lt_iff_toNat_lt, UInt8.toNat_ofNat_of_lt' byte]
    exact Nat.not_lt.mpr long
  simp [decodePieces, long, first]

variable {value : Nat} {low high : UInt8} (above : low.toNat ≤ n) (below : n ≤ high.toNat)
include above below

theorem inside_of_toNat : low ≤ UInt8.ofNat n ∧ UInt8.ofNat n ≤ high := by
  rw [UInt8.le_iff_toNat_le, UInt8.le_iff_toNat_le, UInt8.toNat_ofNat_of_lt' byte]
  exact ⟨above, below⟩

/-- A byte inside the bounds goes on with a character, -/
theorem decodePieces_more {missing : Nat} :
    decodePieces (some ⟨value, missing + 2, low, high⟩) (UInt8.ofNat n :: bs) =
      decodePieces (some { value := value * 64 + (n - 0x80), missing := missing + 1 }) bs := by
  simp [decodePieces, inside_of_toNat byte above below, UInt8.toNat_ofNat_of_lt' byte]

/-- or ends it. -/
theorem decodePieces_last :
    decodePieces (some ⟨value, 1, low, high⟩) (UInt8.ofNat n :: bs) =
      some (Char.ofNat (value * 64 + (n - 0x80))) :: decodePieces none bs := by
  simp [decodePieces, inside_of_toNat byte above below, UInt8.toNat_ofNat_of_lt' byte]

end Bytes

/-- The bytes of a character are read as this character. -/
theorem decodePieces_char (c : Char) (bs : List UInt8) :
    decodePieces none (String.utf8EncodeChar c ++ bs) = some c :: decodePieces none bs := by
  have whole : Char.ofNat c.val.toNat = c := Char.ofNat_toNat c
  have valid : c.val.toNat < 0xD800 ∨ 0xDFFF < c.val.toNat ∧ c.val.toNat < 0x110000 := c.valid
  unfold String.utf8EncodeChar
  generalize c.val.toNat = v at whole valid
  -- a byte that goes on holds six bits
  have six (w : Nat) : w % 64 + 128 < 256 ∧ (0x80 : UInt8).toNat ≤ w % 64 + 128 ∧
      w % 64 + 128 ≤ (0xBF : UInt8).toNat := by
    simp only [UInt8.reduceToNat]
    omega
  dsimp only
  split
  · have byte : (UInt8.ofNat v).toNat = v :=
      UInt8.toNat_ofNat_of_lt' (Nat.lt_of_le_of_lt ‹_› (by decide))
    have short : UInt8.ofNat v < 0x80 := by
      rw [UInt8.lt_iff_toNat_lt, byte]
      simp only [UInt8.reduceToNat]
      omega
    simp [decodePieces, short, byte, whole]
  split
  · have first := @announced_of_two (v / 64 % 32 + 192) (by omega) (by omega)
    have value : (v / 64 % 32 + 192 - 0xC0) * 64 + (v % 64 + 128 - 0x80) = v := by omega
    obtain ⟨byte, above, below⟩ := six v
    simp only [List.cons_append, List.nil_append]
    rw [decodePieces_announced (by omega) _ (by omega) first, decodePieces_last byte _ above below,
      value, whole]
  split
  · have first := @announced_of_three (v / 4096 % 16 + 224) (by omega) (by omega)
    have value : ((v / 4096 % 16 + 224 - 0xE0) * 64 + (v / 64 % 64 + 128 - 0x80)) * 64 +
        (v % 64 + 128 - 0x80) = v := by
      omega
    obtain ⟨byte, above, below⟩ := six v
    simp only [List.cons_append, List.nil_append]
    rw [decodePieces_announced (by omega) _ (by omega) first,
      decodePieces_more (by omega) _ (by split <;> simp only [UInt8.reduceToNat] <;> omega)
        (by split <;> simp only [UInt8.reduceToNat] <;> omega),
      decodePieces_last byte _ above below, value, whole]
  · have first := @announced_of_four (v / 262144 % 8 + 240) (by omega) (by omega)
    have value : (((v / 262144 % 8 + 240 - 0xF0) * 64 + (v / 4096 % 64 + 128 - 0x80)) * 64 +
        (v / 64 % 64 + 128 - 0x80)) * 64 + (v % 64 + 128 - 0x80) = v := by
      omega
    obtain ⟨byte, above, below⟩ := six v
    obtain ⟨byte', above', below'⟩ := six (v / 64)
    simp only [List.cons_append, List.nil_append]
    rw [decodePieces_announced (by omega) _ (by omega) first,
      decodePieces_more (by omega) _ (by split <;> simp only [UInt8.reduceToNat] <;> omega)
        (by split <;> simp only [UInt8.reduceToNat] <;> omega),
      decodePieces_more byte' _ above' below', decodePieces_last byte _ above below, value, whole]

/-- The bytes of a text are read as this text. -/
theorem decodePieces_encode (cs : List Char) : decodePieces none (encode cs) = cs.map some := by
  induction cs with
  | nil => rfl
  | cons c cs ih =>
    have split : encode (c :: cs) = String.utf8EncodeChar c ++ encode cs := List.flatMap_cons
    rw [split, decodePieces_char, ih, List.map_cons]

/-- The bytes below 128 stand for the characters with these codes, and for nothing else. -/
theorem toNat_of_mem_utf8EncodeChar {c : Char} {b : UInt8} (member : b ∈ String.utf8EncodeChar c)
    (short : b.toNat < 128) : c.toNat = b.toNat := by
  have other {n : Nat} (byte : n < 256) (long : 128 ≤ n) : b ≠ UInt8.ofNat n := by
    rintro rfl
    rw [UInt8.toNat_ofNat_of_lt' byte] at short
    omega
  unfold String.utf8EncodeChar at member
  dsimp only at member
  split at member
  · next ascii =>
    rw [List.mem_singleton.mp member,
      UInt8.toNat_ofNat_of_lt' (Nat.lt_of_le_of_lt ascii (by decide))]
    rfl
  · exfalso
    split at member
    · simp only [List.mem_cons, List.not_mem_nil, or_false] at member
      rcases member with same | same <;> exact other (by omega) (by omega) same
    split at member
    · simp only [List.mem_cons, List.not_mem_nil, or_false] at member
      rcases member with same | same | same <;> exact other (by omega) (by omega) same
    · simp only [List.mem_cons, List.not_mem_nil, or_false] at member
      rcases member with same | same | same | same <;> exact other (by omega) (by omega) same

theorem decodeLossy_encode (cs : List Char) : decodeLossy (encode cs) = cs := by
  simp [decodeLossy, decodePieces_encode, Function.comp_def]

end Text

/-! ### Names -/

namespace FileName

theorem shown_ofText (text : String) : (ofText text).shown = text := by
  rw [shown, ofText, Text.decodeLossy_encode, String.ofList_toList]

/-- What an entry of a directory can be called. -/
def IsProper (name : FileName) : Prop :=
  name ≠ "" ∧ name ≠ "." ∧ name ≠ ".." ∧ Glob.separator ∉ name.bytes

instance (name : FileName) : Decidable name.IsProper :=
  inferInstanceAs (Decidable (_ ∧ _ ∧ _ ∧ _))

theorem IsProper.isName {text : String} (proper : (ofText text).IsProper) : Path.IsName text := by
  obtain ⟨filled, current, parent, plain⟩ := proper
  refine ⟨mt (congrArg ofText) filled, mt (congrArg ofText) current,
    mt (congrArg ofText) parent, ?_⟩
  intro slash
  exact plain (List.mem_flatMap.mpr ⟨'/', slash, List.mem_singleton_self _⟩)

/-- An extension is what follows the last dot of a name, unless nothing precedes that dot. -/
def HasExtension (name ext : FileName) : Prop :=
  ∃ stem, stem ≠ [] ∧ dot ∉ ext.bytes ∧ name.bytes = stem ++ dot :: ext.bytes

theorem extension?_eq_some_iff {name ext : FileName} :
    name.extension? = some ext ↔ name.HasExtension ext := by
  have parts := List.takeWhile_append_dropWhile (p := (· != dot)) (l := name.bytes.reverse)
  constructor
  · intro found
    unfold extension? at found
    split at found
    · next mark last rest behind =>
      obtain rfl := Option.some.inj found
      have marked : mark = dot := by
        have := List.head?_dropWhile_not (· != dot) name.bytes.reverse
        simpa [behind] using this
      refine ⟨(last :: rest).reverse, by simp, ?_, ?_⟩
      · intro member
        have := List.mem_takeWhile_imp (List.mem_reverse.mp member)
        simp at this
      · rw [behind, marked] at parts
        simpa using (congrArg List.reverse parts).symm
    · cases found
  · rintro ⟨stem, filled, plain, split⟩
    have reversed : name.bytes.reverse = ext.bytes.reverse ++ dot :: stem.reverse := by
      simp [split]
    have passed : ∀ b ∈ ext.bytes.reverse, (b != dot) = true := by
      intro b member
      simpa using fun same : b = dot => plain (same ▸ List.mem_reverse.mp member)
    obtain ⟨last, rest, stemmed⟩ := List.exists_cons_of_ne_nil
      (mt List.reverse_eq_nil_iff.mp filled)
    rw [extension?, reversed, List.dropWhile_append_of_pos passed,
      List.takeWhile_append_of_pos passed, stemmed]
    simp

end FileName

/-! ### Components of paths -/

namespace Path

/-- The path that leads on from another one over some names. -/
def below (base : String) (names : List String) : String := names.foldl join base

theorem componentOf_name {name : String} (named : IsName name) (isStart : Bool) :
    componentOf isStart name.toList = some (.name name) := by
  obtain ⟨filled, current, parent, -⟩ := named
  have other {text : String} (different : name ≠ text) : name.toList ≠ text.toList :=
    fun same => different (String.toList_inj.mp same)
  have filled : name.toList ≠ [] := other filled
  have current : name.toList ≠ ['.'] := other current
  have parent : name.toList ≠ ['.', '.'] := other parent
  simp [componentOf, filled, current, parent]

/-- A piece behind others adds the component that it stands for. -/
theorem map_componentsFrom_append (position : Nat) (isStart : Bool) (front : List (List Char))
    (piece : List Char) :
    (componentsFrom position isStart (front ++ [piece])).map (·.1) =
      (componentsFrom position isStart front).map (·.1) ++
        (componentOf (isStart && front.isEmpty) piece).toList := by
  induction front generalizing position isStart with
  | nil => cases counted : componentOf isStart piece <;> simp [componentsFrom, counted]
  | cons first front ih => simp [componentsFrom, ih]

/-- The components that the pieces between the slashes of a path stand for. -/
def ofPieces (absolute : Bool) (pieces : List (List Char)) : List Component :=
  if absolute then .root :: (componentsFrom 1 false (pieces.drop 1)).map (·.1)
  else (componentsFrom 0 true pieces).map (·.1)

theorem components_eq_ofPieces (path : String) :
    components path = ofPieces (isAbsolute path) (Text.splitAt '/' path.toList) := by
  unfold components marked ofPieces
  split <;> simp

theorem ofPieces_append (absolute : Bool) {front : List (List Char)} (filled : front ≠ [])
    (piece : List Char) : ofPieces absolute (front ++ [piece]) =
      ofPieces absolute front ++ (componentOf false piece).toList := by
  have later : front.isEmpty = false := List.isEmpty_eq_false_iff.mpr filled
  unfold ofPieces
  cases absolute with
  | true =>
    have start : (front ++ [piece]).drop 1 = front.drop 1 ++ [piece] :=
      List.drop_append_of_le_length (List.length_pos_iff.mpr filled)
    rw [start, if_pos rfl, if_pos rfl, map_componentsFrom_append, List.cons_append, Bool.false_and]
  | false =>
    rw [if_neg Bool.false_ne_true, if_neg Bool.false_ne_true, map_componentsFrom_append, later,
      Bool.true_and]

/-- A name that is joined to a path is the last component. -/
theorem components_join (base : String) {name : String} (named : IsName name) :
    components (join base name) = components base ++ [.name name] := by
  have relative := named.isAbsolute_eq_false
  have plain := named.2.2.2
  have last := componentOf_name named
  rw [components_eq_ofPieces, components_eq_ofPieces, isAbsolute_join base named]
  unfold join
  by_cases empty : base.isEmpty = true
  · obtain rfl := String.isEmpty_iff.mp empty
    rw [if_pos (by simp), Text.splitAt_plain plain]
    show ofPieces false ([] ++ [name.toList]) = [] ++ [.name name]
    rw [ofPieces, if_neg Bool.false_ne_true, map_componentsFrom_append, last]
    rfl
  rw [if_neg (by simp [relative, empty])]
  by_cases slash : (base.toList.getLast? == some '/') = true
  · obtain ⟨front, split⟩ := List.getLast?_eq_some_iff.mp (beq_iff_eq.mp slash)
    have pieces := Text.splitAt_append '/' front plain
    have blank := Text.splitAt_append '/' front List.not_mem_nil
    have filled : Text.splitAt '/' front ≠ [] := Text.splitWhere_ne_nil _ front
    rw [if_pos slash, String.toList_append, split, blank, List.append_assoc,
      List.singleton_append, pieces, ofPieces_append _ filled, ofPieces_append _ filled, last]
    simp [componentOf]
  · have pieces := Text.splitAt_append '/' base.toList plain
    have filled : Text.splitAt '/' base.toList ≠ [] := Text.splitWhere_ne_nil _ base.toList
    rw [if_neg slash, String.toList_append, String.toList_append, List.append_assoc]
    show ofPieces _ (Text.splitAt '/' (base.toList ++ '/' :: name.toList)) = _
    rw [pieces, ofPieces_append _ filled, last]
    rfl

theorem components_below (base : String) {names : List String} (named : ∀ n ∈ names, IsName n) :
    components (below base names) = components base ++ names.map .name := by
  induction names generalizing base with
  | nil => simp [below]
  | cons name rest ih =>
    have first := components_join base (named name List.mem_cons_self)
    have later := ih (join base name) fun n member => named n (List.mem_cons_of_mem name member)
    simpa [below, first] using later

end Path

/-- Names that are texts are shown as they are. -/
theorem DiskPath.shown_ofText (base : String) (texts : List String) :
    (DiskPath.mk base (texts.map FileName.ofText)).shown = Path.below base texts := by
  simp only [shown, List.foldl_map, FileName.shown_ofText]
  rfl

end PageWiring
