import Mathlib.Data.List.Induction
import PageWiring.Proofs.PageRecords

/-!
Which form a tag belongs to.

Tags need not be balanced: forms may be nested, may never end, and may end without having begun.
A form is open as long as nowhere behind its tag more forms have ended than begun, and a tag belongs
to the form that began last of those that are open. The collection follows this with a stack of
positions, and what it records of each form is what its own tags say.
-/
namespace PageWiring.Markup

namespace Event

def beginsForm (e : Event) : Bool :=
  match e.kind with
  | .startTag t => t.name == "form"
  | _ => false

def endsForm (e : Event) : Bool :=
  match e.kind with
  | .endTag name => name == "form"
  | _ => false

def tag? (e : Event) : Option Tag :=
  match e.kind with
  | .startTag t => some t
  | _ => none

theorem not_endsForm_of_beginsForm {e : Event} (begins : e.beginsForm) : e.endsForm = false := by
  unfold beginsForm at begins
  unfold endsForm
  cases kind : e.kind <;> simp_all

end Event

/-! ### Open forms -/

/-- Nowhere in a stretch have more forms ended than begun. -/
def StaysOpen (behind : List Event) : Prop :=
  ∀ size, (behind.take size).countP Event.endsForm ≤ (behind.take size).countP Event.beginsForm

/-- The `n`-th form, counted from zero, is open after some events. -/
def OpenForm (before : List Event) (n : Nat) : Prop :=
  ∃ outer opening behind, before = outer ++ opening :: behind ∧ opening.beginsForm ∧
    outer.countP Event.beginsForm = n ∧ StaysOpen behind

/-- The `n`-th form is the one that began last of those that are open. -/
def Innermost (before : List Event) (n : Nat) : Prop :=
  OpenForm before n ∧ ∀ other, OpenForm before other → other ≤ n

namespace StaysOpen

variable {a b : List Event}

theorem append (first : StaysOpen a) (second : StaysOpen b) : StaysOpen (a ++ b) := by
  intro size
  have left := first size
  have right := second (size - a.length)
  rw [List.take_append, List.countP_append, List.countP_append]
  omega

theorem of_append (stays : StaysOpen (a ++ b)) : StaysOpen a := by
  intro size
  have shorter := stays (min size a.length)
  rwa [List.take_append_of_le_length (Nat.min_le_right _ _), ← List.take_eq_take_min] at shorter

theorem countP_le (stays : StaysOpen a) : a.countP Event.endsForm ≤ a.countP Event.beginsForm := by
  simpa using stays a.length

end StaysOpen

theorem staysOpen_singleton {e : Event} (goesOn : e.endsForm = false) : StaysOpen [e] := by
  intro size
  cases size <;> simp [goesOn]

/-- Every form that begins in the stretch ends in it, and none else. -/
structure Balanced (stretch : List Event) : Prop where
  stays : StaysOpen stretch
  level : stretch.countP Event.beginsForm = stretch.countP Event.endsForm

namespace Balanced

variable {a b : List Event}

theorem nil : Balanced [] := ⟨fun _ => by simp, rfl⟩

theorem append (first : Balanced a) (second : Balanced b) : Balanced (a ++ b) := by
  refine ⟨first.stays.append second.stays, ?_⟩
  rw [List.countP_append, List.countP_append, first.level, second.level]

theorem singleton {e : Event} (begins : e.beginsForm = false) (ends : e.endsForm = false) :
    Balanced [e] :=
  ⟨staysOpen_singleton ends, by simp [begins, ends]⟩

/-- A form with balanced content. -/
theorem form (inner : Balanced a) {opening closing : Event} (begins : opening.beginsForm)
    (ends : closing.endsForm) : Balanced (opening :: a ++ [closing]) := by
  have goesOn := Event.not_endsForm_of_beginsForm begins
  have stopsNone : closing.beginsForm = false := by
    rw [← Bool.not_eq_true]
    intro both
    simp [Event.not_endsForm_of_beginsForm both] at ends
  refine ⟨fun size => ?_, ?_⟩
  · cases size with
    | zero => simp
    | succ size =>
      have upTo := inner.stays size
      rw [List.cons_append, List.take_succ_cons, List.take_append, List.countP_cons,
        List.countP_cons, List.countP_append, List.countP_append, begins, goesOn]
      have last : ([closing].take (size - a.length)).countP Event.endsForm ≤ 1 :=
        Nat.le_trans List.countP_le_length (List.length_take_le' _ _)
      simp only [if_true, Bool.false_eq_true, if_false]
      omega
  · simp [inner.level, begins, goesOn, ends, stopsNone]

/-- No form that begins in a balanced stretch is open behind it. -/
theorem not_staysOpen {opening : Event} (balanced : Balanced (a ++ opening :: b))
    (begins : opening.beginsForm) : ¬ StaysOpen b := by
  intro stays
  have front := balanced.stays.of_append.countP_le
  have back := stays.countP_le
  have level := balanced.level
  simp only [List.countP_append, List.countP_cons, begins, if_true,
    Event.not_endsForm_of_beginsForm begins, Bool.false_eq_true, if_false] at level
  omega

end Balanced

/-! ### The stack of open forms -/

/-- A form that is open behind two stretches began in one of them. -/
theorem OpenForm.of_append {a b : List Event} {n : Nat} (isOpen : OpenForm (a ++ b) n) :
    OpenForm a n ∨ ∃ outer opening behind, b = outer ++ opening :: behind ∧ opening.beginsForm ∧
      a.countP Event.beginsForm + outer.countP Event.beginsForm = n ∧ StaysOpen behind := by
  obtain ⟨outer, opening, behind, split, begins, counted, stays⟩ := isOpen
  rcases List.append_eq_append_iff.mp split with ⟨front, rfl, rfl⟩ | ⟨front, rfl, rest⟩
  · exact .inr ⟨front, opening, behind, rfl, begins, by rw [← counted, List.countP_append], stays⟩
  · cases front with
    | nil =>
      refine .inr ⟨[], opening, behind, by simpa using rest.symm, begins, ?_, stays⟩
      simpa using counted
    | cons first front =>
      obtain ⟨rfl, rfl⟩ := List.cons.inj rest
      exact .inl ⟨outer, opening, front, rfl, begins, counted, stays.of_append⟩

theorem OpenForm.append {a b : List Event} {n : Nat} (isOpen : OpenForm a n) (stays : StaysOpen b) :
    OpenForm (a ++ b) n := by
  obtain ⟨outer, opening, behind, rfl, begins, counted, before⟩ := isOpen
  exact ⟨outer, opening, behind ++ b, by simp, begins, counted, before.append stays⟩

theorem OpenForm.lt_countP {before : List Event} {n : Nat} (isOpen : OpenForm before n) :
    n < before.countP Event.beginsForm := by
  obtain ⟨outer, opening, behind, rfl, begins, rfl, -⟩ := isOpen
  simp only [List.countP_append, List.countP_cons, begins, if_true]
  omega

/-- The open forms after some events, the innermost first: behind the tag of each of them everything
is balanced up to the tag of the next one. -/
inductive Stacked : List Event → List Nat → Prop where
  | none {before : List Event} (closed : ∀ n, ¬ OpenForm before n) : Stacked before []
  | form {outer : List Event} {opening : Event} {behind : List Event} {stack : List Nat}
      (above : Stacked outer stack) (begins : opening.beginsForm) (balanced : Balanced behind) :
      Stacked (outer ++ opening :: behind) (outer.countP Event.beginsForm :: stack)

namespace Stacked

variable {before block : List Event} {stack : List Nat} {e : Event}

theorem mem_iff (stacked : Stacked before stack) {n : Nat} : n ∈ stack ↔ OpenForm before n := by
  induction stacked with
  | none closed => simp [closed n]
  | @form outer opening behind stack above begins balanced ih =>
    rw [List.mem_cons, ih]
    constructor
    · rintro (rfl | isOpen)
      · exact ⟨outer, opening, behind, rfl, begins, rfl, balanced.stays⟩
      · have goesOn := staysOpen_singleton (Event.not_endsForm_of_beginsForm begins)
        exact isOpen.append (goesOn.append balanced.stays)
    · intro isOpen
      rcases isOpen.of_append with there | ⟨front, first, rest, split, starts, counted, stays⟩
      · exact .inr there
      · cases front with
        | nil => exact .inl (by simpa using counted.symm)
        | cons same front =>
          obtain ⟨-, rfl⟩ := List.cons.inj split
          exact absurd stays (balanced.not_staysOpen starts)

theorem pairwise (stacked : Stacked before stack) : stack.Pairwise (· > ·) := by
  induction stacked with
  | none closed => exact .nil
  | form above begins balanced ih =>
    exact .cons (fun n member => (above.mem_iff.mp member).lt_countP) ih

/-- The innermost open form is the first of the stack. -/
theorem innermost_iff (stacked : Stacked before stack) {n : Nat} :
    Innermost before n ↔ stack.head? = some n := by
  unfold Innermost
  simp only [← stacked.mem_iff]
  have ordered := stacked.pairwise
  cases stack with
  | nil => simp
  | cons first rest =>
    have below := (List.pairwise_cons.mp ordered).1
    simp only [List.mem_cons, List.head?_cons, Option.some.injEq]
    constructor
    · rintro ⟨rfl | member, greatest⟩
      · rfl
      · have := below n member
        have := greatest first (.inl rfl)
        omega
    · rintro rfl
      refine ⟨.inl rfl, ?_⟩
      rintro other (rfl | member)
      · exact Nat.le_refl _
      · exact Nat.le_of_lt (below other member)

/-- What is balanced leaves the open forms as they are. -/
theorem append (stacked : Stacked before stack) (balanced : Balanced block) :
    Stacked (before ++ block) stack := by
  cases stacked with
  | none closed =>
    refine .none fun n isOpen => ?_
    rcases isOpen.of_append with there | ⟨outer, opening, behind, rfl, begins, -, stays⟩
    · exact closed n there
    · exact balanced.not_staysOpen begins stays
  | form above begins inner =>
    rw [List.append_assoc, List.cons_append]
    exact .form above begins (inner.append balanced)

theorem begin (stacked : Stacked before stack) (begins : e.beginsForm) :
    Stacked (before ++ [e]) (before.countP Event.beginsForm :: stack) :=
  .form stacked begins .nil

/-- The end of a form closes the innermost one, and does nothing where none is open. -/
theorem drop (stacked : Stacked before stack) (ends : e.endsForm) :
    Stacked (before ++ [e]) (stack.drop 1) := by
  cases stacked with
  | none closed =>
    refine .none fun n isOpen => ?_
    rcases isOpen.of_append with there | ⟨outer, opening, behind, split, begins, -, -⟩
    · exact closed n there
    · obtain rfl : opening = e := by
        have member : opening ∈ [e] := split ▸ List.mem_append_right _ List.mem_cons_self
        exact List.mem_singleton.mp member
      simp [Event.not_endsForm_of_beginsForm begins] at ends
  | form above begins inner =>
    rw [List.append_assoc]
    exact above.append (inner.form begins ends)

end Stacked

/-! ### What tags add to forms -/

namespace Tag

/-- The element that a label is for. -/
def target? (t : Tag) : Option String := if t.name == "label" then t.trimmed? "for" else none

/-- A form with what a tag of its own says. -/
def addTo (t : Tag) (f : Form) : Form :=
  { f with
    labelTargets := f.labelTargets ++ t.target?.toList
    hasSubmit := f.hasSubmit || t.submits }

theorem target?_eq_none {t : Tag} (other : t.name ≠ "label") : t.target? = none := by
  simp [target?, other]

theorem submits_eq_false {t : Tag} (button : t.name ≠ "button") (input : t.name ≠ "input") :
    t.submits = false := by
  simp [submits, button, input]

theorem addTo_eq_self {t : Tag} (target : t.target? = none) (submits : t.submits = false) :
    t.addTo = id := by
  funext f
  simp [addTo, target, submits]

end Tag

/-- A form with what an event says, if the event is a tag. -/
def Event.addTo (e : Event) (f : Form) : Form := e.tag?.elim f fun t => t.addTo f

namespace Collection

variable {c : Collection} {e : Event}

theorem onInnermostForm_id (c : Collection) : c.onInnermostForm id = c := by
  unfold onInnermostForm
  split <;> simp

theorem getElem?_onInnermostForm (c : Collection) (f : Form → Form) (n : Nat) :
    (c.onInnermostForm f).forms[n]? =
      if c.openForms.head? = some n then c.forms[n]?.map f else c.forms[n]? := by
  unfold onInnermostForm
  cases stack : c.openForms with
  | nil => simp
  | cons position rest =>
    simp only [List.getElem?_modify, List.head?_cons, Option.some.injEq]
    split <;> simp

@[simp] theorem openForms_onInnermostForm (c : Collection) (f : Form → Form) :
    (c.onInnermostForm f).openForms = c.openForms := by
  unfold onInnermostForm
  split <;> rfl

/-- A tag that begins no form adds what it says to the innermost form. -/
theorem trackForm_eq (c : Collection) {t : Tag} (other : t.name ≠ "form") (id : Option String)
    (line : Nat) : c.trackForm t id line = c.onInnermostForm t.addTo := by
  unfold trackForm
  rw [if_neg (by simpa using other)]
  by_cases label : t.name = "label"
  · have submits : t.submits = false := Tag.submits_eq_false (by simp [label]) (by simp [label])
    rw [if_pos (by simpa using label)]
    cases found : t.trimmed? "for" with
    | none =>
      rw [Tag.addTo_eq_self (by simp [Tag.target?, label, found]) submits, onInnermostForm_id]
    | some target =>
      dsimp only
      congr 1
      funext f
      simp [Tag.addTo, Tag.target?, label, found, submits]
  · have target := Tag.target?_eq_none label
    rw [if_neg (by simpa using label)]
    cases submits : t.submits with
    | false => rw [Tag.addTo_eq_self target submits, onInnermostForm_id]; rfl
    | true =>
      rw [if_pos rfl]
      congr 1
      funext f
      simp [Tag.addTo, target, submits]

/-- A start tag is located, its own records are made, and then forms are seen to. -/
theorem exists_startTag_eq (c : Collection) (t : Tag) (read : Nat) : ∃ locator elements line,
    c.startTag t read =
      trackForm { c with locator := locator, elements := elements } t (t.trimmed? "id") line :=
  ⟨_, _, _, rfl⟩

/-- A form that begins gets a record of its own behind the others, and becomes the innermost. -/
theorem event_of_beginsForm (c : Collection) (begins : e.beginsForm) :
    (c.event e).openForms = c.forms.length :: c.openForms ∧
      ∃ form, (c.event e).forms = c.forms ++ [form] ∧ form.labelTargets = [] ∧
        form.hasSubmit = false := by
  unfold Event.beginsForm at begins
  cases kind : e.kind with
  | startTag t =>
    have named : (t.name == "form") = true := by simpa [kind] using begins
    obtain ⟨locator, elements, line, same⟩ := c.exists_startTag_eq t e.line
    rw [event, kind]
    dsimp only
    rw [same, trackForm, if_pos named]
    exact ⟨rfl, _, rfl, rfl, rfl⟩
  | endTag name | comment | fault cause => simp [kind] at begins

/-- Any other event leaves all records but that of the innermost form alone. -/
theorem event_of_not_beginsForm (c : Collection) (goesOn : e.beginsForm = false) :
    (c.event e).openForms = (if e.endsForm then c.openForms.drop 1 else c.openForms) ∧
      (c.event e).forms = (c.onInnermostForm e.addTo).forms := by
  have unchanged (none : e.tag? = none) : (c.onInnermostForm e.addTo).forms = c.forms := by
    have same : e.addTo = id := by
      funext f
      simp [Event.addTo, none]
    rw [same, onInnermostForm_id]
  cases kind : e.kind with
  | startTag t =>
    have other : t.name ≠ "form" := by simpa [Event.beginsForm, kind] using goesOn
    have own : e.addTo = t.addTo := by
      funext f
      simp [Event.addTo, Event.tag?, kind]
    obtain ⟨locator, elements, line, same⟩ := c.exists_startTag_eq t e.line
    rw [event, kind]
    dsimp only
    rw [same, trackForm_eq _ other, openForms_onInnermostForm, own]
    refine ⟨by simp [Event.endsForm, kind], ?_⟩
    unfold onInnermostForm
    dsimp only
    split <;> rfl
  | endTag name =>
    rw [unchanged (by simp [Event.tag?, kind]), event, kind]
    exact ⟨by simp [Event.endsForm, kind, endTag], rfl⟩
  | comment | fault cause =>
    rw [unchanged (by simp [Event.tag?, kind]), event, kind]
    exact ⟨by simp [Event.endsForm, kind], rfl⟩

/-- What is collected of some events, where tags are looked for in a text. -/
def after (text : List Char) (es : List Event) : Collection :=
  es.foldl event ⟨.ofText text, {}, [], []⟩

theorem after_concat (text : List Char) (es : List Event) (e : Event) :
    after text (es ++ [e]) = (after text es).event e := by
  rw [after, List.foldl_append]
  rfl

/-- The positions that are kept are those of the open forms. -/
theorem stacked_after (text : List Char) (es : List Event) :
    Stacked es (after text es).openForms ∧
      (after text es).forms.length = es.countP Event.beginsForm := by
  induction es using List.reverseRecOn with
  | nil =>
    refine ⟨.none fun n isOpen => ?_, rfl⟩
    simpa using isOpen.lt_countP
  | append_singleton es e ih =>
    obtain ⟨stacked, length⟩ := ih
    rw [after_concat, List.countP_append, List.countP_singleton]
    cases begins : e.beginsForm with
    | true =>
      obtain ⟨stack, form, forms, -, -⟩ := (after text es).event_of_beginsForm begins
      rw [stack, forms, length]
      exact ⟨stacked.begin begins, by simp [length]⟩
    | false =>
      obtain ⟨stack, forms⟩ := (after text es).event_of_not_beginsForm begins
      have kept : ((after text es).onInnermostForm e.addTo).forms.length =
          (after text es).forms.length := by
        unfold onInnermostForm
        split <;> simp
      rw [stack, forms, kept, length]
      refine ⟨?_, by simp⟩
      cases ends : e.endsForm with
      | true => exact stacked.drop ends
      | false => exact stacked.append (.singleton begins ends)

theorem innermost_iff (text : List Char) {es : List Event} {n : Nat} :
    Innermost es n ↔ (after text es).openForms.head? = some n :=
  (stacked_after text es).1.innermost_iff

end Collection

open Collection (after stacked_after after_concat)

instance (es : List Event) (n : Nat) : Decidable (Innermost es n) :=
  decidable_of_iff _ (Collection.innermost_iff []).symm

/-- If a form is open, exactly one is the innermost. -/
theorem existsUnique_innermost {es : List Event} {n : Nat} (isOpen : OpenForm es n) :
    ∃ innermost, Innermost es innermost ∧ ∀ other, Innermost es other → other = innermost := by
  have member := (stacked_after [] es).1.mem_iff.mpr isOpen
  simp only [Collection.innermost_iff []]
  cases stack : (after [] es).openForms with
  | nil => simp [stack] at member
  | cons first rest => simp

/-! ### The tags of a form -/

/-- The start tags among the events behind `earlier` that belong to the `n`-th form. -/
def tagsFrom (n : Nat) : List Event → List Event → List Tag
  | _, [] => []
  | earlier, e :: es =>
    (if Innermost earlier n then e.tag?.toList else []) ++ tagsFrom n (earlier ++ [e]) es

/-- The start tags of the `n`-th form: those before which it is the innermost open one. -/
def tagsIn (n : Nat) (es : List Event) : List Tag := tagsFrom n [] es

theorem tagsFrom_concat (n : Nat) (earlier es : List Event) (e : Event) :
    tagsFrom n earlier (es ++ [e]) =
      tagsFrom n earlier es ++ if Innermost (earlier ++ es) n then e.tag?.toList else [] := by
  induction es generalizing earlier with
  | nil => simp [tagsFrom]
  | cons first es ih =>
    rw [List.cons_append, tagsFrom, ih, tagsFrom, List.append_assoc, List.append_assoc]
    rfl

theorem tagsIn_concat (n : Nat) (es : List Event) (e : Event) :
    tagsIn n (es ++ [e]) = tagsIn n es ++ if Innermost es n then e.tag?.toList else [] :=
  tagsFrom_concat n [] es e

theorem mem_tagsIn_iff {n : Nat} {es : List Event} {t : Tag} :
    t ∈ tagsIn n es ↔ ∃ before line rest, es = before ++ ⟨.startTag t, line⟩ :: rest ∧
      Innermost before n := by
  induction es using List.reverseRecOn with
  | nil => simp [tagsIn, tagsFrom]
  | append_singleton es e ih =>
    rw [tagsIn_concat, List.mem_append, ih]
    constructor
    · rintro (⟨before, line, rest, rfl, innermost⟩ | last)
      · exact ⟨before, line, rest ++ [e], by simp, innermost⟩
      · split at last
        · next innermost =>
          obtain ⟨kind, line⟩ := e
          cases kind with
          | startTag own =>
            obtain rfl : t = own := by simpa [Event.tag?] using last
            exact ⟨es, line, [], rfl, innermost⟩
          | endTag name | comment | fault cause => simp [Event.tag?] at last
        · cases last
    · rintro ⟨before, line, rest, split, innermost⟩
      rcases List.eq_nil_or_concat rest with rfl | ⟨front, last, rfl⟩
      · right
        obtain ⟨rfl, last⟩ := List.append_inj' split rfl
        obtain ⟨rfl, -⟩ := List.cons.inj last
        simp [innermost, Event.tag?]
      · left
        rw [List.concat_eq_append, ← List.cons_append, ← List.append_assoc] at split
        obtain ⟨rfl, -⟩ := List.append_inj' split rfl
        exact ⟨before, line, front, rfl, innermost⟩

/-- No tag belongs to a form that has not begun. -/
theorem tagsIn_eq_nil {n : Nat} {es : List Event} (late : es.countP Event.beginsForm ≤ n) :
    tagsIn n es = [] := by
  refine List.eq_nil_iff_forall_not_mem.mpr fun t member => ?_
  obtain ⟨before, line, rest, rfl, innermost⟩ := mem_tagsIn_iff.mp member
  have earlier := innermost.1.lt_countP
  rw [List.countP_append] at late
  omega

namespace Collection

/-- The tag of a form is neither a label nor a control. -/
theorem tag?_of_beginsForm {e : Event} (begins : e.beginsForm) :
    ∃ t, e.tag? = some t ∧ t.target? = none ∧ t.submits = false := by
  cases kind : e.kind with
  | startTag t =>
    have named : t.name = "form" := by simpa [Event.beginsForm, kind] using begins
    exact ⟨t, by simp [Event.tag?, kind], Tag.target?_eq_none (by simp [named]),
      Tag.submits_eq_false (by simp [named]) (by simp [named])⟩
  | endTag name | comment | fault cause => simp [Event.beginsForm, kind] at begins

/-- Each record holds what the tags of its form say. -/
theorem contents_after (text : List Char) (es : List Event) {n : Nat} {form : Form}
    (recorded : (after text es).forms[n]? = some form) :
    form.labelTargets = (tagsIn n es).filterMap Tag.target? ∧
      form.hasSubmit = (tagsIn n es).any Tag.submits := by
  induction es using List.reverseRecOn generalizing form with
  | nil => simp [after] at recorded
  | append_singleton es e ih =>
    rw [after_concat] at recorded
    rw [tagsIn_concat, List.filterMap_append, List.any_append]
    cases begins : e.beginsForm with
    | true =>
      obtain ⟨t, own, target, control⟩ := tag?_of_beginsForm begins
      have silent : (if Innermost es n then e.tag?.toList else []).filterMap Tag.target? = [] ∧
          (if Innermost es n then e.tag?.toList else []).any Tag.submits = false := by
        split <;> simp [own, target, control]
      obtain ⟨-, added, forms, targets, submits⟩ := (after text es).event_of_beginsForm begins
      rw [silent.1, silent.2, List.append_nil, Bool.or_false]
      rw [forms, List.getElem?_append] at recorded
      split at recorded
      · exact ih recorded
      · next late =>
        rw [(stacked_after text es).2, Nat.not_lt] at late
        obtain rfl : form = added := List.mem_singleton.mp (List.mem_of_getElem? recorded)
        rw [tagsIn_eq_nil late]
        exact ⟨targets, submits⟩
    | false =>
      obtain ⟨-, forms⟩ := (after text es).event_of_not_beginsForm begins
      rw [forms, getElem?_onInnermostForm] at recorded
      split at recorded
      · next first =>
        have innermost := (innermost_iff text).mpr first
        obtain ⟨old, there, rfl⟩ := Option.map_eq_some_iff.mp recorded
        obtain ⟨targets, submits⟩ := ih there
        cases own : e.tag? with
        | none => simp [Event.addTo, own, targets, submits]
        | some t => cases target : t.target? <;>
            simp [Event.addTo, Tag.addTo, own, targets, submits, innermost, target]
      · next other =>
        have elsewhere := mt (innermost_iff text).mp other
        simpa [elsewhere] using ih recorded

/-- The record of a form keeps the place, the id and the line that it got when the form began. -/
theorem record_of_form (text : List Char) (outer behind : List Event) {t : Tag} (read : Nat)
    (named : t.name = "form") : ∃ form,
    (after text (outer ++ ⟨.startTag t, read⟩ :: behind)).forms[outer.countP Event.beginsForm]? =
        some form ∧
      form.elementId = t.trimmed? "id" ∧
      form.line = ((after text outer).locator.startTag t.name read).1 := by
  have length : (after text outer).outline.length = outer.countP Event.beginsForm := by
    rw [← (stacked_after text outer).2, outline, List.length_map]
  have begun : ((after text outer).event ⟨.startTag t, read⟩).outline =
      (after text outer).outline ++
        [(t.trimmed? "id", ((after text outer).locator.startTag t.name read).1)] := by
    have recorded := (forms_recordTag
      { after text outer with locator := ((after text outer).locator.startTag t.name read).2 } t
      ((after text outer).locator.startTag t.name read).1).1
    rwa [if_pos (beq_iff_eq.mpr named)] at recorded
  have listed : (after text (outer ++ ⟨.startTag t, read⟩ :: behind)).outline[
      outer.countP Event.beginsForm]? =
        some (t.trimmed? "id", ((after text outer).locator.startTag t.name read).1) := by
    rw [after, List.foldl_append, List.foldl_cons, ← after, (forms_foldl _ behind).1, begun,
      ← length]
    simp
  rw [outline, List.getElem?_map] at listed
  obtain ⟨form, there, same⟩ := Option.map_eq_some_iff.mp listed
  obtain ⟨own, line⟩ := Prod.mk.inj same
  exact ⟨form, there, own, line⟩

theorem forms_finish (text : List Char) (es : List Event) :
    (after text es).finish.forms = (after text es).forms := by
  have none : (after text es).elements.forms = [] :=
    (forms_foldl ⟨.ofText text, {}, [], []⟩ es).2
  rw [finish, handlers_foldl_addForm, none]
  rfl

/-- A label adds the element that it is for to the record of the innermost open form and to no
other, and where no form is open to none. -/
theorem forms_label (text : List Char) (before : List Event) {t : Tag} (line : Nat)
    {target : String} (label : t.name = "label") (found : t.trimmed? "for" = some target) :
    (∀ n, Innermost before n → (after text (before ++ [⟨.startTag t, line⟩])).forms =
      (after text before).forms.modify n
        fun f => { f with labelTargets := f.labelTargets ++ [target] }) ∧
    ((∀ n, ¬ OpenForm before n) →
      (after text (before ++ [⟨.startTag t, line⟩])).forms = (after text before).forms) := by
  have begins : Event.beginsForm ⟨.startTag t, line⟩ = false := by simp [Event.beginsForm, label]
  have own : Event.addTo ⟨.startTag t, line⟩ =
      fun f => { f with labelTargets := f.labelTargets ++ [target] } := by
    have control : t.submits = false := Tag.submits_eq_false (by simp [label]) (by simp [label])
    funext f
    simp [Event.addTo, Event.tag?, Tag.addTo, Tag.target?, label, found, control]
  rw [after_concat, ((after text before).event_of_not_beginsForm begins).2, own]
  unfold onInnermostForm
  have stacked := (stacked_after text before).1
  cases stack : (after text before).openForms with
  | nil =>
    refine ⟨fun n innermost => ?_, fun _ => rfl⟩
    simp [(innermost_iff text), stack] at innermost
  | cons position rest =>
    refine ⟨fun n innermost => ?_, fun closed => ?_⟩
    · obtain rfl : position = n := by simpa [innermost_iff text, stack] using innermost
      rfl
    · exact absurd (stacked.mem_iff.mp (stack ▸ List.mem_cons_self)) (closed position)

end Collection

/-- Whatever tags a page has, in whatever order, there is one record for each form, in the order
in which forms begin. At any time the positions that are kept are those of the open forms, the
innermost first, and all of them are positions of records. A label adds what it is for to the record
of the innermost open form alone. In the end each record has the targets of the labels of its form,
in their order, and tells whether a submit control belongs to it. -/
theorem forms_of_events (text : List Char) (es : List Event) :
    let forms := (after text es).finish.forms
    forms.length = es.countP Event.beginsForm ∧
    (∀ outer behind t read, es = outer ++ ⟨.startTag t, read⟩ :: behind → t.name = "form" →
      ∃ form, forms[outer.countP Event.beginsForm]? = some form ∧
        form.elementId = t.trimmed? "id" ∧
        form.line = ((after text outer).locator.startTag t.name read).1) ∧
    (∀ before, before <+: es →
      (after text before).openForms.Pairwise (· > ·) ∧
      (∀ n, n ∈ (after text before).openForms ↔ OpenForm before n) ∧
      (∀ n ∈ (after text before).openForms, n < (after text before).forms.length) ∧
      ((∃ n, OpenForm before n) → ∃ n, Innermost before n ∧
        ∀ other, Innermost before other → other = n)) ∧
    (∀ before behind t line target, es = before ++ ⟨.startTag t, line⟩ :: behind →
      t.name = "label" → t.trimmed? "for" = some target →
      (∀ n, Innermost before n → (after text (before ++ [⟨.startTag t, line⟩])).forms =
        (after text before).forms.modify n
          fun f => { f with labelTargets := f.labelTargets ++ [target] }) ∧
      ((∀ n, ¬ OpenForm before n) →
        (after text (before ++ [⟨.startTag t, line⟩])).forms = (after text before).forms)) ∧
    ∀ n form, forms[n]? = some form →
      form.labelTargets = (tagsIn n es).filterMap Tag.target? ∧
      (form.hasSubmit ↔ ∃ before behind t line, es = before ++ ⟨.startTag t, line⟩ :: behind ∧
        t.submits ∧ Innermost before n) := by
  intro forms
  have recorded : forms = (after text es).forms := Collection.forms_finish text es
  rw [recorded]
  refine ⟨(stacked_after text es).2, ?_, fun before _ => ?_, ?_, fun n form there => ?_⟩
  · rintro outer behind t read rfl named
    exact Collection.record_of_form text outer behind read named
  · obtain ⟨stacked, length⟩ := stacked_after text before
    refine ⟨stacked.pairwise, fun n => stacked.mem_iff, fun n member => ?_, ?_⟩
    · rw [length]
      exact (stacked.mem_iff.mp member).lt_countP
    · rintro ⟨n, isOpen⟩
      exact existsUnique_innermost isOpen
  · intro before behind t line target _ label found
    exact Collection.forms_label text before line label found
  · obtain ⟨targets, submits⟩ := Collection.contents_after text es there
    refine ⟨targets, ?_⟩
    rw [submits, List.any_eq_true]
    constructor
    · rintro ⟨t, member, control⟩
      obtain ⟨before, line, behind, split, innermost⟩ := mem_tagsIn_iff.mp member
      exact ⟨before, behind, t, line, split, control, innermost⟩
    · rintro ⟨before, behind, t, line, split, control, innermost⟩
      exact ⟨t, mem_tagsIn_iff.mpr ⟨before, line, behind, split, innermost⟩, control⟩

/-- A label in a form that ends twice, a label outside, and two nested forms of which only the inner
one ends before a label and a control. -/
def tangledForms : List Event :=
  [⟨.startTag ⟨"form", [("id", "a")]⟩, 1⟩, ⟨.startTag ⟨"label", [("for", "x")]⟩, 1⟩,
    ⟨.endTag "form", 2⟩, ⟨.endTag "form", 2⟩, ⟨.startTag ⟨"label", [("for", "y")]⟩, 3⟩,
    ⟨.startTag ⟨"form", []⟩, 4⟩, ⟨.startTag ⟨"form", [("id", "c")]⟩, 4⟩, ⟨.endTag "form", 5⟩,
    ⟨.startTag ⟨"label", [("for", " z ")]⟩, 6⟩, ⟨.startTag ⟨"input", [("type", "submit")]⟩, 6⟩]

theorem forms_of_events_tangledForms :
    let forms := (after [] tangledForms).finish.forms
    forms.map (·.labelTargets) = [["x"], ["z"], []] ∧
    forms.length = 3 ∧
    (∃ form, forms[1]? = some form ∧ form.elementId = none ∧
      form.labelTargets = (tagsIn 1 tangledForms).filterMap Tag.target? ∧ form.hasSubmit) ∧
    (∀ n ∈ (after [] (tangledForms.take 7)).openForms, n < 3) ∧
    (after [] (tangledForms.take 5)).forms = (after [] (tangledForms.take 4)).forms := by
  obtain ⟨length, begun, stack, labels, contents⟩ := forms_of_events [] tangledForms
  obtain ⟨form, there, own, -⟩ := begun (tangledForms.take 5) (tangledForms.drop 6) ⟨"form", []⟩ 4
    rfl rfl
  obtain ⟨targets, submits⟩ := contents 1 form there
  have closed : ∀ n, ¬ OpenForm (tangledForms.take 4) n := by
    intro n isOpen
    have member := ((stack (tangledForms.take 4) (List.take_prefix _ _)).2.1 n).mpr isOpen
    have empty : (after [] (tangledForms.take 4)).openForms = [] := rfl
    simp [empty] at member
  refine ⟨by decide, length, ⟨form, there, own, targets, submits.mpr ?_⟩, ?_, ?_⟩
  · exact ⟨tangledForms.take 9, [], ⟨"input", [("type", "submit")]⟩, 6, rfl, rfl, by decide⟩
  · exact (stack (tangledForms.take 7) (List.take_prefix _ _)).2.2.1
  · exact (labels (tangledForms.take 4) (tangledForms.drop 5) ⟨"label", [("for", "y")]⟩ 3 "y" rfl
      rfl rfl).2 closed

end PageWiring.Markup
