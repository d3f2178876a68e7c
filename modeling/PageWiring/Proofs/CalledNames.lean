import PageWiring.Proofs.DerivedFixes
import PageWiring.Proofs.HandlerStatements

/-!
The names that are read from handlers, whatever text the handlers hold.

A name is a piece of the handler's text: a letter, `_` or `$` with word characters and `$` behind
it. So no function that a handler is found to miss has a blank, a quote, a bracket or a line break
in its name, and none can get into a script with the function that is added.
-/
namespace PageWiring

namespace Handler

open Text

/-! ### Leading words -/

/-- What is dropped is a leading word and the space behind it. -/
theorem dropLeadWord?_eq_some {cs rest : List Char} (found : dropLeadWord? cs = some rest) :
    ∃ word ∈ leads, cs = word ++ ' ' :: rest := by
  obtain ⟨lead, member, dropped⟩ := List.exists_of_findSome?_eq_some found
  rw [leadWords_eq_map] at member
  obtain ⟨word, known, rfl⟩ := List.mem_map.mp member
  refine ⟨word, known, ?_⟩
  unfold dropLead? at dropped
  split at dropped
  · next starts =>
    obtain rfl := Option.some.inj dropped
    have split := List.prefix_iff_eq_append.mp (List.isPrefixOf_iff_prefix.mp starts)
    simpa using split.symm
  · cases dropped

/-- Leading words are dropped one after the other, each with the blanks behind it, until none is
left. -/
theorem exists_leads (cs : List Char) : ∃ before : List Lead,
    cs = before.flatMap Lead.text ++ dropLeadWords cs ∧
      dropLeadWord? (dropLeadWords cs) = none := by
  fun_induction dropLeadWords cs with
  | case1 cs rest found ih =>
    obtain ⟨before, split, ended⟩ := ih
    obtain ⟨word, known, rfl⟩ := dropLeadWord?_eq_some found
    let lead : Lead :=
      { word, blanks := rest.takeWhile isBlank, known, blank := List.all_takeWhile }
    refine ⟨lead :: before, ?_, ended⟩
    have blanks : rest = lead.blanks ++ trimStart rest := List.takeWhile_append_dropWhile.symm
    calc word ++ ' ' :: rest
        = word ++ ' ' :: (lead.blanks ++ trimStart rest) := by rw [← blanks]
      _ = lead.text ++ trimStart rest := by simp [lead, Lead.text]
      _ = (lead :: before).flatMap Lead.text ++ dropLeadWords (trimStart rest) := by
        rw [List.flatMap_cons, List.append_assoc, ← split]
  | case2 cs found => exact ⟨[], rfl, found⟩

/-! ### Names as pieces of a text -/

/-- Some name is a piece of the text. -/
def HasName (text name : List Char) : Prop := ∃ n : Name, n.text = name ∧ name <:+: text

theorem HasName.mono {text wider name : List Char} (has : HasName text name)
    (inside : text <:+: wider) : HasName wider name := by
  obtain ⟨n, same, piece⟩ := has
  exact ⟨n, same, piece.trans inside⟩

/-- A link between two names is read as it is written. -/
theorem exists_of_readLink {cs linked : List Char} (read : readLink cs = some linked) (n : Name) :
    ∃ l : Link, l.name = n ∧ cs = l.before ++ (l.mark ++ (l.behind ++ linked)) := by
  have blanks (text : List Char) : text = text.takeWhile isBlank ++ trimStart text :=
    List.takeWhile_append_dropWhile.symm
  unfold readLink at read
  dsimp only at read
  split at read
  · next rest here =>
    obtain rfl := Option.some.inj read
    obtain ⟨optional, marked⟩ : ∃ optional : Bool,
        trimStart cs = (if optional then ['?', '.'] else ['.']) ++ rest := by
      revert here
      split
      · next tail asked => exact fun here => ⟨true, by rw [asked, here]; rfl⟩
      · exact fun here => ⟨false, here⟩
    refine ⟨⟨cs.takeWhile isBlank, optional, rest.takeWhile isBlank, n, List.all_takeWhile,
      List.all_takeWhile⟩, rfl, ?_⟩
    rw [← blanks rest, Link.mark, ← marked]
    exact blanks cs
  · cases read

theorem exists_links (cs : List Char) :
    ∃ links : List Link, cs = links.flatMap Link.text ++ dropNames cs := by
  fun_induction dropNames cs with
  | case1 cs ended => exact ⟨[], rfl⟩
  | case2 cs linked link unnamed => exact ⟨[], rfl⟩
  | case3 cs linked link name rest named ih =>
    obtain ⟨n, rfl⟩ := Name.exists_of_readName named
    obtain ⟨l, rfl, written⟩ := exists_of_readLink link n
    obtain ⟨links, later⟩ := ih
    refine ⟨l :: links, ?_⟩
    rw [List.flatMap_cons, List.append_assoc, ← later, l.text_append]
    exact written

/-- A path is read as names with links between them. -/
theorem exists_of_readPath {cs path : List Char} (read : readPath cs = some path) :
    ∃ (n : Name) (links : List Link), path = n.text ++ links.flatMap Link.text ∧ path <+: cs := by
  obtain ⟨⟨name, rest⟩, named, rfl⟩ := Option.map_eq_some_iff.mp read
  obtain ⟨n, rfl⟩ := Name.exists_of_readName named
  obtain ⟨links, later⟩ := exists_links rest
  refine ⟨n, links, ?_, List.take_prefix _ _⟩
  have whole : n.text ++ rest = n.text ++ links.flatMap Link.text ++ dropNames rest := by
    rw [List.append_assoc, ← later]
  dsimp only
  rw [whole, List.length_append, Nat.add_sub_cancel, List.take_left]

theorem hasName_of_mem_segments {cs path name : List Char} (read : readPath cs = some path)
    (member : name ∈ segments path) : HasName cs name := by
  obtain ⟨n, links, rfl, starts⟩ := exists_of_readPath read
  have names := segments_links (List.all_nil : [].all isBlank) n links
  rw [List.nil_append] at names
  rw [names] at member
  rcases List.mem_cons.mp member with rfl | later
  · exact ⟨n, rfl, ((List.prefix_append _ _).trans starts).isInfix⟩
  · obtain ⟨l, linked, rfl⟩ := List.mem_map.mp later
    have inLink : l.name.text <:+ l.text := by
      simp only [Link.text, ← List.append_assoc]
      exact List.suffix_append _ _
    have inLinks : l.text <:+: links.flatMap Link.text := by
      rw [List.flatMap_def]
      exact List.infix_of_mem_flatten (List.mem_map_of_mem linked)
    have inPath := (inLink.isInfix.trans inLinks).trans (List.suffix_append n.text _).isInfix
    exact ⟨l.name, rfl, inPath.trans starts.isInfix⟩

/-- The function that a path calls is one of its names. -/
theorem mem_of_calleeOfPath {path : List String} {name : String}
    (called : calleeOfPath path = some name) : name ∈ path := by
  have dropped : dropGlobal path <:+ path := by
    unfold dropGlobal
    split
    · split
      · exact List.suffix_cons _ _
      · exact List.suffix_refl _
    · exact List.suffix_refl _
  refine dropped.subset ?_
  unfold calleeOfPath at called
  split at called
  · cases called
  · next single =>
    obtain rfl := Option.some.inj called
    rw [single]
    exact List.mem_singleton_self _
  · next receiver second rest several =>
    rw [several]
    split at called
    · cases called
    · exact List.mem_cons_of_mem _ (List.mem_of_getLast? called)

theorem infix_trim (cs : List Char) : trim cs <:+: cs := by
  have ends (cs : List Char) : trimEnd cs <+: cs := by
    have := List.dropWhile_suffix isBlank (l := cs.reverse)
    rwa [← List.reverse_prefix, List.reverse_reverse] at this
  exact (ends _).isInfix.trans (List.dropWhile_suffix _).isInfix

theorem hasName_of_calleeOfStatement {statement : List Char} {name : String}
    (called : calleeOfStatement statement = some name) : HasName statement name.toList := by
  obtain ⟨path, read, named⟩ := Option.bind_eq_some_iff.mp called
  obtain ⟨text, member, rfl⟩ := List.mem_map.mp (mem_of_calleeOfPath named)
  obtain ⟨before, split, -⟩ := exists_leads statement
  rw [String.toList_ofList]
  refine (hasName_of_mem_segments read member).mono (List.IsSuffix.isInfix ?_)
  exact ⟨_, split.symm⟩

theorem hasName_of_mem_callees {handler name : String} (called : name ∈ callees handler) :
    HasName handler.toList name.toList := by
  obtain ⟨statement, member, calls⟩ := List.mem_filterMap.mp called
  exact ((hasName_of_calleeOfStatement calls).mono (infix_trim statement)).mono
    (infix_of_mem_splitWhere member)

/-! ### What is no part of a name -/

/-- Marks of scripts and pages that end a name. -/
def nameEnds : List Char := ['.', '?', ';', '\'', '"', '\x60', '(', ')', '\n', '\r']

/-- The name is a piece of the text and has the form of a name: it is not empty, and no blank and no
mark is in it. -/
structure NamedIn (text : List Char) (name : String) : Prop where
  form : ∃ n : Name, n.text = name.toList
  piece : name.toList <:+: text
  filled : name ≠ ""
  plain : ∀ c ∈ name.toList, isBlank c = false ∧ c ∉ nameEnds

theorem HasName.namedIn {text : List Char} {name : String} (has : HasName text name.toList) :
    NamedIn text name := by
  obtain ⟨n, same, piece⟩ := has
  refine ⟨⟨n, same⟩, piece, ?_, fun c member => ?_⟩
  · rintro rfl
    simp [Name.text] at same
  · rw [← same] at member
    have part := List.all_eq_true.mp n.text_goes_on c member
    have apart : nameEnds.all (!isNamePart ·) = true := rfl
    refine ⟨n.visible member, fun ends => ?_⟩
    simpa [part] using List.all_eq_true.mp apart c ends

end Handler

open Handler

namespace Check

/-- A handler that is reported misses a function that its own text names. -/
theorem exists_named_of_broken {ctx : Context} {broken : BrokenHandler}
    (reported : broken ∈ brokenHandlers ctx) :
    ∃ record ∈ ctx.elements.handlers,
      NamedIn record.functionCall.toList broken.missingFunction := by
  obtain ⟨record, member, found⟩ := List.mem_filterMap.mp reported
  obtain ⟨name, leads, -, rfl⟩ := brokenHandler?_eq_some_iff.mp found
  exact ⟨record, member, (hasName_of_mem_callees (List.mem_of_find?_eq_some leads)).namedIn⟩

end Check

namespace Edit

/-- The function that is added holds a character that is no part of a name just as often as it does
without the name. -/
theorem count_stub {name : String} {c : Char} (apart : c ∉ name.toList) :
    (stub name).toList.count c = (stub "").toList.count c := by
  have none : name.toList.count c = 0 := List.count_eq_zero.mpr apart
  simp only [stub, String.toList_append, List.count_append, none, String.toList_empty,
    List.count_nil]

end Edit

/-- Dropping leading words comes to an end where none is left, and every function that a handler is
found to call is a name in its text. So is every function that an analysis reports as missing, and
every function that is added for it: whatever the attributes of the page hold, what is added has
the marks of a script only where the text of every added function has them. -/
theorem called_names_plain :
    (∀ statement, ∃ before : List Lead,
      statement = before.flatMap Lead.text ++ dropLeadWords statement ∧
        dropLeadWord? (dropLeadWords statement) = none) ∧
    (∀ handler, ∀ name ∈ callees handler, NamedIn handler.toList name) ∧
    ∀ config elements functions findings,
      Check.analyze config elements functions = .ok findings →
      (∀ broken ∈ findings.brokenHandlers, ∃ record ∈ elements.handlers,
        NamedIn record.functionCall.toList broken.missingFunction) ∧
      ∀ htmlPath target, ∀ fix ∈ Fix.derive findings elements functions htmlPath target,
        fix.kind = .addFunctionStub →
        (∃ record ∈ elements.handlers, NamedIn record.functionCall.toList fix.functionName) ∧
        (∀ text, fix.edit text = .ok (Edit.appendStub text fix.functionName)) ∧
        ∀ mark ∈ nameEnds, (Edit.stub fix.functionName).toList.count mark =
          (Edit.stub "").toList.count mark := by
  refine ⟨exists_leads, fun handler name called => (hasName_of_mem_callees called).namedIn, ?_⟩
  intro config elements functions findings success
  have missed : ∀ broken ∈ findings.brokenHandlers, ∃ record ∈ elements.handlers,
      NamedIn record.functionCall.toList broken.missingFunction := by
    intro broken reported
    rw [Check.findings_of_analyze success] at reported
    exact Check.exists_named_of_broken (Check.Registry.mem_of_mem_select reported)
  refine ⟨missed, fun htmlPath target fix derived adds => ?_⟩
  obtain ⟨broken, reported, -, same, -⟩ := Fix.exists_broken_of_stub derived adds
  obtain ⟨record, member, named⟩ := missed broken reported
  rw [← same] at named
  refine ⟨⟨record, member, named⟩, fun text => ?_, fun mark ends => ?_⟩
  · rw [Fix.edit, adds]
  · exact Edit.count_stub fun inside => (named.plain mark inside).2 ends

/-- A call with blanks of three kinds around its path, and a quote in its argument. -/
def Handler.quotedSend : Statement where
  indent := [' ']
  before := [⟨"return".toList, ['\t'], by decide, rfl⟩]
  first := ⟨'a', "pp".toList, rfl, rfl⟩
  links := [⟨['\n'], true, ['\u00a0'], ⟨'s', "end".toList, rfl, rfl⟩, rfl, rfl⟩]
  argument := "('\"')".toList
  indent_blank := rfl
  first_free := by decide
  argument_opens := fun _ here => (Option.some.inj here).symm
  argument_plain := by decide

theorem Handler.Statement.mem_callees_text {s : Statement} {name : String}
    (calls : s.callee = some name) : name ∈ callees (String.ofList s.text) := by
  rw [callees, String.toList_ofList, Text.splitAt_plain s.text_plain]
  refine List.mem_filterMap.mpr ⟨s.text, List.mem_singleton_self _, ?_⟩
  rw [s.calleeOfStatement_trim_text, calls]

theorem called_names_plain_send :
    quotedSend.text = " return \tapp\n?.\u00a0send('\"')".toList ∧
    NamedIn quotedSend.text "send" ∧
    Check.analyze {} Fix.sendButtons Fix.saveOnly = .ok Fix.sendFindings ∧
    ∃ fix ∈ Fix.derive Fix.sendFindings Fix.sendButtons Fix.saveOnly "index.html" ⟨"app.js", 3⟩,
      fix.kind = .addFunctionStub ∧ fix.functionName = "send" ∧
      (∃ record ∈ Fix.sendButtons.handlers, NamedIn record.functionCall.toList "send") ∧
      (Edit.stub "send").toList.count '\'' = (Edit.stub "").toList.count '\'' := by
  obtain ⟨-, names, reports⟩ := called_names_plain
  have called : "send" ∈ callees (String.ofList quotedSend.text) :=
    Statement.mem_callees_text (by decide)
  have named := names _ "send" called
  rw [String.toList_ofList] at named
  have added : Fix.addStub ⟨"app.js", 3⟩ ⟨some "a", "onclick", "send", 1⟩ ∈
      Fix.derive Fix.sendFindings Fix.sendButtons Fix.saveOnly "index.html" ⟨"app.js", 3⟩ :=
    .tail _ (.tail _ (.head _))
  obtain ⟨pieces, -, quotes⟩ :=
    (reports _ _ _ _ Fix.analyze_sendButtons).2 "index.html" ⟨"app.js", 3⟩ _ added rfl
  exact ⟨by decide, named, Fix.analyze_sendButtons, _, added, rfl, rfl, pieces,
    quotes '\'' (by decide)⟩

end PageWiring
