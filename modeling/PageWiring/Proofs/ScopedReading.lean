import PageWiring.Script.Facts

/-!
The reading of a script, with the functions and classes around a node passed down to it.

`nodeFacts` is told the scope of a node and gives what is learned from it. A reader that keeps the
scope on its two stacks learns the same, and its stacks are afterwards as they were before, whatever
it has read: this is proved together for all ways of reading, one case for each kind of node.
-/
namespace PageWiring.Script

namespace Scope

/-- The scope inside a function. -/
def enter (s : Scope) (name : Option String) : Scope :=
  { s with contexts := name :: s.contexts }

/-- The scope of the members of a class. -/
def enterClass (s : Scope) (isExported : Bool) : Scope :=
  { s with exportedClasses := isExported :: s.exportedClasses }

end Scope

mutual

/-- The facts of a tree, in the order of reading. -/
def nodeFacts (s : Scope) : Node → List Fact
  | .ident id => [s.reference id]
  | .text _ _ => []
  | .template _ _ parts => nodesFacts s parts
  | .paren _ inner => nodeFacts s inner
  | .function _ name params body types =>
    let s := s.enter (name.map (·.name))
    nodesFacts s params ++ nodesFacts s body ++ nodesFacts s types
  | .arrow _ params body types =>
    let s := s.enter none
    nodesFacts s params ++ nodesFacts s body ++ nodesFacts s types
  | .classNode _ _ members superClass types =>
    let s := s.enterClass false
    nodesFacts s members ++ nodesFacts s superClass ++ nodesFacts s types
  | .object _ props => nodesFacts s props
  | .member _ _ object _ => nodeFacts s object
  | .call span _ callee args =>
    callFacts s callee args span ++
      (if callee.isBareIdent then [] else nodeFacts s callee) ++ nodesFacts s args
  | .construct span callee args =>
    constructFacts s callee span ++
      (if callee.isBareIdent then [] else nodeFacts s callee) ++ nodesFacts s args
  | .assign _ _ target value =>
    match exportTarget? target with
    | some (.named name) =>
      .exported name :: (value.ident?.map fun id => Fact.exported id.name).toList ++
        valueDefinition s name value ++
        (if value.isFunctionValue then functionFacts (s.enter (some name)) value
          else nodeFacts s value)
    | some .moduleObject => (exportedNames value).map .exported ++ nodeFacts s value
    | none => nodeFacts s target ++ nodeFacts s value
  | .jsx _ _ attributes children => nodesFacts s attributes ++ nodesFacts s children
  | .compound _ .forVars declarators => declaratorsFacts s false declarators
  | .compound _ _ parts => nodesFacts s parts
  | .shorthand id => [s.reference id]
  | .keyValue key keyParts value =>
    match key.name?, value.isFunctionValue with
    | some name, true =>
      s.define name key.span .objectMethod false :: functionFacts (s.enter (some name)) value
    | some _, false => nodeFacts s value
    | none, _ => nodesFacts s keyParts ++ nodeFacts s value
  | .method key _ params body types =>
    let inner := s.enter key.name?
    (key.name?.toList.map fun name => s.define name key.span .objectMethod false) ++
      nodesFacts inner params ++ nodesFacts inner body ++ nodesFacts inner types
  | .constructor _ params body types =>
    let s := s.enter (some "constructor")
    nodesFacts s params ++ nodesFacts s body ++ nodesFacts s types
  | .classMethod kind key _ params body types =>
    let inner := s.enter key.name?
    (if kind = .method then
        key.name?.toList.map fun name => s.define name key.span .classMethod s.inExportedClass
      else []) ++
      nodesFacts inner params ++ nodesFacts inner body ++ nodesFacts inner types
  | .privateMethod name params body types =>
    let s := s.enter (some ("#" ++ name.name))
    nodesFacts s params ++ nodesFacts s body ++ nodesFacts s types
  | .classProperty key keyParts value types =>
    match key.name?, value with
    | some name, [v] =>
      if v.isFunctionValue then
        s.define name key.span .classProperty s.inExportedClass ::
          functionFacts (s.enter (some name)) v
      else nodeFacts s v ++ nodesFacts s types
    | some _, value => nodesFacts s value ++ nodesFacts s types
    | none, value => nodesFacts s keyParts ++ nodesFacts s value ++ nodesFacts s types
  | .binding _ types => nodesFacts s types
  | .functionDecl _ name params body types =>
    let inner := s.enter (some name.name)
    s.define name.name name.span .declaration false ::
      (nodesFacts inner params ++ nodesFacts inner body ++ nodesFacts inner types)
  | .vars _ declarators => declaratorsFacts s false declarators
  | .declarator _ target value => nodeFacts s target ++ nodesFacts s value
  | .exportDecl (.functionDecl _ name params body types) =>
    let inner := s.enter (some name.name)
    s.define name.name name.span .declaration true ::
      (nodesFacts inner params ++ nodesFacts inner body ++ nodesFacts inner types)
  | .exportDecl (.classNode _ _ members superClass types) =>
    let s := s.enterClass true
    nodesFacts s members ++ nodesFacts s superClass ++ nodesFacts s types
  | .exportDecl (.vars _ declarators) => declaratorsFacts s true declarators
  | .exportDecl decl => nodeFacts s decl
  | .exportDefaultFunction name params body types =>
    let inner := s.enter (name.map (·.name))
    (name.toList.map fun id => s.define id.name id.span .declaration true) ++
      nodesFacts inner params ++ nodesFacts inner body ++ nodesFacts inner types
  | .exportDefaultClass members superClass types =>
    let s := s.enterClass true
    nodesFacts s members ++ nodesFacts s superClass ++ nodesFacts s types
  | .exportDefault value =>
    (value.ident?.toList.map fun id => Fact.exported id.name) ++ nodeFacts s value
  | .exportNames names => names.map fun id => .exported id.name

def nodesFacts (s : Scope) : List Node → List Fact
  | [] => []
  | n :: ns => nodeFacts s n ++ nodesFacts s ns

/-- The facts inside a function value; `s` is the scope inside the function. -/
def functionFacts (s : Scope) : Node → List Fact
  | .paren _ inner => functionFacts s inner
  | .function _ _ params body types =>
    nodesFacts s params ++ nodesFacts s body ++ nodesFacts s types
  | .arrow _ params body types => nodesFacts s params ++ nodesFacts s body ++ nodesFacts s types
  | _ => []

def declaratorsFacts (s : Scope) (isExported : Bool) : List Node → List Fact
  | [] => []
  | .declarator _ (.binding id types) [value] :: ds =>
    (match declaredKind? s value with
      | some kind =>
        s.define id.name id.span kind isExported :: functionFacts (s.enter (some id.name)) value
      | none => nodesFacts s types ++ nodeFacts s value) ++ declaratorsFacts s isExported ds
  | d :: ds => nodeFacts s d ++ declaratorsFacts s isExported ds

end

/-! ### Ways of reading -/

/-- A way of reading that learns some facts, by the scope that the reader is in, and leaves the
scope as it is. -/
def Reads (read : Collector → Collector) (facts : Scope → List Fact) : Prop :=
  ∀ c, read c = c.learn (facts c.toScope)

namespace Reads

variable {read next : Collector → Collector} {facts more : Scope → List Fact}

theorem nothing : Reads (fun c => c) fun _ => [] := fun _ => rfl

theorem learn (facts : Scope → List Fact) : Reads (fun c => c.learn (facts c.toScope)) facts :=
  fun _ => rfl

/-- Two readings, one after the other. -/
theorem append (first : Reads read facts) (second : Reads next more) :
    Reads (fun c => next (read c)) fun s => facts s ++ more s := by
  intro c
  show next (read c) = _
  rw [first, second]
  simp [Collector.learn]

theorem inTurn {last : Collector → Collector} {closing : Scope → List Fact}
    (first : Reads read facts) (second : Reads next more) (third : Reads last closing) :
    Reads (fun c => last (next (read c))) fun s => facts s ++ more s ++ closing s :=
  (first.append second).append third

theorem congr (reads : Reads read facts) (sameRead : ∀ c, next c = read c)
    (sameFacts : ∀ s, more s = facts s) : Reads next more := by
  intro c
  rw [sameRead, sameFacts, reads]

theorem inFunction (inside : Reads read facts) (name : Option String) :
    Reads (fun c => c.inFunction name read) fun s => facts (s.enter name) := by
  intro c
  simp only [Collector.inFunction]
  rw [inside]
  rfl

theorem inClass (inside : Reads read facts) (isExported : Bool) :
    Reads (fun c => c.inClass isExported read) fun s => facts (s.enterClass isExported) := by
  intro c
  simp only [Collector.inClass]
  rw [inside]
  rfl

/-- What is read only if a test fails. -/
theorem skipIf (reads : Reads read facts) (test : Bool) :
    Reads (fun c => if test then c else read c) fun s => if test then [] else facts s := by
  intro c
  cases test
  · exact reads c
  · rfl

end Reads

/-! ### Cases of reading -/

/-- A declaration that is exported in place is a function, a class, a list of variables, or read as
it is by itself. -/
theorem exportDecl_cases (decl : Node) :
    (∃ span own params body types, decl = .functionDecl span own params body types) ∨
      (∃ span own members superClass types,
        decl = .classNode span own members superClass types) ∨
      (∃ span declarators, decl = .vars span declarators) ∨
      (∀ s, nodeFacts s (.exportDecl decl) = nodeFacts s decl) ∧
        ∀ c : Collector, c.visit (.exportDecl decl) = c.visit decl := by
  cases decl with
  | functionDecl span own params body types => exact .inl ⟨span, own, params, body, types, rfl⟩
  | classNode span own members superClass types =>
    exact .inr (.inl ⟨span, own, members, superClass, types, rfl⟩)
  | vars span declarators => exact .inr (.inr (.inl ⟨span, declarators, rfl⟩))
  | _ => exact .inr (.inr (.inr ⟨fun _ => rfl, fun _ => rfl⟩))

/-- A declarator gives a name to a value, or is read as it is. -/
theorem declarators_cons_cases (isExported : Bool) (d : Node) (rest : List Node) :
    (∃ span id types value, d = .declarator span (.binding id types) [value]) ∨
      (∀ s, declaratorsFacts s isExported (d :: rest) =
        nodeFacts s d ++ declaratorsFacts s isExported rest) ∧
      ∀ c : Collector, c.visitDeclarators isExported (d :: rest) =
        (c.visit d).visitDeclarators isExported rest := by
  by_cases named : ∃ span id types value, d = .declarator span (.binding id types) [value]
  · exact .inl named
  · have plain (span : Span) (id : Ident) (types : List Node) (value : Node)
        (same : d = .declarator span (.binding id types) [value]) : False :=
      named ⟨span, id, types, value, same⟩
    refine .inr ⟨fun s => ?_, fun c => ?_⟩
    · rw [declaratorsFacts]
      exact plain
    · rw [Collector.visitDeclarators]
      exact plain

/-- Only function values have something inside. -/
theorem function_cases (n : Node) :
    (∃ span inner, n = .paren span inner) ∨
      (∃ span name params body types, n = .function span name params body types) ∨
      (∃ span params body types, n = .arrow span params body types) ∨
      (∀ s, functionFacts s n = []) ∧ ∀ c : Collector, c.visitFunction n = c := by
  cases n with
  | paren span inner => exact .inl ⟨span, inner, rfl⟩
  | function span name params body types =>
    exact .inr (.inl ⟨span, name, params, body, types, rfl⟩)
  | arrow span params body types => exact .inr (.inr (.inl ⟨span, params, body, types, rfl⟩))
  | _ => exact .inr (.inr (.inr ⟨fun _ => rfl, fun _ => rfl⟩))

theorem reads_classProperty {key : Key} {keyParts value types : List Node}
    (inKey : Reads (·.visitAll keyParts) (nodesFacts · keyParts))
    (inValue : Reads (·.visitAll value) (nodesFacts · value))
    (inTypes : Reads (·.visitAll types) (nodesFacts · types))
    (inFunction : ∀ single, value = [single] →
      Reads (·.visitFunction single) (functionFacts · single)) :
    Reads (·.visit (.classProperty key keyParts value types))
      (nodeFacts · (.classProperty key keyParts value types)) := by
  intro c
  cases spelled : key.name? with
  | none => simpa [Collector.visit, nodeFacts, spelled] using inKey.inTurn inValue inTypes c
  | some name =>
    rcases value with _ | ⟨single, _ | ⟨second, rest⟩⟩
    · simpa [Collector.visit, nodeFacts, spelled] using inValue.append inTypes c
    · cases function : single.isFunctionValue with
      | true =>
        simpa [Collector.visit, nodeFacts, spelled, function] using ((Reads.learn fun s =>
          [s.define name key.span .classProperty s.inExportedClass]).append
          ((inFunction single rfl).inFunction (some name))) c
      | false =>
        simpa [Collector.visit, Collector.visitAll, nodeFacts, nodesFacts, spelled, function]
          using inValue.append inTypes c
    · simpa [Collector.visit, nodeFacts, spelled] using inValue.append inTypes c

theorem reads_declarator {isExported : Bool} {span : Span} {id : Ident} {types rest : List Node}
    {value : Node} (inTypes : Reads (·.visitAll types) (nodesFacts · types))
    (inValue : Reads (·.visit value) (nodeFacts · value))
    (inFunction : Reads (·.visitFunction value) (functionFacts · value))
    (inRest : Reads (·.visitDeclarators isExported rest) (declaratorsFacts · isExported rest)) :
    Reads (·.visitDeclarators isExported (.declarator span (.binding id types) [value] :: rest))
      (declaratorsFacts · isExported (.declarator span (.binding id types) [value] :: rest)) := by
  intro c
  simp only [Collector.visitDeclarators, declaratorsFacts]
  cases declared : declaredKind? c.toScope value with
  | none => exact ((inTypes.append inValue).append inRest) c
  | some kind =>
    exact (((Reads.learn fun s => [s.define id.name id.span kind isExported]).append
      (inFunction.inFunction (some id.name))).append inRest) c

mutual

theorem reads_visit : ∀ n : Node, Reads (·.visit n) (nodeFacts · n)
  | .ident id => .learn fun s => [s.reference id]
  | .text _ _ => .nothing
  | .template _ _ parts => reads_visitAll parts
  | .paren _ inner => reads_visit inner
  | .function _ name params body types =>
    .inFunction (.inTurn (reads_visitAll params) (reads_visitAll body) (reads_visitAll types))
      (name.map Ident.name)
  | .arrow _ params body types =>
    .inFunction (.inTurn (reads_visitAll params) (reads_visitAll body) (reads_visitAll types)) none
  | .classNode _ _ members superClass types =>
    .inClass (.inTurn (reads_visitAll members) (reads_visitAll superClass) (reads_visitAll types))
      false
  | .object _ props => reads_visitAll props
  | .member _ _ object _ => reads_visit object
  | .call span _ callee args =>
    ((Reads.learn fun s => callFacts s callee args span).append
      ((reads_visit callee).skipIf callee.isBareIdent)).append (reads_visitAll args)
  | .construct span callee args =>
    ((Reads.learn fun s => constructFacts s callee span).append
      ((reads_visit callee).skipIf callee.isBareIdent)).append (reads_visitAll args)
  | .assign _ _ target value => by
    intro c
    simp only [Collector.visit, nodeFacts]
    cases exportTarget? target with
    | none => exact ((reads_visit target).append (reads_visit value)) c
    | some what =>
      cases what with
      | moduleObject =>
        exact ((Reads.learn fun _ => (exportedNames value).map .exported).append
          (reads_visit value)) c
      | named name =>
        cases value.isFunctionValue with
        | true =>
          exact ((Reads.learn fun s => .exported name ::
            (value.ident?.map fun id => Fact.exported id.name).toList ++
              valueDefinition s name value).append
            ((reads_visitFunction value).inFunction (some name))) c
        | false =>
          exact ((Reads.learn fun s => .exported name ::
            (value.ident?.map fun id => Fact.exported id.name).toList ++
              valueDefinition s name value).append (reads_visit value)) c
  | .jsx _ _ attributes children => (reads_visitAll attributes).append (reads_visitAll children)
  | .compound _ kind parts => by
    by_cases heads : kind = .forVars
    · subst heads
      exact reads_visitDeclarators false parts
    · intro c
      simp only [Collector.visit, nodeFacts]
      exact reads_visitAll parts c
  | .shorthand id => .learn fun s => [s.reference id]
  | .keyValue key keyParts value => by
    intro c
    simp only [Collector.visit, nodeFacts]
    cases key.name? with
    | none => exact ((reads_visitAll keyParts).append (reads_visit value)) c
    | some name =>
      cases value.isFunctionValue with
      | true =>
        exact ((Reads.learn fun s => [s.define name key.span .objectMethod false]).append
          ((reads_visitFunction value).inFunction (some name))) c
      | false => exact reads_visit value c
  | .method key _ params body types =>
    .congr (.append
      (.learn fun s => key.name?.toList.map fun name => s.define name key.span .objectMethod false)
      (.inFunction (.inTurn (reads_visitAll params) (reads_visitAll body) (reads_visitAll types))
        key.name?)) (fun _ => rfl) fun s => by simp [nodeFacts]
  | .constructor _ params body types =>
    .inFunction (.inTurn (reads_visitAll params) (reads_visitAll body) (reads_visitAll types))
      (some "constructor")
  | .classMethod kind key _ params body types =>
    .congr (.append
      (.learn fun s => if kind = .method then
        key.name?.toList.map fun name => s.define name key.span .classMethod s.inExportedClass
        else [])
      (.inFunction (.inTurn (reads_visitAll params) (reads_visitAll body) (reads_visitAll types))
        key.name?)) (fun _ => rfl) fun s => by simp [nodeFacts]
  | .privateMethod name params body types =>
    .inFunction (.inTurn (reads_visitAll params) (reads_visitAll body) (reads_visitAll types))
      (some ("#" ++ name.name))
  | .classProperty key keyParts value types =>
    reads_classProperty (reads_visitAll keyParts) (reads_visitAll value) (reads_visitAll types)
      fun single only => reads_visitFunction single
  | .binding _ types => reads_visitAll types
  | .functionDecl _ name params body types =>
    (Reads.learn fun s => [s.define name.name name.span .declaration false]).append
      (.inFunction (.inTurn (reads_visitAll params) (reads_visitAll body) (reads_visitAll types))
        (some name.name))
  | .vars _ declarators => reads_visitDeclarators false declarators
  | .declarator _ target value => (reads_visit target).append (reads_visitAll value)
  | .exportDecl decl => by
    obtain ⟨span, name, params, body, types, rfl⟩ | ⟨span, name, members, superClass, types, rfl⟩ |
      ⟨span, declarators, rfl⟩ | ⟨sameFacts, sameVisit⟩ := exportDecl_cases decl
    · exact (Reads.learn fun s => [s.define name.name name.span .declaration true]).append
        (.inFunction (.inTurn (reads_visitAll params) (reads_visitAll body)
          (reads_visitAll types)) (some name.name))
    · exact .inClass (.inTurn (reads_visitAll members) (reads_visitAll superClass)
        (reads_visitAll types)) true
    · exact reads_visitDeclarators true declarators
    · exact (reads_visit decl).congr sameVisit sameFacts
  | .exportDefaultFunction name params body types =>
    .congr (.append
      (.learn fun s => name.toList.map fun id : Ident => s.define id.name id.span .declaration true)
      (.inFunction (.inTurn (reads_visitAll params) (reads_visitAll body) (reads_visitAll types))
        (name.map Ident.name))) (fun _ => rfl) fun s => by simp [nodeFacts]
  | .exportDefaultClass members superClass types =>
    .inClass (.inTurn (reads_visitAll members) (reads_visitAll superClass) (reads_visitAll types))
      true
  | .exportDefault value =>
    (Reads.learn fun _ => value.ident?.toList.map fun id : Ident => .exported id.name).append
      (reads_visit value)
  | .exportNames names => .learn fun _ => names.map fun id : Ident => .exported id.name
termination_by n => sizeOf n
decreasing_by all_goals (subst_vars; simp <;> omega)

theorem reads_visitAll : ∀ nodes : List Node, Reads (·.visitAll nodes) (nodesFacts · nodes)
  | [] => .nothing
  | n :: rest => (reads_visit n).append (reads_visitAll rest)
termination_by nodes => sizeOf nodes
decreasing_by all_goals (simp <;> omega)

theorem reads_visitFunction (n : Node) : Reads (·.visitFunction n) (functionFacts · n) := by
  obtain ⟨span, inner, rfl⟩ | ⟨span, name, params, body, types, rfl⟩ |
    ⟨span, params, body, types, rfl⟩ | ⟨noFacts, nothing⟩ := function_cases n
  · exact reads_visitFunction inner
  · exact .inTurn (reads_visitAll params) (reads_visitAll body) (reads_visitAll types)
  · exact .inTurn (reads_visitAll params) (reads_visitAll body) (reads_visitAll types)
  · exact Reads.nothing.congr nothing noFacts
termination_by sizeOf n
decreasing_by all_goals (subst_vars; simp <;> omega)

theorem reads_visitDeclarators (isExported : Bool) : ∀ declarators : List Node,
    Reads (·.visitDeclarators isExported declarators) (declaratorsFacts · isExported declarators)
  | [] => .nothing
  | d :: rest => by
    obtain ⟨span, id, types, value, rfl⟩ | ⟨sameFacts, sameVisit⟩ :=
      declarators_cons_cases isExported d rest
    · exact reads_declarator (reads_visitAll types) (reads_visit value) (reads_visitFunction value)
        (reads_visitDeclarators isExported rest)
    · exact ((reads_visit d).append (reads_visitDeclarators isExported rest)).congr sameVisit
        sameFacts
termination_by declarators => sizeOf declarators
decreasing_by all_goals (subst_vars; simp <;> omega)

end

/-- Whatever is read, the reader has the same functions and classes around it afterwards. -/
theorem toScope_visit (c : Collector) (n : Node) : (c.visit n).toScope = c.toScope := by
  have read : c.visit n = c.learn (nodeFacts c.toScope n) := reads_visit n c
  rw [read]
  rfl

theorem learnedFrom_eq (s : Scope) (items : List Node) :
    learnedFrom s items = nodesFacts s items := by
  have read : (Collector.mk s []).visitAll items = Collector.learn ⟨s, []⟩ (nodesFacts s items) :=
    reads_visitAll items ⟨s, []⟩
  rw [learnedFrom, read]
  simp [Collector.learn]

end PageWiring.Script
