import PageWiring.Proofs.Evaluation
import PageWiring.Proofs.Subtrees

/-!
In which functions the things that are learned from a script stand.

`Node.functions` says which functions a node makes and by which name each of them goes, and
`Visits` follows a reading into them. Whatever is learned comes from one node, in the functions that
are entered on the way to it: a call or a look-up is put down to the innermost of them that has a
name.
-/
namespace PageWiring.Script

/-- A function in a tree: the name that it goes by, and what is read inside it. -/
structure FunctionNode where
  name : Option String
  inside : List Node

/-- What is read inside a function value. -/
def Node.contents : Node → List Node
  | .paren _ inner => inner.contents
  | .function _ _ params body types => params ++ body ++ types
  | .arrow _ params body types => params ++ body ++ types
  | _ => []

/-- A function value that goes by the name it is given. -/
def givenName (name : Option String) (value : Node) : List FunctionNode :=
  if name.isSome && value.isFunctionValue then [⟨name, value.contents⟩] else []

/-- The function that a declarator makes of a variable. -/
def variableFunction (s : Scope) : Node → List FunctionNode
  | .declarator _ (.binding id _) [value] =>
    if value.shape = .function ∨ value.shape = .arrow ∧ s.contexts = [] then
      [⟨some id.name, value.contents⟩]
    else []
  | _ => []

/-- The definition that a declarator makes of a variable. -/
def variableDefinition (s : Scope) (isExported : Bool) : Node → List Fact
  | .declarator _ (.binding id _) [value] =>
    (declaredKind? s value).toList.map fun kind => s.define id.name id.span kind isExported
  | _ => []

namespace Node

/-- The functions that a node makes. -/
def functions (s : Scope) : Node → List FunctionNode
  | .function _ name params body types => [⟨name.map (·.name), params ++ body ++ types⟩]
  | .arrow _ params body types => [⟨none, params ++ body ++ types⟩]
  | .assign _ _ target value =>
    match exportTarget? target with
    | some (.named name) => givenName (some name) value
    | _ => []
  | .compound _ .forVars declarators => declarators.flatMap (variableFunction s)
  | .keyValue key _ value => givenName key.name? value
  | .method key _ params body types => [⟨key.name?, params ++ body ++ types⟩]
  | .constructor _ params body types => [⟨some "constructor", params ++ body ++ types⟩]
  | .classMethod _ key _ params body types => [⟨key.name?, params ++ body ++ types⟩]
  | .privateMethod name params body types =>
    [⟨some ("#" ++ name.name), params ++ body ++ types⟩]
  | .classProperty key _ [value] _ => givenName key.name? value
  | .functionDecl _ name params body types => [⟨some name.name, params ++ body ++ types⟩]
  | .vars _ declarators => declarators.flatMap (variableFunction s)
  | .exportDecl (.functionDecl _ name params body types) =>
    [⟨some name.name, params ++ body ++ types⟩]
  | .exportDecl (.vars _ declarators) => declarators.flatMap (variableFunction s)
  | .exportDefaultFunction name params body types =>
    [⟨name.map (·.name), params ++ body ++ types⟩]
  | _ => []

/-- The parts of a node that are read outside the functions it makes. -/
def outerParts (s : Scope) : Node → List Node
  | .template _ _ parts => parts
  | .paren _ inner => [inner]
  | .classNode _ _ members superClass types => members ++ superClass ++ types
  | .object _ props => props
  | .member _ _ receiver _ => [receiver]
  | .call _ _ callee args => (if callee.isBareIdent then [] else [callee]) ++ args
  | .construct _ callee args => (if callee.isBareIdent then [] else [callee]) ++ args
  | .assign _ _ target value =>
    match exportTarget? target with
    | some (.named _) => if value.isFunctionValue then [] else [value]
    | some .moduleObject => [value]
    | none => [target, value]
  | .jsx _ _ attributes children => attributes ++ children
  | .compound _ .forVars declarators =>
    declarators.filter fun d => (variableFunction s d).isEmpty
  | .compound _ _ parts => parts
  | .keyValue key keyParts value =>
    if (givenName key.name? value).isEmpty then key.expression keyParts ++ [value] else []
  | .classProperty key keyParts value types =>
    if (functions s (.classProperty key keyParts value types)).isEmpty then
      key.expression keyParts ++ value ++ types
    else []
  | .binding _ types => types
  | .vars _ declarators => declarators.filter fun d => (variableFunction s d).isEmpty
  | .declarator _ target value => target :: value
  | .exportDecl (.functionDecl _ _ _ _ _) => []
  | .exportDecl (.classNode _ _ members superClass types) => members ++ superClass ++ types
  | .exportDecl (.vars _ declarators) =>
    declarators.filter fun d => (variableFunction s d).isEmpty
  | .exportDecl decl => [decl]
  | .exportDefaultClass members superClass types => members ++ superClass ++ types
  | .exportDefault value => [value]
  | _ => []

/-- What is learned from a node itself, apart from its parts. -/
def ownFacts (s : Scope) : Node → List Fact
  | .ident id => [s.reference id]
  | .shorthand id => [s.reference id]
  | .call span _ callee args => callFacts s callee args span
  | .construct span callee _ => constructFacts s callee span
  | .assign _ _ target value =>
    match exportTarget? target with
    | some (.named name) =>
      .exported name :: (value.ident?.map fun id => Fact.exported id.name).toList ++
        valueDefinition s name value
    | some .moduleObject => (exportedNames value).map .exported
    | none => []
  | .compound _ .forVars declarators => declarators.flatMap (variableDefinition s false)
  | .keyValue key _ value =>
    if value.isFunctionValue then
      key.name?.toList.map fun name => s.define name key.span .objectMethod false
    else []
  | .method key _ _ _ _ =>
    key.name?.toList.map fun name => s.define name key.span .objectMethod false
  | .classMethod kind key _ _ _ _ =>
    if kind = .method then
      key.name?.toList.map fun name => s.define name key.span .classMethod s.inExportedClass
    else []
  | .classProperty key _ [value] _ =>
    if value.isFunctionValue then
      key.name?.toList.map fun name => s.define name key.span .classProperty s.inExportedClass
    else []
  | .functionDecl _ name _ _ _ => [s.define name.name name.span .declaration false]
  | .vars _ declarators => declarators.flatMap (variableDefinition s false)
  | .exportDecl (.functionDecl _ name _ _ _) =>
    [s.define name.name name.span .declaration true]
  | .exportDecl (.vars _ declarators) => declarators.flatMap (variableDefinition s true)
  | .exportDefaultFunction name _ _ _ =>
    name.toList.map fun id => s.define id.name id.span .declaration true
  | .exportDefault value => value.ident?.toList.map fun id => Fact.exported id.name
  | .exportNames names => names.map fun id => .exported id.name
  | _ => []

end Node

/-- The scope of the outer parts of a node: only a class changes it. -/
def Scope.around (s : Scope) : Node → Scope
  | .classNode _ _ _ _ _ => s.enterClass false
  | .exportDecl (.classNode _ _ _ _ _) => s.enterClass true
  | .exportDefaultClass _ _ _ => s.enterClass true
  | _ => s

variable {s inner : Scope} {n m part : Node} {fact : Fact}

/-! ### What one node adds -/

theorem nodesFacts_append (s : Scope) (before after : List Node) :
    nodesFacts s (before ++ after) = nodesFacts s before ++ nodesFacts s after := by
  induction before with
  | nil => rfl
  | cons n rest ih => simp [nodesFacts, ih]

theorem mem_nodesFacts {nodes : List Node} :
    fact ∈ nodesFacts s nodes ↔ ∃ n ∈ nodes, fact ∈ nodeFacts s n := by
  induction nodes with
  | nil => simp [nodesFacts]
  | cons n rest ih => simp [nodesFacts, ih]

theorem functionFacts_eq (s : Scope) (value : Node) :
    functionFacts s value = nodesFacts s value.contents := by
  fun_induction Node.contents value with
  | case1 span inner ih => rw [functionFacts, ih]
  | case2 => simp [functionFacts, nodesFacts_append]
  | case3 => simp [functionFacts, nodesFacts_append]
  | case4 => simp [functionFacts, nodesFacts]

theorem declaredKind?_isSome {value : Node} :
    (declaredKind? s value).isSome ↔
      value.shape = .function ∨ value.shape = .arrow ∧ s.contexts = [] := by
  unfold declaredKind?
  cases value.shape <;> cases s.contexts <;> simp

/-- A declarator either makes a function, which is entered by the name of the variable, or is read
like any other node. -/
theorem mem_declaratorsFacts_cons {isExported : Bool} {d : Node} {rest : List Node} :
    fact ∈ declaratorsFacts s isExported (d :: rest) ↔
      (fact ∈ variableDefinition s isExported d ∨
        (variableFunction s d = [] ∧ fact ∈ nodeFacts s d) ∨
        ∃ f ∈ variableFunction s d, fact ∈ nodesFacts (s.enter f.name) f.inside) ∨
      fact ∈ declaratorsFacts s isExported rest := by
  by_cases named : ∃ span id types value, d = .declarator span (.binding id types) [value]
  · obtain ⟨span, id, types, value, rfl⟩ := named
    cases declared : declaredKind? s value with
    | none =>
      have plain : ¬(value.shape = .function ∨ value.shape = .arrow ∧ s.contexts = []) := by
        simp [← declaredKind?_isSome, declared]
      simp [declaratorsFacts, variableDefinition, variableFunction, declared, plain, nodeFacts,
        nodesFacts, or_assoc]
    | some kind =>
      have function : value.shape = .function ∨ value.shape = .arrow ∧ s.contexts = [] := by
        simp [← declaredKind?_isSome, declared]
      simp [declaratorsFacts, variableDefinition, variableFunction, declared, function,
        functionFacts_eq, or_assoc]
  · obtain ⟨read, -⟩ := (declarators_cons_cases isExported d rest).resolve_left named
    have undefined : variableDefinition s isExported d = [] := by
      unfold variableDefinition
      split
      · exact absurd ⟨_, _, _, _, rfl⟩ named
      · rfl
    have unmade : variableFunction s d = [] := by
      unfold variableFunction
      split
      · exact absurd ⟨_, _, _, _, rfl⟩ named
      · rfl
    simp [read, undefined, unmade]

theorem mem_declaratorsFacts {isExported : Bool} {declarators : List Node} :
    fact ∈ declaratorsFacts s isExported declarators ↔
      fact ∈ declarators.flatMap (variableDefinition s isExported) ∨
        fact ∈ nodesFacts s (declarators.filter fun d => (variableFunction s d).isEmpty) ∨
        ∃ f ∈ declarators.flatMap (variableFunction s),
          fact ∈ nodesFacts (s.enter f.name) f.inside := by
  induction declarators with
  | nil => simp [declaratorsFacts, nodesFacts]
  | cons d rest ih =>
    rw [mem_declaratorsFacts_cons, ih]
    grind [nodesFacts]

/-- A node that stands for its only part. -/
theorem mem_nodeFacts_of_part (outer : n.outerParts s = [part]) (around : s.around n = s)
    (own : n.ownFacts s = []) (functions : n.functions s = [])
    (same : nodeFacts s n = nodeFacts s part) :
    fact ∈ nodeFacts s n ↔
      fact ∈ n.ownFacts s ∨ fact ∈ nodesFacts (s.around n) (n.outerParts s) ∨
        ∃ f ∈ n.functions s, fact ∈ nodesFacts (s.enter f.name) f.inside := by
  simp [same, own, outer, around, functions, nodesFacts]

/-- What is learned from a node comes from the node itself, from its outer parts, or from inside a
function that it makes. -/
theorem mem_nodeFacts : fact ∈ nodeFacts s n ↔
    fact ∈ n.ownFacts s ∨ fact ∈ nodesFacts (s.around n) (n.outerParts s) ∨
      ∃ f ∈ n.functions s, fact ∈ nodesFacts (s.enter f.name) f.inside := by
  -- only the nodes named here look at a part before they read it
  cases n with
  | call span optional callee args =>
    by_cases bare : callee.isBareIdent <;>
      simp [nodeFacts, Node.ownFacts, Node.outerParts, Node.functions, nodesFacts, Scope.around,
        bare]
  | construct span callee args =>
    by_cases bare : callee.isBareIdent <;>
      simp [nodeFacts, Node.ownFacts, Node.outerParts, Node.functions, nodesFacts, Scope.around,
        bare]
  | assign span plain target value =>
    simp only [nodeFacts, Node.ownFacts, Node.outerParts, Node.functions]
    cases exportTarget? target with
    | none => simp [nodesFacts, Scope.around]
    | some what =>
      cases what with
      | moduleObject => simp [nodesFacts, Scope.around]
      | named name =>
        by_cases function : value.isFunctionValue <;>
          simp [function, nodesFacts, Scope.around, givenName, functionFacts_eq, or_assoc]
  | compound span kind parts =>
    by_cases heads : kind = .forVars
    · subst heads
      exact mem_declaratorsFacts
    · simp [nodeFacts, Node.ownFacts, Node.outerParts, Node.functions, Scope.around, heads]
  | keyValue key keyParts value =>
    cases spelled : key.name? with
    | none =>
      simp [nodeFacts, Node.ownFacts, Node.outerParts, Node.functions, Scope.around, spelled,
        givenName, Key.expression, nodesFacts_append, nodesFacts]
    | some name =>
      by_cases function : value.isFunctionValue <;>
        simp [nodeFacts, Node.ownFacts, Node.outerParts, Node.functions, Scope.around, spelled,
          givenName, Key.expression, nodesFacts, function, functionFacts_eq]
  | classProperty key keyParts value types =>
    cases spelled : key.name? with
    | none =>
      rcases value with _ | ⟨single, _ | ⟨second, rest⟩⟩ <;>
        simp [nodeFacts, Node.ownFacts, Node.outerParts, Node.functions, Scope.around, spelled,
          givenName, Key.expression, nodesFacts_append, nodesFacts]
    | some name =>
      rcases value with _ | ⟨single, _ | ⟨second, rest⟩⟩
      · simp [nodeFacts, Node.ownFacts, Node.outerParts, Node.functions, Scope.around, spelled,
          Key.expression, nodesFacts]
      · by_cases function : single.isFunctionValue <;>
          simp [nodeFacts, Node.ownFacts, Node.outerParts, Node.functions, Scope.around, spelled,
            givenName, Key.expression, nodesFacts, function, functionFacts_eq]
      · simp [nodeFacts, Node.ownFacts, Node.outerParts, Node.functions, Scope.around, spelled,
          Key.expression, nodesFacts_append, nodesFacts]
  | vars span declarators => exact mem_declaratorsFacts
  | exportDecl decl =>
    cases decl with
    | functionDecl span name params body types =>
      simp [nodeFacts, Node.ownFacts, Node.outerParts, Node.functions, nodesFacts_append,
        nodesFacts]
    | classNode span name members superClass types =>
      simp [nodeFacts, Node.ownFacts, Node.outerParts, Node.functions, Scope.around,
        nodesFacts_append]
    | vars span declarators => exact mem_declaratorsFacts
    | _ => exact mem_nodeFacts_of_part rfl rfl rfl rfl rfl
  | _ =>
    simp [nodeFacts, Node.ownFacts, Node.outerParts, Node.functions, nodesFacts, Scope.around,
      nodesFacts_append]

/-! ### Where a reading comes to -/

/-- A reading of `n` in the scope `s` comes to the node `m` in the scope `inner`. -/
inductive Visits : Scope → Node → Scope → Node → Prop
  | self {s : Scope} {n : Node} : Visits s n s n
  | part {s inner : Scope} {n part m : Node} (member : part ∈ n.outerParts s)
      (deeper : Visits (s.around n) part inner m) : Visits s n inner m
  | inside {s inner : Scope} {n part m : Node} {f : FunctionNode} (made : f ∈ n.functions s)
      (member : part ∈ f.inside) (deeper : Visits (s.enter f.name) part inner m) :
      Visits s n inner m

theorem within_of_mem_contents {value : Node} (member : part ∈ value.contents) :
    Within value part := by
  fun_induction Node.contents value with
  | case1 span inner ih => exact .child List.mem_cons_self (ih member)
  | case2 => exact .child member .self
  | case3 => exact .child member .self
  | case4 => cases member

/-- What is read inside a function value that is given a name. -/
theorem within_of_givenName {name : Option String} {value : Node} {f : FunctionNode}
    (made : f ∈ givenName name value) (member : part ∈ f.inside) : Within value part := by
  unfold givenName at made
  split at made
  · obtain rfl := List.mem_singleton.mp made
    exact within_of_mem_contents member
  · cases made

theorem within_of_variableFunction {d : Node} {f : FunctionNode}
    (made : f ∈ variableFunction s d) (member : part ∈ f.inside) : Within d part := by
  unfold variableFunction at made
  split at made
  · next span id types value =>
    split at made
    · obtain rfl := List.mem_singleton.mp made
      exact .child (List.mem_cons_of_mem _ List.mem_cons_self) (within_of_mem_contents member)
    · cases made
  · cases made

theorem mem_of_mem_expression {key : Key} {keyParts : List Node}
    (member : part ∈ key.expression keyParts) : part ∈ keyParts := by
  unfold Key.expression at member
  split at member
  · cases member
  · exact member

theorem below_of_mem_outerParts (member : part ∈ n.outerParts s) :
    ∃ c ∈ n.children, Within c part := by
  cases n with
  | keyValue key keyParts value =>
    simp only [Node.outerParts] at member
    split at member
    · refine ⟨part, ?_, .self⟩
      exact (List.mem_append.mp member).elim
        (fun inKey => List.mem_append_left _ (mem_of_mem_expression inKey))
        (List.mem_append_right _)
    · cases member
  | classProperty key keyParts value types =>
    simp only [Node.outerParts, List.append_assoc] at member
    split at member
    · refine ⟨part, ?_, .self⟩
      rw [Node.children, List.append_assoc]
      exact (List.mem_append.mp member).elim
        (fun inKey => List.mem_append_left _ (mem_of_mem_expression inKey))
        (List.mem_append_right _)
    · cases member
  | exportDecl decl =>
    cases decl with
    | functionDecl span name params body types => cases member
    | classNode span name members superClass types =>
      exact ⟨_, List.mem_cons_self, .child member .self⟩
    | vars span declarators => exact ⟨part, (List.mem_filter.mp member).1, .self⟩
    | _ => exact ⟨part, member, .self⟩
  | _ =>
    refine ⟨part, ?_, .self⟩
    simp [Node.outerParts, Node.children] at member ⊢ <;> grind

theorem below_of_mem_inside {f : FunctionNode} (made : f ∈ n.functions s)
    (member : part ∈ f.inside) : ∃ c ∈ n.children, Within c part := by
  have declared {declarators : List Node} (made : f ∈ declarators.flatMap (variableFunction s)) :
      ∃ c ∈ declarators, Within c part := by
    obtain ⟨d, listed, made⟩ := List.mem_flatMap.mp made
    exact ⟨d, listed, within_of_variableFunction made member⟩
  cases n with
  | assign span plain target value =>
    refine ⟨value, List.mem_cons_of_mem _ List.mem_cons_self, ?_⟩
    simp only [Node.functions] at made
    split at made
    · exact within_of_givenName made member
    · cases made
  | compound span kind parts =>
    by_cases heads : kind = .forVars
    · subst heads
      exact declared made
    · simp [Node.functions, heads] at made
  | keyValue key keyParts value =>
    exact ⟨value, List.mem_append_right _ List.mem_cons_self, within_of_givenName made member⟩
  | classProperty key keyParts value types =>
    rcases value with _ | ⟨single, _ | ⟨second, rest⟩⟩
    · cases made
    · exact ⟨single, by simp [Node.children], within_of_givenName made member⟩
    · cases made
  | vars span declarators => exact declared made
  | exportDecl decl =>
    cases decl with
    | functionDecl span name params body types =>
      obtain rfl := List.mem_singleton.mp made
      exact ⟨part, member, .self⟩
    | vars span declarators => exact declared made
    | _ => cases made
  | _ =>
    simp [Node.functions] at made
    all_goals
      subst made
      refine ⟨part, ?_, .self⟩
      simp only [Node.children, List.mem_append] at member ⊢
      grind

theorem sizeOf_lt_of_below (below : ∃ c ∈ n.children, Within c part) : sizeOf part < sizeOf n := by
  obtain ⟨c, member, within⟩ := below
  exact Nat.lt_of_le_of_lt within.sizeOf_le (sizeOf_lt_of_mem_children member)

theorem Visits.within (visits : Visits s n inner m) : Within n m := by
  induction visits with
  | self => exact .self
  | part member _ ih =>
    obtain ⟨c, child, within⟩ := below_of_mem_outerParts member
    exact .child child (within.trans ih)
  | inside made member _ ih =>
    obtain ⟨c, child, within⟩ := below_of_mem_inside made member
    exact .child child (within.trans ih)

theorem Visits.mem_nodeFacts (visits : Visits s n inner m) (own : fact ∈ m.ownFacts inner) :
    fact ∈ nodeFacts s n := by
  induction visits with
  | self => exact Script.mem_nodeFacts.mpr (.inl own)
  | part member _ ih =>
    exact Script.mem_nodeFacts.mpr (.inr (.inl (mem_nodesFacts.mpr ⟨_, member, ih own⟩)))
  | inside made member _ ih =>
    exact Script.mem_nodeFacts.mpr
      (.inr (.inr ⟨_, made, mem_nodesFacts.mpr ⟨_, member, ih own⟩⟩))

theorem exists_visits (s : Scope) (n : Node) (learned : fact ∈ nodeFacts s n) :
    ∃ inner m, Visits s n inner m ∧ fact ∈ m.ownFacts inner := by
  -- recursion on the size of the tree, since the inside of a function need not be right below `n`
  rcases mem_nodeFacts.mp learned with own | outer | ⟨f, made, inside⟩
  · exact ⟨s, n, .self, own⟩
  · obtain ⟨part, member, learned⟩ := mem_nodesFacts.mp outer
    have below := sizeOf_lt_of_below (below_of_mem_outerParts member)
    obtain ⟨inner, m, visits, own⟩ := exists_visits _ part learned
    exact ⟨inner, m, .part member visits, own⟩
  · obtain ⟨part, member, learned⟩ := mem_nodesFacts.mp inside
    have below := sizeOf_lt_of_below (below_of_mem_inside made member)
    obtain ⟨inner, m, visits, own⟩ := exists_visits _ part learned
    exact ⟨inner, m, .inside made member visits, own⟩
termination_by sizeOf n

/-- Whatever is learned from a list of nodes is learned from a node that the reading comes to. -/
theorem mem_learnedFrom_iff_visits {nodes : List Node} :
    fact ∈ learnedFrom s nodes ↔
      ∃ n ∈ nodes, ∃ inner m, Visits s n inner m ∧ fact ∈ m.ownFacts inner := by
  rw [learnedFrom_eq, mem_nodesFacts]
  constructor
  · rintro ⟨n, member, learned⟩
    exact ⟨n, member, exists_visits s n learned⟩
  · rintro ⟨n, member, inner, m, visits, own⟩
    exact ⟨n, member, visits.mem_nodeFacts own⟩

/-! ### What one node learns by itself -/

/-- The function that a call or a look-up is put down to. -/
def Fact.context? : Fact → Option (Option String)
  | .call _ site => some site.context
  | .query q => some q.context
  | .define _ => none
  | .exported _ => none

/-- What a node itself can add: a call or a look-up in the function it stands in, an exported name,
or a definition. One that could be cut out is of a function which the node declares. -/
inductive OwnFact (s : Scope) (n : Node) : Fact → Prop
  | use {fact : Fact} (context : fact.context? = some s.context) : OwnFact s n fact
  | exported (name : String) : OwnFact s n (.exported name)
  | kept (name : String) (span : Span) {kind : FunctionKind} {isExported : Bool}
      (keeps : kind.isStandalone = false ∨ isExported = true) :
      OwnFact s n (s.define name span kind isExported)
  | declared (id : Ident) (kind : FunctionKind) (member : id ∈ n.declaredFunctions)
      (alone : kind = .declaration → n.standsAlone) :
      OwnFact s n (s.define id.name id.span kind false)

theorem context_of_mem_calls {callee : Node} {span : Span} {kind : CallKind}
    (own : fact ∈ callee.calleeName?.toList.map fun t => s.call t.1 span kind t.2) :
    fact.context? = some s.context := by
  obtain ⟨t, -, rfl⟩ := List.mem_map.mp own
  rfl

theorem context_of_mem_queryFacts {method : QueryMethod} {args : List Node} {span : Span}
    (own : fact ∈ queryFacts s method args span) : fact.context? = some s.context := by
  cases args with
  | nil => cases own
  | cons arg rest =>
    obtain rfl := List.mem_singleton.mp own
    rfl

theorem context_of_mem_callFacts {callee : Node} {args : List Node} {span : Span}
    (own : fact ∈ callFacts s callee args span) : fact.context? = some s.context := by
  rcases List.mem_append.mp own with viaMember | called
  · cases member : callee.memberCall? with
    | none => simp [member] at viaMember
    | some receiverAndMethod =>
      simp only [member, List.mem_append] at viaMember
      rcases viaMember with queried | bound
      · split at queried
        · exact context_of_mem_queryFacts queried
        · cases queried
      · split at bound
        · exact context_of_mem_calls bound
        · cases bound
  · exact context_of_mem_calls called

theorem ownFact_of_mem_exported {α : Type} {names : List α} {nameOf : α → String}
    (own : fact ∈ names.map fun a => .exported (nameOf a)) : OwnFact s n fact := by
  obtain ⟨a, -, rfl⟩ := List.mem_map.mp own
  exact .exported _

/-- The definition of a member by the name that its key spells out. -/
theorem ownFact_of_mem_define {α : Type} {names : List α} {nameOf : α → String} {spanOf : α → Span}
    {kind : FunctionKind} {isExported : Bool}
    (keeps : kind.isStandalone = false ∨ isExported = true)
    (own : fact ∈ names.map fun a => s.define (nameOf a) (spanOf a) kind isExported) :
    OwnFact s n fact := by
  obtain ⟨a, -, rfl⟩ := List.mem_map.mp own
  exact .kept _ _ keeps

theorem functionVariable?_of_declaredKind? {span : Span} {id : Ident} {types : List Node}
    {value : Node} {kind : FunctionKind} (declared : declaredKind? s value = some kind) :
    functionVariable? (.declarator span (.binding id types) [value]) = some id ∧
      kind ≠ .declaration := by
  unfold declaredKind? at declared
  split at declared <;> cases declared <;>
    simp_all [functionVariable?, Node.isFunctionValue]

theorem define_of_mem_variableDefinition {declarators : List Node} {isExported : Bool}
    (own : fact ∈ declarators.flatMap (variableDefinition s isExported)) :
    ∃ id ∈ declarators.filterMap functionVariable?, ∃ kind : FunctionKind,
      kind ≠ .declaration ∧ fact = s.define id.name id.span kind isExported := by
  obtain ⟨d, listed, own⟩ := List.mem_flatMap.mp own
  unfold variableDefinition at own
  split at own
  · next id _ value =>
    obtain ⟨kind, known, rfl⟩ := List.mem_map.mp own
    obtain ⟨function, other⟩ := functionVariable?_of_declaredKind? (Option.mem_toList.mp known)
    exact ⟨id, List.mem_filterMap.mpr ⟨_, listed, function⟩, kind, other, rfl⟩
  · cases own

theorem ownFact_of_mem_valueDefinition {name : String} {value : Node}
    (own : fact ∈ valueDefinition s name value) : OwnFact s n fact := by
  unfold valueDefinition at own
  split at own
  · obtain rfl := List.mem_singleton.mp own
    exact .kept _ _ (.inr rfl)
  · obtain rfl := List.mem_singleton.mp own
    exact .kept _ _ (.inr rfl)
  · cases own

theorem ownFact_of_mem_assign {span : Span} {plain : Bool} {target value : Node}
    (own : fact ∈ (Node.assign span plain target value).ownFacts s) : OwnFact s n fact := by
  simp only [Node.ownFacts] at own
  split at own
  · rcases List.mem_append.mp own with named | defined
    · rcases List.mem_cons.mp named with rfl | other
      · exact .exported _
      · obtain ⟨id, -, rfl⟩ := Option.map_eq_some_iff.mp (Option.mem_toList.mp other)
        exact .exported _
    · exact ownFact_of_mem_valueDefinition defined
  · exact ownFact_of_mem_exported own
  · cases own

theorem ownFact_of_mem_variableDefinition {declarators : List Node}
    (declares : n.declaredFunctions = declarators.filterMap functionVariable?)
    (own : fact ∈ declarators.flatMap (variableDefinition s false)) : OwnFact s n fact := by
  obtain ⟨id, member, kind, other, rfl⟩ := define_of_mem_variableDefinition own
  exact .declared id kind (declares ▸ member) fun same => absurd same other

theorem ownFact_of_mem (own : fact ∈ n.ownFacts s) : OwnFact s n fact := by
  cases n with
  | ident id =>
    obtain rfl := List.mem_singleton.mp own
    exact .use rfl
  | shorthand id =>
    obtain rfl := List.mem_singleton.mp own
    exact .use rfl
  | call span optional callee args => exact .use (context_of_mem_callFacts own)
  | construct span callee args => exact .use (context_of_mem_calls own)
  | assign span plain target value => exact ownFact_of_mem_assign own
  | compound span kind parts =>
    by_cases heads : kind = .forVars
    · subst heads
      exact ownFact_of_mem_variableDefinition rfl own
    · simp [Node.ownFacts, heads] at own
  | keyValue key keyParts value =>
    simp only [Node.ownFacts] at own
    split at own
    · exact ownFact_of_mem_define (.inl rfl) own
    · cases own
  | method key keyParts params body types => exact ownFact_of_mem_define (.inl rfl) own
  | classMethod kind key keyParts params body types =>
    simp only [Node.ownFacts] at own
    split at own
    · exact ownFact_of_mem_define (.inl rfl) own
    · cases own
  | classProperty key keyParts value types =>
    simp only [Node.ownFacts] at own
    rcases value with _ | ⟨single, _ | ⟨second, rest⟩⟩
    · cases own
    · simp only at own
      split at own
      · exact ownFact_of_mem_define (.inl rfl) own
      · cases own
    · cases own
  | functionDecl span name params body types =>
    obtain rfl := List.mem_singleton.mp own
    exact .declared name .declaration List.mem_cons_self fun _ => rfl
  | vars span declarators => exact ownFact_of_mem_variableDefinition rfl own
  | exportDecl decl =>
    cases decl with
    | functionDecl span name params body types =>
      obtain rfl := List.mem_singleton.mp own
      exact .kept _ _ (.inr rfl)
    | vars span declarators =>
      obtain ⟨id, -, kind, -, rfl⟩ := define_of_mem_variableDefinition own
      exact .kept _ _ (.inr rfl)
    | _ => cases own
  | exportDefaultFunction name params body types => exact ownFact_of_mem_define (.inr rfl) own
  | exportDefault value => exact ownFact_of_mem_exported own
  | exportNames names => exact ownFact_of_mem_exported own
  | _ => cases own

/-- Calls and look-ups are put down to the function that they stand in. -/
theorem context_of_mem_ownFacts {context : Option String} (own : fact ∈ n.ownFacts s)
    (has : fact.context? = some context) : context = s.context := by
  cases ownFact_of_mem own with
  | use same => exact Option.some.inj (has.symm.trans same)
  | exported => cases has
  | kept => cases has
  | declared => cases has

/-! ### The function that a call is put down to -/

theorem mem_callsOf {facts : List Fact} {name : String} {site : CallSite} :
    (name, site) ∈ FileModel.callsOf facts ↔ Fact.call name site ∈ facts := by
  simp only [FileModel.callsOf, List.mem_filterMap]
  constructor
  · rintro ⟨fact, member, found⟩
    cases fact <;> cases found
    exact member
  · exact fun member => ⟨_, member, rfl⟩

theorem mem_queriesOf {facts : List Fact} {q : DomQuery} :
    q ∈ FileModel.queriesOf facts ↔ Fact.query q ∈ facts := by
  simp only [FileModel.queriesOf, List.mem_filterMap]
  constructor
  · rintro ⟨fact, member, found⟩
    cases fact <;> cases found
    exact member
  · exact fun member => ⟨_, member, rfl⟩

/-- Whatever a reader visits, the functions and the classes around it are on its stacks afterwards
as they were before. Every call and every look-up that is recorded is made by a node that the
reading comes to, and the other way round. It is put down to the innermost of the functions entered
on the way that has a name. -/
theorem context_eq_innermost (s : Scope) (filePath : String) (faults : List Nat)
    (items : List Node) :
    let model := FileModel.ofFacts filePath faults (learnedFrom s items)
    (∀ (c : Collector) (n : Node), (c.visit n).contexts = c.contexts ∧
      (c.visit n).exportedClasses = c.exportedClasses) ∧
    (∀ name site, (name, site) ∈ model.calls ↔ ∃ item ∈ items, ∃ inner node,
      Visits s item inner node ∧ Fact.call name site ∈ node.ownFacts inner) ∧
    (∀ query, query ∈ model.queries ↔ ∃ item ∈ items, ∃ inner node,
      Visits s item inner node ∧ Fact.query query ∈ node.ownFacts inner) ∧
    ∀ (inner : Scope) (node : Node),
      (∀ name site, Fact.call name site ∈ node.ownFacts inner →
        site.context = inner.contexts.findSome? id) ∧
      ∀ query, Fact.query query ∈ node.ownFacts inner →
        query.context = inner.contexts.findSome? id := by
  refine ⟨fun c n => ?_, fun name site => ?_, fun query => ?_, fun inner node => ⟨?_, ?_⟩⟩
  · rw [toScope_visit]
    exact ⟨rfl, rfl⟩
  · exact mem_callsOf.trans mem_learnedFrom_iff_visits
  · exact mem_queriesOf.trans mem_learnedFrom_iff_visits
  · exact fun name site own => context_of_mem_ownFacts own rfl
  · exact fun query own => context_of_mem_ownFacts own rfl

/-- `({ 1() { first } })` and `class { #run = () => { second } }`. -/
def unspelledMembers : List Node :=
  [.object default [.method (.number default) [] [] [.ident ⟨"first", default⟩] []],
    .classNode default none [.compound default .privateProperty
      [.arrow default [] [.ident ⟨"second", default⟩] []]] [] []]

/-- A method with a number for its key and a private property have no name to go by. -/
theorem context_unspelled :
    (FileModel.ofFacts "app.js" []
      (learnedFrom { filePath := "app.js", lineOf := fun _ => 1 } unspelledMembers)).calls.map
        (fun c => (c.1, c.2.context)) = [("first", none), ("second", none)] := rfl

end PageWiring.Script
