import PageWiring.Proofs.ScopedReading
import PageWiring.Text.Basic

/-!
Which of the names that a script evaluates leave a call site behind.

`Occurs` says where in a tree a name stands. A name that is read anywhere else than in the computed
key of a method, as the component of an element, or as the receiver of an export is recorded. In
those three places it is not, and what is not read is recorded only as the name of a called member.
-/
namespace PageWiring.Script

/-- The expression of a key; a key that spells out its name has none. -/
def Key.expression (key : Key) (keyParts : List Node) : List Node :=
  if key.name?.isSome then [] else keyParts

/-- The component that the name of an element stands for: the root of a path of names, or a name
that does not start with a small letter. Other names are tags of the page. -/
def componentName? (tag : String) : Option String :=
  match Text.splitAt '.' tag.toList with
  | first :: _ :: _ => some (String.ofList first)
  | _ =>
    match tag.toList with
    | [] => none
    | c :: cs =>
      if ('a' ≤ c && c ≤ 'z') || cs.contains '-' || cs.contains ':' then none else some tag

namespace Node

/-- The parts that are evaluated as part of a node, apart from method keys, from types, and from the
target of an export. -/
def parts : Node → List Node
  | .ident _ => []
  | .text _ _ => []
  | .template _ _ parts => parts
  | .paren _ inner => [inner]
  | .function _ _ params body _ => params ++ body
  | .arrow _ params body _ => params ++ body
  | .classNode _ _ members superClass _ => members ++ superClass
  | .object _ props => props
  | .member _ _ receiver _ => [receiver]
  | .call _ _ callee args => callee :: args
  | .construct _ callee args => callee :: args
  | .assign _ _ target value =>
    if (exportTarget? target).isSome then [value] else [target, value]
  | .jsx _ _ attributes children => attributes ++ children
  | .compound _ _ parts => parts
  | .shorthand _ => []
  | .keyValue key keyParts value => key.expression keyParts ++ [value]
  | .method _ _ params body _ => params ++ body
  | .constructor _ params body _ => params ++ body
  | .classMethod _ _ _ params body _ => params ++ body
  | .privateMethod _ params body _ => params ++ body
  | .classProperty key keyParts value _ => key.expression keyParts ++ value
  | .binding _ _ => []
  | .functionDecl _ _ params body _ => params ++ body
  | .vars _ declarators => declarators
  | .declarator _ target value => target :: value
  | .exportDecl decl => [decl]
  | .exportDefaultFunction _ params body _ => params ++ body
  | .exportDefaultClass members superClass _ => members ++ superClass
  | .exportDefault value => [value]
  | .exportNames _ => []

/-- The expression of the computed key of a method. -/
def methodKey : Node → List Node
  | .method key keyParts _ _ _ => key.expression keyParts
  | .classMethod _ key keyParts _ _ _ => key.expression keyParts
  | _ => []

/-- What the type annotations of a node mention. -/
def annotations : Node → List Node
  | .function _ _ _ _ types => types
  | .arrow _ _ _ types => types
  | .classNode _ _ _ _ types => types
  | .method _ _ _ _ types => types
  | .constructor _ _ _ types => types
  | .classMethod _ _ _ _ _ types => types
  | .privateMethod _ _ _ types => types
  | .classProperty _ _ _ types => types
  | .binding _ types => types
  | .functionDecl _ _ _ _ types => types
  | .exportDefaultFunction _ _ _ types => types
  | .exportDefaultClass _ _ types => types
  | _ => []

/-- The members that a node calls or constructs by name, and those it binds by `bind`, `call` or
`apply`. -/
def calledMembers : Node → List String
  | .call _ _ callee _ =>
    match callee.memberCall? with
    | none => []
    | some (receiver, called) =>
      called :: if ["bind", "call", "apply"].contains called
        then (receiver.memberCall?.map (·.2)).toList else []
  | .construct _ callee _ => (callee.memberCall?.map (·.2)).toList
  | _ => []

/-- A node that is more than the name it reads. -/
def isComposed : Node → Bool
  | .ident _ => false
  | .shorthand _ => false
  | _ => true

end Node

/-- Where in a tree a name stands. -/
inductive Place where
  /-- Its value is read, in none of the following places. -/
  | plain
  /-- Inside the computed key of a method. -/
  | methodKey
  /-- As the component of an element. -/
  | component
  /-- As the receiver in the target of an export. -/
  | receiver
  /-- As a member that is called. -/
  | member
  /-- Inside a type annotation. -/
  | mention
  deriving DecidableEq, Repr

inductive Occurs (name : String) : Node → Place → Prop
  | ident {id : Ident} (named : id.name = name) : Occurs name (.ident id) .plain
  | shorthand {id : Ident} (named : id.name = name) : Occurs name (.shorthand id) .plain
  | component {span : Span} {tag : String} {attributes children : List Node}
      (named : componentName? tag = some name) :
      Occurs name (.jsx span tag attributes children) .component
  | called {n : Node} (named : name ∈ n.calledMembers) : Occurs name n .member
  | receiver {span : Span} {plain : Bool} {target value : Node} {place : Place}
      (exports : (exportTarget? target).isSome) (inside : Occurs name target place) :
      Occurs name (.assign span plain target value) .receiver
  | part {n part : Node} {place : Place} (member : part ∈ n.parts)
      (inside : Occurs name part place) : Occurs name n place
  | key {n part : Node} {place : Place} (member : part ∈ n.methodKey)
      (inside : Occurs name part place) : Occurs name n .methodKey
  | mention {n part : Node} {place : Place} (member : part ∈ n.annotations)
      (inside : Occurs name part place) : Occurs name n .mention

/-- The names under which calls are recorded. -/
def callNames (facts : List Fact) : List String := (FileModel.callsOf facts).map (·.1)

@[simp] theorem callNames_nil : callNames [] = [] := rfl

@[simp] theorem callNames_append (before after : List Fact) :
    callNames (before ++ after) = callNames before ++ callNames after := by
  simp [callNames, FileModel.callsOf]

@[simp] theorem callNames_call (name : String) (site : CallSite) (rest : List Fact) :
    callNames (.call name site :: rest) = name :: callNames rest := rfl

@[simp] theorem callNames_define (d : FunctionDef) (rest : List Fact) :
    callNames (.define d :: rest) = callNames rest := rfl

@[simp] theorem callNames_query (q : DomQuery) (rest : List Fact) :
    callNames (.query q :: rest) = callNames rest := rfl

@[simp] theorem callNames_exported (name : String) (rest : List Fact) :
    callNames (.exported name :: rest) = callNames rest := rfl

@[simp] theorem callNames_scope_call (s : Scope) (name : String) (span : Span) (kind : CallKind)
    (viaGlobal : Bool) (rest : List Fact) :
    callNames (s.call name span kind viaGlobal :: rest) = name :: callNames rest := rfl

@[simp] theorem callNames_scope_define (s : Scope) (name : String) (span : Span)
    (kind : FunctionKind) (isExported : Bool) (rest : List Fact) :
    callNames (s.define name span kind isExported :: rest) = callNames rest := rfl

/-! ### What a call records -/

theorem Node.memberCall?_eq_none {n : Node} {id : Ident} (bare : n.ident? = some id) :
    n.memberCall? = none := by
  unfold ident? at bare
  unfold memberCall?
  split at bare
  · next unwrapped => rw [unwrapped]
  · cases bare

theorem callNames_queryFacts {s : Scope} {method : QueryMethod} {args : List Node}
    {span : Span} : callNames (queryFacts s method args span) = [] := by
  cases args <;> rfl

/-- The names of the calls of one callee. -/
theorem callNames_callee (s : Scope) (callee : Node) (span : Span) (kind : CallKind) :
    callNames (callee.calleeName?.toList.map fun t => s.call t.1 span kind t.2) =
      (callee.calleeName?.map (·.1)).toList := by
  cases callee.calleeName? <;> rfl

theorem calleeName?_map_fst (callee : Node) :
    callee.calleeName?.map (·.1) =
      (callee.ident?.map (·.name)).or (callee.memberCall?.map (·.2)) := by
  unfold Node.calleeName?
  cases callee.ident? with
  | some id => rfl
  | none => cases callee.memberCall? <;> rfl

theorem mem_callNames_constructFacts {s : Scope} {callee : Node} {span : Span} {name : String}
    (args : List Node) :
    name ∈ callNames (constructFacts s callee span) ↔
      (∃ id, callee.ident? = some id ∧ id.name = name) ∨
        name ∈ (Node.construct span callee args).calledMembers := by
  rw [constructFacts, callNames_callee, calleeName?_map_fst, Node.calledMembers]
  cases bare : callee.ident? with
  | some id => simp [Node.memberCall?_eq_none bare, eq_comm]
  | none => simp

/-- A receiver that is bound counts by the member it names; a bare name is read anyway. -/
theorem callNames_bound (s : Scope) (receiver : Node) (method : String) (span : Span) :
    callNames (if ["bind", "call", "apply"].contains method && !receiver.isBareIdent then
        receiver.calleeName?.toList.map fun t => s.call t.1 span .reference t.2 else []) =
      if ["bind", "call", "apply"].contains method then
        (receiver.memberCall?.map (·.2)).toList else [] := by
  cases bare : receiver.ident? with
  | some id => simp [Node.isBareIdent, bare, Node.memberCall?_eq_none bare]
  | none =>
    simp only [Node.isBareIdent, bare, Option.isSome_none, Bool.not_false, Bool.and_true]
    split
    · rw [callNames_callee, calleeName?_map_fst, bare]
      simp
    · rfl

theorem mem_callNames_callFacts {s : Scope} {callee : Node} {args : List Node} {span : Span}
    {name : String} (optional : Bool) :
    name ∈ callNames (callFacts s callee args span) ↔
      (∃ id, callee.ident? = some id ∧ id.name = name) ∨
        name ∈ (Node.call span optional callee args).calledMembers := by
  unfold callFacts
  rw [callNames_append, callNames_callee, calleeName?_map_fst, Node.calledMembers]
  cases bare : callee.ident? with
  | some id => simp [Node.memberCall?_eq_none bare, eq_comm]
  | none =>
    cases called : callee.memberCall? with
    | none => simp
    | some m =>
      obtain ⟨receiver, method⟩ := m
      cases asked : QueryMethod.ofName? method with
      | none =>
        simp only [asked, callNames_append, callNames_bound]
        simp [or_comm]
      | some query =>
        simp only [asked, callNames_append, callNames_queryFacts, callNames_bound]
        simp [or_comm]

/-! ### What a list of facts says about a node -/

/-- The name is read in a plain place of the node, or called there as a member. -/
def Counted (name : String) (n : Node) : Prop := Occurs name n .plain ∨ Occurs name n .member

/-- The facts record a name wherever it counts, and nothing that is not at least mentioned by a type
annotation. -/
structure Faithful (name : String) (n : Node) (facts : List Fact) : Prop where
  recorded : Counted name n → name ∈ callNames facts
  met : name ∈ callNames facts → Counted name n ∨ Occurs name n .mention

structure FaithfulIn (name : String) (nodes : List Node) (facts : List Fact) : Prop where
  recorded : ∀ part ∈ nodes, Counted name part → name ∈ callNames facts
  met : name ∈ callNames facts →
    ∃ part ∈ nodes, Counted name part ∨ Occurs name part .mention

variable {name : String} {n callee : Node} {nodes args : List Node}
  {facts before after own inner later : List Fact}

theorem Counted.of_part {part : Node} (member : part ∈ n.parts) (counted : Counted name part) :
    Counted name n :=
  counted.imp (.part member) (.part member)

/-- Only a name by itself counts without being called or inside a part. -/
theorem Counted.cases_of_composed (composed : n.isComposed) (counted : Counted name n) :
    name ∈ n.calledMembers ∨ ∃ part ∈ n.parts, Counted name part := by
  rcases counted with read | called
  · cases read with
    | ident named => cases composed
    | shorthand named => cases composed
    | part member inside => exact .inr ⟨_, member, .inl inside⟩
  · cases called with
    | called named => exact .inl named
    | part member inside => exact .inr ⟨_, member, .inr inside⟩

theorem FaithfulIn.nil : FaithfulIn name [] [] :=
  ⟨by simp, by simp⟩

theorem FaithfulIn.cons (head : Faithful name n before) (tail : FaithfulIn name nodes after) :
    FaithfulIn name (n :: nodes) (before ++ after) where
  recorded part member counted := by
    rw [callNames_append]
    rcases List.mem_cons.mp member with rfl | later
    · exact List.mem_append_left _ (head.recorded counted)
    · exact List.mem_append_right _ (tail.recorded part later counted)
  met recorded := by
    rw [callNames_append, List.mem_append] at recorded
    rcases recorded with here | there
    · exact ⟨n, List.mem_cons_self, head.met here⟩
    · obtain ⟨part, member, met⟩ := tail.met there
      exact ⟨part, List.mem_cons_of_mem _ member, met⟩

theorem FaithfulIn.append {more : List Node} (first : FaithfulIn name nodes before)
    (second : FaithfulIn name more after) :
    FaithfulIn name (nodes ++ more) (before ++ after) where
  recorded part member counted := by
    rw [callNames_append]
    rcases List.mem_append.mp member with here | there
    · exact List.mem_append_left _ (first.recorded part here counted)
    · exact List.mem_append_right _ (second.recorded part there counted)
  met recorded := by
    rw [callNames_append, List.mem_append] at recorded
    rcases recorded with here | there
    · obtain ⟨part, member, met⟩ := first.met here
      exact ⟨part, List.mem_append_left _ member, met⟩
    · obtain ⟨part, member, met⟩ := second.met there
      exact ⟨part, List.mem_append_right _ member, met⟩

theorem FaithfulIn.singleton (single : Faithful name n facts) : FaithfulIn name [n] facts := by
  simpa using FaithfulIn.cons single .nil

theorem FaithfulIn.of_expression {s : Scope} {key : Key}
    (faithful : FaithfulIn name nodes (nodesFacts s nodes)) :
    FaithfulIn name (key.expression nodes) (nodesFacts s (key.expression nodes)) := by
  unfold Key.expression
  split
  · exact .nil
  · exact faithful

/-- Facts that are not calls may stand in front. -/
theorem FaithfulIn.after_silent (silent : callNames own = [])
    (faithful : FaithfulIn name nodes facts) : FaithfulIn name nodes (own ++ facts) := by
  constructor <;> rw [callNames_append, silent, List.nil_append]
  · exact faithful.recorded
  · exact faithful.met

theorem Faithful.after_silent (silent : callNames own = []) (faithful : Faithful name n facts) :
    Faithful name n (own ++ facts) := by
  constructor <;> rw [callNames_append, silent, List.nil_append]
  · exact faithful.recorded
  · exact faithful.met

theorem Faithful.after_define {d : FunctionDef} (faithful : Faithful name n facts) :
    Faithful name n (.define d :: facts) :=
  ⟨faithful.recorded, faithful.met⟩

/-- A node that calls nothing itself, read part by part and then by its annotations. -/
theorem Faithful.of_annotated (composed : n.isComposed) (uncalled : n.calledMembers = [])
    (inParts : FaithfulIn name n.parts before) (inTypes : FaithfulIn name n.annotations after) :
    Faithful name n (before ++ after) where
  recorded counted := by
    rcases counted.cases_of_composed composed with called | ⟨part, member, inside⟩
    · simp [uncalled] at called
    · simp [inParts.recorded part member inside]
  met recorded := by
    rw [callNames_append, List.mem_append] at recorded
    rcases recorded with here | there
    · obtain ⟨part, member, counted | annotated⟩ := inParts.met here
      · exact .inl (counted.of_part member)
      · exact .inr (.part member annotated)
    · obtain ⟨part, member, (read | called) | annotated⟩ := inTypes.met there
      · exact .inr (.mention member read)
      · exact .inr (.mention member called)
      · exact .inr (.mention member annotated)

/-- The annotations of a node may be left out. -/
theorem Faithful.of_parts (composed : n.isComposed) (uncalled : n.calledMembers = [])
    (inParts : FaithfulIn name n.parts facts) : Faithful name n facts where
  recorded counted := by
    rcases counted.cases_of_composed composed with called | ⟨part, member, inside⟩
    · simp [uncalled] at called
    · exact inParts.recorded part member inside
  met recorded := by
    obtain ⟨part, member, counted | annotated⟩ := inParts.met recorded
    · exact .inl (counted.of_part member)
    · exact .inr (.part member annotated)

/-! ### Bare names -/

theorem occurs_paren {span : Span} {place : Place} :
    Occurs name (.paren span n) place ↔ Occurs name n place := by
  constructor
  · intro occurs
    cases occurs with
    | called named => cases named
    | part member inside => exact List.mem_singleton.mp member ▸ inside
    | key member inside => cases member
    | mention member inside => cases member
  · exact .part (List.mem_singleton_self n)

theorem occurs_unwrapParen {place : Place} (n : Node) :
    Occurs name n.unwrapParen place ↔ Occurs name n place := by
  fun_induction Node.unwrapParen n with
  | case1 span inner ih => exact ih.trans occurs_paren.symm
  | case2 n other => rfl

theorem Node.unwrapParen_of_ident? {id : Ident} (bare : n.ident? = some id) :
    n.unwrapParen = .ident id := by
  unfold ident? at bare
  split at bare
  · next own unwrapped => rw [unwrapped, Option.some.inj bare]
  · cases bare

/-- A bare name stands for itself only. -/
theorem occurs_of_ident? {place : Place} {id : Ident} (bare : n.ident? = some id) :
    Occurs name n place ↔ place = .plain ∧ id.name = name := by
  rw [← occurs_unwrapParen n, Node.unwrapParen_of_ident? bare]
  constructor
  · intro occurs
    cases occurs with
    | ident named => exact ⟨rfl, named⟩
    | called named => cases named
    | part member inside => cases member
    | key member inside => cases member
    | mention member inside => cases member
  · rintro ⟨rfl, named⟩
    exact .ident named

theorem occurs_shorthand {place : Place} {id : Ident} :
    Occurs name (.shorthand id) place ↔ place = .plain ∧ id.name = name := by
  constructor
  · intro occurs
    cases occurs with
    | shorthand named => exact ⟨rfl, named⟩
    | called named => cases named
    | part member inside => cases member
    | key member inside => cases member
    | mention member inside => cases member
  · rintro ⟨rfl, named⟩
    exact .shorthand named

/-- A call: a bare callee is recorded by the call itself, any other by reading it. -/
theorem Faithful.of_call (composed : n.isComposed) (parts : n.parts = callee :: args)
    (calls : name ∈ callNames own ↔
      (∃ id, callee.ident? = some id ∧ id.name = name) ∨ name ∈ n.calledMembers)
    (inCallee : Faithful name callee inner) (inArgs : FaithfulIn name args later) :
    Faithful name n (own ++ (if callee.isBareIdent then [] else inner) ++ later) where
  recorded counted := by
    simp only [callNames_append, List.mem_append, calls]
    rcases counted.cases_of_composed composed with called | ⟨part, member, inside⟩
    · exact .inl (.inl (.inr called))
    · rcases List.mem_cons.mp (parts ▸ member) with rfl | later
      · cases bare : part.ident? with
        | some id =>
          simp only [Counted, occurs_of_ident? bare, true_and, reduceCtorEq, false_and,
            or_false] at inside
          exact .inl (.inl (.inl ⟨id, rfl, inside⟩))
        | none =>
          simp [Node.isBareIdent, bare, inCallee.recorded inside]
      · exact .inr (inArgs.recorded part later inside)
  met recorded := by
    simp only [callNames_append, List.mem_append, calls] at recorded
    have first : callee ∈ n.parts := parts ▸ List.mem_cons_self
    rcases recorded with ((⟨id, bare, named⟩ | called) | visited) | inRest
    · exact .inl (.inl (.part first ((occurs_of_ident? bare).mpr ⟨rfl, named⟩)))
    · exact .inl (.inr (.called called))
    · split at visited
      · simp at visited
      · rcases inCallee.met visited with counted | annotated
        · exact .inl (counted.of_part first)
        · exact .inr (.part first annotated)
    · obtain ⟨part, member, counted | annotated⟩ := inArgs.met inRest
      · exact .inl (counted.of_part (parts ▸ List.mem_cons_of_mem _ member))
      · exact .inr (.part (parts ▸ List.mem_cons_of_mem _ member) annotated)

/-! ### What reading a tree records -/

theorem isFunctionValue_of_declaredKind? {s : Scope} {value : Node} {kind : FunctionKind}
    (declared : declaredKind? s value = some kind) : value.isFunctionValue := by
  unfold declaredKind? at declared
  unfold Node.isFunctionValue
  cases shaped : value.shape with
  | other => simp [shaped] at declared
  | function => rfl
  | arrow => rfl

/-- A named property with a function value defines that function; any other is read part by part. -/
theorem nodeFacts_classProperty_cases (s : Scope) (key : Key) (keyParts value types : List Node) :
    (∃ own single, key.name? = some own ∧ value = [single] ∧ single.isFunctionValue ∧
      nodeFacts s (.classProperty key keyParts value types) =
        s.define own key.span .classProperty s.inExportedClass ::
          functionFacts (s.enter (some own)) single) ∨
      nodeFacts s (.classProperty key keyParts value types) =
        nodesFacts s (key.expression keyParts) ++ nodesFacts s value ++ nodesFacts s types := by
  cases spelled : key.name? with
  | none => simp [nodeFacts, Key.expression, spelled]
  | some own =>
    match value with
    | [] => simp [nodeFacts, Key.expression, spelled, nodesFacts]
    | [single] =>
      cases function : single.isFunctionValue <;>
        simp [nodeFacts, Key.expression, spelled, nodesFacts, function]
    | first :: second :: rest => simp [nodeFacts, Key.expression, spelled, nodesFacts]

theorem callNames_map_define (s : Scope) {α : Type} (names : List α) (nameOf : α → String)
    (spanOf : α → Span) (kind : FunctionKind) (isExported : Bool) :
    callNames (names.map fun a => s.define (nameOf a) (spanOf a) kind isExported) = [] := by
  induction names with
  | nil => rfl
  | cons a rest ih => exact ih

theorem callNames_map_exported {α : Type} (names : List α) (nameOf : α → String) :
    callNames (names.map fun a => .exported (nameOf a)) = [] := by
  induction names with
  | nil => rfl
  | cons a rest ih => exact ih

theorem callNames_valueDefinition (s : Scope) (name : String) (value : Node) :
    callNames (valueDefinition s name value) = [] := by
  unfold valueDefinition
  split <;> rfl

mutual

/-- The facts of a tree are faithful to it. The induction follows the reader: one case for each kind
of node, with the scope free since the reader changes it on the way down. -/
theorem faithful_nodeFacts (name : String) : ∀ (n : Node) (s : Scope),
    Faithful name n (nodeFacts s n)
  | .ident id, s => by
    have bare : (Node.ident id).ident? = some id := rfl
    constructor <;> simp [Counted, occurs_of_ident? bare, nodeFacts, Scope.reference, eq_comm]
  | .shorthand id, s => by
    constructor <;> simp [Counted, occurs_shorthand, nodeFacts, Scope.reference, eq_comm]
  | .text _ _, s => .of_parts rfl rfl .nil
  | .template _ _ parts, s => .of_parts rfl rfl (faithfulIn_nodesFacts name parts s)
  | .paren _ inner, s => .of_parts rfl rfl (.singleton (faithful_nodeFacts name inner s))
  | .function _ _ params body types, s =>
    .of_annotated rfl rfl
      ((faithfulIn_nodesFacts name params _).append (faithfulIn_nodesFacts name body _))
      (faithfulIn_nodesFacts name types _)
  | .arrow _ params body types, s =>
    .of_annotated rfl rfl
      ((faithfulIn_nodesFacts name params _).append (faithfulIn_nodesFacts name body _))
      (faithfulIn_nodesFacts name types _)
  | .classNode _ _ members superClass types, s =>
    .of_annotated rfl rfl
      ((faithfulIn_nodesFacts name members _).append (faithfulIn_nodesFacts name superClass _))
      (faithfulIn_nodesFacts name types _)
  | .object _ props, s => .of_parts rfl rfl (faithfulIn_nodesFacts name props s)
  | .member _ _ receiver _, s =>
    .of_parts rfl rfl (.singleton (faithful_nodeFacts name receiver s))
  | .call span optional callee args, s =>
    .of_call rfl rfl (mem_callNames_callFacts optional) (faithful_nodeFacts name callee s)
      (faithfulIn_nodesFacts name args s)
  | .construct span callee args, s =>
    .of_call rfl rfl (mem_callNames_constructFacts args) (faithful_nodeFacts name callee s)
      (faithfulIn_nodesFacts name args s)
  | .assign _ _ target value, s => by
    apply Faithful.of_parts rfl rfl
    rw [nodeFacts, Node.parts]
    cases exports : exportTarget? target with
    | none =>
      exact .cons (faithful_nodeFacts name target s) (.singleton (faithful_nodeFacts name value s))
    | some what =>
      cases what with
      | moduleObject =>
        exact .singleton (.after_silent (callNames_map_exported _ (·))
          (faithful_nodeFacts name value s))
      | named exported =>
        have ident : callNames (value.ident?.map fun id => Fact.exported id.name).toList = [] := by
          cases value.ident? <;> rfl
        have silent : callNames (.exported exported ::
            (value.ident?.map fun id => Fact.exported id.name).toList ++
              valueDefinition s exported value) = [] := by
          simp [ident, callNames_valueDefinition]
        refine .singleton (.after_silent silent ?_)
        cases function : value.isFunctionValue with
        | true => exact faithful_functionFacts name value _ function
        | false => exact faithful_nodeFacts name value s
  | .jsx _ _ attributes children, s =>
    .of_parts rfl rfl
      ((faithfulIn_nodesFacts name attributes s).append (faithfulIn_nodesFacts name children s))
  | .compound _ kind parts, s => by
    apply Faithful.of_parts rfl rfl
    by_cases heads : kind = .forVars
    · subst heads
      exact faithfulIn_declaratorsFacts name parts s false
    · rw [nodeFacts]
      · exact faithfulIn_nodesFacts name parts s
      · exact heads
  | .keyValue key keyParts value, s => by
    apply Faithful.of_parts rfl rfl
    rw [nodeFacts, Node.parts, Key.expression]
    cases key.name? with
    | none =>
      exact (faithfulIn_nodesFacts name keyParts s).append
        (.singleton (faithful_nodeFacts name value s))
    | some own =>
      apply FaithfulIn.singleton
      cases function : value.isFunctionValue with
      | false => exact faithful_nodeFacts name value s
      | true => exact (faithful_functionFacts name value _ function).after_define
  | .method key _ params body types, s =>
    .of_annotated rfl rfl
      ((FaithfulIn.after_silent (callNames_map_define s _ (·) _ _ _)
        (faithfulIn_nodesFacts name params _)).append (faithfulIn_nodesFacts name body _))
      (faithfulIn_nodesFacts name types _)
  | .constructor _ params body types, s =>
    .of_annotated rfl rfl
      ((faithfulIn_nodesFacts name params _).append (faithfulIn_nodesFacts name body _))
      (faithfulIn_nodesFacts name types _)
  | .classMethod kind key _ params body types, s => by
    rw [nodeFacts]
    refine .of_annotated rfl rfl (((faithfulIn_nodesFacts name params _).after_silent ?_).append
      (faithfulIn_nodesFacts name body _)) (faithfulIn_nodesFacts name types _)
    split
    · exact callNames_map_define s _ (·) _ _ _
    · rfl
  | .privateMethod _ params body types, s =>
    .of_annotated rfl rfl
      ((faithfulIn_nodesFacts name params _).append (faithfulIn_nodesFacts name body _))
      (faithfulIn_nodesFacts name types _)
  | .classProperty key keyParts value types, s => by
    obtain ⟨own, single, spelled, rfl, function, same⟩ | same :=
      nodeFacts_classProperty_cases s key keyParts value types
    · rw [same]
      refine .after_define (.of_parts rfl rfl ?_)
      rw [Node.parts, Key.expression, spelled]
      exact .singleton (faithful_functionFacts name single _ function)
    · rw [same]
      exact .of_annotated rfl rfl
        (.append (.of_expression (faithfulIn_nodesFacts name keyParts s))
          (faithfulIn_nodesFacts name value s)) (faithfulIn_nodesFacts name types s)
  | .binding _ types, s => by
    rw [nodeFacts, ← List.nil_append (nodesFacts s types)]
    exact .of_annotated rfl rfl .nil (faithfulIn_nodesFacts name types s)
  | .functionDecl _ _ params body types, s =>
    .after_define (.of_annotated rfl rfl
      ((faithfulIn_nodesFacts name params _).append (faithfulIn_nodesFacts name body _))
      (faithfulIn_nodesFacts name types _))
  | .vars _ declarators, s =>
    .of_parts rfl rfl (faithfulIn_declaratorsFacts name declarators s false)
  | .declarator _ target value, s =>
    .of_parts rfl rfl
      (.cons (faithful_nodeFacts name target s) (faithfulIn_nodesFacts name value s))
  | .exportDecl decl, s => by
    refine .of_parts rfl rfl (.singleton ?_)
    obtain ⟨_, _, params, body, types, rfl⟩ | ⟨_, _, members, superClass, types, rfl⟩ |
      ⟨_, declarators, rfl⟩ | ⟨same, -⟩ := exportDecl_cases decl
    · exact .after_define (.of_annotated rfl rfl
        ((faithfulIn_nodesFacts name params _).append (faithfulIn_nodesFacts name body _))
        (faithfulIn_nodesFacts name types _))
    · exact .of_annotated rfl rfl
        ((faithfulIn_nodesFacts name members _).append (faithfulIn_nodesFacts name superClass _))
        (faithfulIn_nodesFacts name types _)
    · exact .of_parts rfl rfl (faithfulIn_declaratorsFacts name declarators s true)
    · rw [same]
      exact faithful_nodeFacts name decl s
  | .exportDefaultFunction own params body types, s =>
    .of_annotated rfl rfl
      ((FaithfulIn.after_silent (callNames_map_define s _ _ _ _ _)
        (faithfulIn_nodesFacts name params _)).append (faithfulIn_nodesFacts name body _))
      (faithfulIn_nodesFacts name types _)
  | .exportDefaultClass members superClass types, s =>
    .of_annotated rfl rfl
      ((faithfulIn_nodesFacts name members _).append (faithfulIn_nodesFacts name superClass _))
      (faithfulIn_nodesFacts name types _)
  | .exportDefault value, s =>
    .of_parts rfl rfl
      (.singleton (.after_silent (callNames_map_exported _ _) (faithful_nodeFacts name value s)))
  | .exportNames names, s => by
    rw [nodeFacts, ← List.append_nil (List.map _ _)]
    exact .of_parts rfl rfl (.after_silent (callNames_map_exported _ _) .nil)
termination_by n => sizeOf n
decreasing_by all_goals (subst_vars; simp <;> omega)

theorem faithfulIn_nodesFacts (name : String) : ∀ (nodes : List Node) (s : Scope),
    FaithfulIn name nodes (nodesFacts s nodes)
  | [], _ => .nil
  | n :: rest, s => .cons (faithful_nodeFacts name n s) (faithfulIn_nodesFacts name rest s)
termination_by nodes => sizeOf nodes
decreasing_by all_goals (simp <;> omega)

theorem faithful_functionFacts (name : String) : ∀ (n : Node) (s : Scope), n.isFunctionValue →
    Faithful name n (functionFacts s n)
  | .paren _ inner, s, function =>
    .of_parts rfl rfl (.singleton (faithful_functionFacts name inner s function))
  | .function _ _ params body types, s, _ =>
    .of_annotated rfl rfl
      ((faithfulIn_nodesFacts name params _).append (faithfulIn_nodesFacts name body _))
      (faithfulIn_nodesFacts name types _)
  | .arrow _ params body types, s, _ =>
    .of_annotated rfl rfl
      ((faithfulIn_nodesFacts name params _).append (faithfulIn_nodesFacts name body _))
      (faithfulIn_nodesFacts name types _)
termination_by n => sizeOf n
decreasing_by all_goals (simp <;> omega)

theorem faithfulIn_declaratorsFacts (name : String) : ∀ (nodes : List Node) (s : Scope)
    (isExported : Bool), FaithfulIn name nodes (declaratorsFacts s isExported nodes)
  | [], _, _ => .nil
  | d :: rest, s, isExported => by
    have inRest := faithfulIn_declaratorsFacts name rest s isExported
    obtain ⟨_, id, types, value, rfl⟩ | ⟨same, -⟩ := declarators_cons_cases isExported d rest
    · rw [declaratorsFacts]
      refine .cons ?_ inRest
      cases declared : declaredKind? s value with
      | some kind =>
        have function := isFunctionValue_of_declaredKind? declared
        refine .after_define (.of_parts rfl rfl ?_)
        rw [← List.nil_append (functionFacts _ _)]
        exact .cons (.of_parts rfl rfl .nil)
          (.singleton (faithful_functionFacts name value _ function))
      | none =>
        refine .of_parts rfl rfl (.cons ?_ (.singleton (faithful_nodeFacts name value s)))
        rw [← List.nil_append (nodesFacts _ _)]
        exact .of_annotated rfl rfl .nil (faithfulIn_nodesFacts name types s)
    · rw [same]
      exact .cons (faithful_nodeFacts name d s) inRest
termination_by nodes => sizeOf nodes
decreasing_by all_goals (subst_vars; simp <;> omega)

end

/-! ### The receivers of exports -/

/-- The names whose members are exported by assignment. -/
def exportReceivers : List String := Handler.globalObjects ++ ["exports", "module"]

theorem occurs_member {span : Span} {optional : Bool} {key : Ident} {place : Place} :
    Occurs name (.member span optional n key) place ↔ Occurs name n place := by
  constructor
  · intro occurs
    cases occurs with
    | called named => cases named
    | part member inside => exact List.mem_singleton.mp member ▸ inside
    | key member inside => cases member
    | mention member inside => cases member
  · exact .part (List.mem_singleton_self n)

theorem eq_of_isIdentNamed {place : Place} {own : String} (named : n.isIdentNamed own)
    (occurs : Occurs name n place) : name = own := by
  obtain ⟨id, bare, same⟩ := (Option.any_eq_true _ _).mp named
  rw [← ((occurs_of_ident? bare).mp occurs).2, beq_iff_eq.mp same]

theorem mem_globalObjects_of_occurs {place : Place} (isGlobal : n.isGlobalObject)
    (occurs : Occurs name n place) : name ∈ Handler.globalObjects := by
  obtain ⟨id, bare, listed⟩ := (Option.any_eq_true _ _).mp isGlobal
  rw [← ((occurs_of_ident? bare).mp occurs).2]
  exact List.contains_iff_mem.mp listed

theorem eq_module_of_isModuleExports {place : Place} (exports : n.isModuleExports)
    (occurs : Occurs name n place) : name = "module" := by
  rw [← occurs_unwrapParen n] at occurs
  unfold Node.isModuleExports at exports
  split at exports
  · next span receiver key unwrapped =>
    rw [unwrapped, occurs_member] at occurs
    exact eq_of_isIdentNamed (Bool.and_eq_true_iff.mp exports).1 occurs
  · cases exports

/-- Nothing but its receiver occurs in the target of an export. -/
theorem mem_exportReceivers_of_target {target : Node} {place : Place}
    (exports : (exportTarget? target).isSome) (occurs : Occurs name target place) :
    name ∈ exportReceivers := by
  unfold exportTarget? at exports
  split at exports
  · next span receiver key =>
    rw [occurs_member] at occurs
    simp only [exportReceivers, List.mem_append, List.mem_cons, List.not_mem_nil, or_false]
    split at exports
    · next isGlobal =>
      rcases Bool.or_eq_true_iff.mp isGlobal with isGlobal | named
      · exact .inl (mem_globalObjects_of_occurs isGlobal occurs)
      · exact .inr (.inl (eq_of_isIdentNamed named occurs))
    · split at exports
      · next named => exact .inr (.inr (eq_of_isIdentNamed named occurs))
      · split at exports
        · next whole => exact .inr (.inr (eq_module_of_isModuleExports whole occurs))
        · cases exports
  · cases exports

theorem Occurs.mem_exportReceivers {place : Place} (occurs : Occurs name n place)
    (exported : place = .receiver) : name ∈ exportReceivers := by
  induction occurs with
  | receiver exports inside => exact mem_exportReceivers_of_target exports inside
  | part member inside ih => exact ih exported
  | _ => cases exported

/-! ### What a script leaves behind -/

theorem mem_callNames_iff :
    name ∈ callNames facts ↔ ∃ site, (name, site) ∈ FileModel.callsOf facts := by
  simp [callNames]

/-- Every name that counts in a script leaves a call site behind, and a name that no type annotation
mentions leaves one only if it counts: the names in annotations are recorded too, without counting.
So a name that stands only in method keys or as a component leaves none, though it is evaluated; a
receiver of an export leaves none either. The plain name on the left side of an assignment, also of
one such as `name ||= value`, is a `binding` and no expression, so it stands in none of the
places. -/
theorem recorded_iff_counted (s : Scope) (filePath : String) (faults : List Nat)
    (items : List Node) (name : String) :
    let calls := (FileModel.ofFacts filePath faults (learnedFrom s items)).calls
    (∀ item ∈ items, Counted name item → ∃ site, (name, site) ∈ calls) ∧
      ((∀ item ∈ items, ¬ Occurs name item .mention) →
        (∃ site, (name, site) ∈ calls) → ∃ item ∈ items, Counted name item) ∧
      ∀ item ∈ items, Occurs name item .receiver → name ∈ exportReceivers := by
  have faithful := faithfulIn_nodesFacts name items s
  simp only [FileModel.ofFacts, learnedFrom_eq, ← mem_callNames_iff]
  refine ⟨faithful.recorded, ?_, fun item _ occurs => occurs.mem_exportReceivers rfl⟩
  intro unannotated recorded
  obtain ⟨item, member, counted | annotated⟩ := faithful.met recorded
  · exact ⟨item, member, counted⟩
  · exact absurd annotated (unannotated item member)

/-- `<Card />` and `({ [key]() { run } })`. -/
def keyedItems : List Node :=
  [.jsx default "Card" [] [],
    .object default [.method (.computed default) [.ident ⟨"key", default⟩] []
      [.ident ⟨"run", default⟩] []]]

theorem recorded_iff_counted_keyed :
    ∃ site, ("run", site) ∈ (FileModel.ofFacts "app.jsx" []
      (learnedFrom { filePath := "app.jsx", lineOf := fun _ => 1 } keyedItems)).calls := by
  refine (recorded_iff_counted _ _ _ _ "run").1 _ (List.mem_cons_of_mem _ List.mem_cons_self) ?_
  exact .inl (.part List.mem_cons_self (.part List.mem_cons_self (.ident rfl)))

/-- The component and the key are evaluated and leave no call site. -/
theorem component_and_method_key_unrecorded :
    (∃ item ∈ keyedItems, Occurs "Card" item .component) ∧
      (∃ item ∈ keyedItems, Occurs "key" item .methodKey) ∧
      (FileModel.ofFacts "app.jsx" []
        (learnedFrom { filePath := "app.jsx", lineOf := fun _ => 1 } keyedItems)).calls.map (·.1) =
          ["run"] := by
  refine ⟨⟨_, List.mem_cons_self, .component (by decide)⟩,
    ⟨_, List.mem_cons_of_mem _ List.mem_cons_self, ?_⟩, rfl⟩
  exact .part List.mem_cons_self (.key List.mem_cons_self (.ident rfl))

end PageWiring.Script
