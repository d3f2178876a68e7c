import PageWiring.Script.Declaration

/-!
The nodes of a tree, and which of them the search for a statement comes to.

A function or variables that are exported in place count as one node with their export. The search
comes to every node: it finds nothing exactly when no node is a statement that passes the test. A
statement passes for a function when it declares the function and nothing else.
-/
namespace PageWiring.Script

namespace Node

/-- The nodes right below a node. -/
def children : Node → List Node
  | .ident _ => []
  | .text _ _ => []
  | .template _ _ parts => parts
  | .paren _ inner => [inner]
  | .function _ _ params body types => params ++ body ++ types
  | .arrow _ params body types => params ++ body ++ types
  | .classNode _ _ members superClass types => members ++ superClass ++ types
  | .object _ props => props
  | .member _ _ receiver _ => [receiver]
  | .call _ _ callee args => callee :: args
  | .construct _ callee args => callee :: args
  | .assign _ _ target value => [target, value]
  | .jsx _ _ attributes children => attributes ++ children
  | .compound _ _ parts => parts
  | .shorthand _ => []
  | .keyValue _ keyParts value => keyParts ++ [value]
  | .method _ keyParts params body types => keyParts ++ params ++ body ++ types
  | .constructor _ params body types => params ++ body ++ types
  | .classMethod _ _ keyParts params body types => keyParts ++ params ++ body ++ types
  | .privateMethod _ params body types => params ++ body ++ types
  | .classProperty _ keyParts value types => keyParts ++ value ++ types
  | .binding _ types => types
  | .functionDecl _ _ params body types => params ++ body ++ types
  | .vars _ declarators => declarators
  | .declarator _ target value => target :: value
  | .exportDecl (.functionDecl _ _ params body types) => params ++ body ++ types
  | .exportDecl (.vars _ declarators) => declarators
  | .exportDecl decl => [decl]
  | .exportDefaultFunction _ params body types => params ++ body ++ types
  | .exportDefaultClass members superClass types => members ++ superClass ++ types
  | .exportDefault value => [value]
  | .exportNames _ => []

/-- A function declaration or a declaration of variables, not exported in place. -/
def isDeclaration : Node → Bool
  | .functionDecl _ _ _ _ _ => true
  | .vars _ _ => true
  | _ => false

end Node

/-- The variable that a declarator makes a function. -/
def functionVariable? : Node → Option Ident
  | .declarator _ (.binding id _) [value] => if value.isFunctionValue then some id else none
  | _ => none

namespace Node

/-- The functions that a node declares, without exporting them in place. -/
def declaredFunctions : Node → List Ident
  | .functionDecl _ id _ _ _ => [id]
  | .vars _ declarators => declarators.filterMap functionVariable?
  | .compound _ .forVars declarators => declarators.filterMap functionVariable?
  | _ => []

/-- A statement that declares one thing: no variables side by side, in the head of a loop, or by
`using`. -/
def standsAlone : Node → Bool
  | .functionDecl _ _ _ _ _ => true
  | .vars _ [_] => true
  | _ => false

end Node

/-- `Within n m`: the node `m` is `n` or stands below it. -/
inductive Within : Node → Node → Prop
  | self {n : Node} : Within n n
  | child {n c m : Node} (member : c ∈ n.children) (deeper : Within c m) : Within n m

variable {n m c : Node} {p : Node → Bool}

theorem Within.trans (outer : Within n c) (inner : Within c m) : Within n m := by
  induction outer with
  | self => exact inner
  | child member _ ih => exact .child member (ih inner)

/-! ### Sizes -/

theorem sizeOf_lt_of_mem_children (member : c ∈ n.children) : sizeOf c < sizeOf n := by
  have listed {nodes : List Node} (member : c ∈ nodes) : sizeOf c < sizeOf nodes :=
    List.sizeOf_lt_of_mem member
  cases n with
  | exportDecl decl =>
    cases decl <;> simp only [Node.children, List.mem_append, List.mem_singleton] at member <;>
      grind [Node.exportDecl.sizeOf_spec, Node.functionDecl.sizeOf_spec, Node.vars.sizeOf_spec]
  | _ =>
    simp [Node.children] at member ⊢ <;> grind

theorem Within.sizeOf_le (within : Within n m) : sizeOf m ≤ sizeOf n := by
  induction within with
  | self => exact Nat.le_refl _
  | child member _ ih => exact Nat.le_trans ih (Nat.le_of_lt (sizeOf_lt_of_mem_children member))

/-! ### The search for a statement -/

theorem findIn_cons (n : Node) (rest : List Node) :
    findIn p (n :: rest) = (findStatement p n).or (findIn p rest) := by
  simp [findIn]

theorem findIn_append (before after : List Node) :
    findIn p (before ++ after) = (findIn p before).or (findIn p after) := by
  induction before with
  | nil => rfl
  | cons n rest ih => simp [findIn_cons, ih, Option.or_assoc]

/-- The search stops at a declaration that passes the test, and goes on below any other node. -/
theorem findStatement_eq :
    findStatement p n =
      if n.isDeclaration && p n then some n.span else findIn p n.children := by
  cases n with
  | exportDecl decl =>
    cases decl <;>
      simp [findStatement, Node.children, Node.isDeclaration, findIn_append, findIn]
  | _ =>
    simp [findStatement, Node.children, Node.isDeclaration, findIn_append, findIn, Node.span]

theorem exists_of_findIn {nodes : List Node} {span : Span} (found : findIn p nodes = some span) :
    ∃ n ∈ nodes, findStatement p n = some span := by
  induction nodes with
  | nil => cases found
  | cons n rest ih =>
    rw [findIn_cons, Option.or_eq_some_iff] at found
    rcases found with here | ⟨-, later⟩
    · exact ⟨n, List.mem_cons_self, here⟩
    · obtain ⟨other, member, there⟩ := ih later
      exact ⟨other, List.mem_cons_of_mem n member, there⟩

theorem isSome_findIn_of_mem {nodes : List Node} (member : n ∈ nodes)
    (found : (findStatement p n).isSome) : (findIn p nodes).isSome := by
  induction nodes with
  | nil => cases member
  | cons first rest ih =>
    rw [findIn_cons]
    rcases List.mem_cons.mp member with rfl | later
    · simp [found]
    · simp [ih later]

/-- Whatever is found is a declaration in the tree that passes the test. -/
theorem exists_of_findStatement {span : Span} (n : Node) (found : findStatement p n = some span) :
    ∃ m, Within n m ∧ p m ∧ m.span = span := by
  -- recursion on the size of the tree, which `children` makes smaller
  rw [findStatement_eq] at found
  split at found
  · next passes =>
    exact ⟨n, .self, (Bool.and_eq_true_iff.mp passes).2, Option.some.inj found⟩
  · obtain ⟨c, member, below⟩ := exists_of_findIn found
    obtain ⟨m, within, passes⟩ := exists_of_findStatement c below
    exact ⟨m, .child member within, passes⟩
termination_by sizeOf n
decreasing_by exact sizeOf_lt_of_mem_children member

/-- A declaration that passes the test is not missed. -/
theorem Within.isSome_findStatement (within : Within n m) (declares : m.isDeclaration)
    (passes : p m) : (findStatement p n).isSome := by
  induction within with
  | self => simp [findStatement_eq, declares, passes]
  | child member _ ih =>
    rw [findStatement_eq]
    split
    · rfl
    · exact isSome_findIn_of_mem member (ih declares passes)

/-! ### The declaration of a function -/

/-- A node in the trees that declares a function by this name on this line. -/
def DeclaredBy (lineOf : Span → Nat) (items : List Node) (name : String) (line : Nat)
    (node : Node) : Prop :=
  (∃ item ∈ items, Within item node) ∧
    ∃ id ∈ node.declaredFunctions, id.name = name ∧ lineOf id.span = line

theorem declares_vars_singleton (lineOf : Span → Nat) (name : String) (line : Nat) (span : Span)
    (d : Node) :
    declares lineOf name line (.vars span [d]) =
      (functionVariable? d).any fun id => id.name == name && lineOf id.span == line := by
  unfold functionVariable?
  split
  · next value => cases function : value.isFunctionValue <;> simp [declares, function]
  · next other =>
    unfold declares
    split
    · next same => cases same
    · next same =>
      cases same
      exact absurd rfl (other _ _ _ _)
    · rfl

theorem declares_iff {lineOf : Span → Nat} {name : String} {line : Nat} :
    declares lineOf name line n ↔
      n.standsAlone ∧ ∃ id ∈ n.declaredFunctions, id.name = name ∧ lineOf id.span = line := by
  cases n with
  | functionDecl span id params body types =>
    simp [declares, Node.standsAlone, Node.declaredFunctions]
  | vars span declarators =>
    rcases declarators with _ | ⟨d, _ | ⟨second, rest⟩⟩
    · simp [declares, Node.standsAlone]
    · rw [declares_vars_singleton]
      simp [Node.standsAlone, Node.declaredFunctions, Option.any_eq_true]
    · simp [declares, Node.standsAlone]
  | _ => simp [declares, Node.standsAlone]

theorem isDeclaration_of_standsAlone (alone : n.standsAlone) : n.isDeclaration := by
  unfold Node.standsAlone at alone
  split at alone <;> first | rfl | cases alone

/-- What is found declares the function and nothing else. -/
theorem exists_declaredBy_of_findIn {lineOf : Span → Nat} {name : String} {line : Nat}
    {items : List Node} {span : Span}
    (found : findIn (declares lineOf name line) items = some span) :
    ∃ node, DeclaredBy lineOf items name line node ∧ node.standsAlone ∧ node.span = span := by
  obtain ⟨item, member, inItem⟩ := exists_of_findIn found
  obtain ⟨node, within, passes, here⟩ := exists_of_findStatement item inItem
  obtain ⟨alone, declared⟩ := declares_iff.mp passes
  exact ⟨node, ⟨⟨item, member, within⟩, declared⟩, alone, here⟩

/-- Exactly the functions with a statement of their own are found. -/
theorem isSome_findIn_declares_iff {lineOf : Span → Nat} {name : String} {line : Nat}
    {items : List Node} :
    (findIn (declares lineOf name line) items).isSome ↔
      ∃ node, DeclaredBy lineOf items name line node ∧ node.standsAlone := by
  constructor
  · intro found
    obtain ⟨span, found⟩ := Option.isSome_iff_exists.mp found
    obtain ⟨node, declared, alone, -⟩ := exists_declaredBy_of_findIn found
    exact ⟨node, declared, alone⟩
  · rintro ⟨node, ⟨⟨item, member, within⟩, declared⟩, alone⟩
    exact isSome_findIn_of_mem member (within.isSome_findStatement
      (isDeclaration_of_standsAlone alone) (declares_iff.mpr ⟨alone, declared⟩))

end PageWiring.Script
