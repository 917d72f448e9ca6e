import LivePreview.Script.Rebuild
/-!
# The parts of a tree

A tree consists of expressions, members, pieces of markup and statements. A `Node` is one of these
whatever its kind, and its parts are the nodes just below it. With these, what a rebuild does to
a whole tree is said by one equation (`Rebuild.Plain.node_eq`): it rebuilds the parts of a node and
then does to the node what it does to nodes of its kind. Whatever is to be known of all trees can
then be proved from the parts of a node (`Node.induction`), without going through the grammar again.

A rebuild may count as it goes. If it does to each node what another one does and counts what the
node holds, it does to a whole tree what the other one does, and counts what the tree holds
(`Rebuild.Counts.onModule_eq`).
-/
namespace LivePreview.Script

/-- An expression, member, piece of markup or statement. -/
inductive Node where
  | expr (e : Expr)
  | member (m : Member)
  | markup (k : Markup)
  | stmt (s : Stmt)

/-! ## Parts -/

/-- The part of a key is what stands in its brackets. -/
def keyParts : Expr → List Node
  | .computed e => [.expr e]
  | _ => []

def Expr.parts : Expr → List Node
  | .template _ parts => parts.map .expr
  | .tagged tag quasi => [.expr tag, .expr quasi]
  | .array elements => elements.map .expr
  | .spread e => [.expr e]
  | .object ms => ms.map .member
  | .pattern ms => ms.map .member
  | .initialized target value => [.expr target, .expr value]
  | .function _ _ _ params body => params.map .expr ++ body.map .stmt
  | .arrow _ params body => params.map .expr ++ body.map .stmt
  | .arrowTo _ params body => params.map .expr ++ [.expr body]
  | .classOf _ base decorators ms =>
    decorators.map .expr ++ base.toList.map .expr ++ ms.map .member
  | .unary _ e => [.expr e]
  | .update _ _ e => [.expr e]
  | .binary _ left right => [.expr left, .expr right]
  | .assign _ target value => [.expr target, .expr value]
  | .conditional test yes no => [.expr test, .expr yes, .expr no]
  | .sequence es => es.map .expr
  | .call callee args _ _ => .expr callee :: args.map .expr
  | .new callee args _ => .expr callee :: args.map .expr
  | .member owner _ _ => [.expr owner]
  | .privateMember owner _ _ => [.expr owner]
  | .index owner key _ => [.expr owner, .expr key]
  | .importCall _ args => args.map .expr
  | .awaitExpr e => [.expr e]
  | .yieldExpr _ e => e.toList.map .expr
  | .paren e => [.expr e]
  | .computed e => [.expr e]
  | .fieldParameter target => [.expr target]
  | .decorated decorators target => decorators.map .expr ++ [.expr target]
  | .effectless fn => [.expr fn]
  | .commented _ e => [.expr e]
  | .markup piece => [.markup piece]
  | .name _ | .thisRef | .superRef | .null | .bool _ | .number _ | .bigint _ | .string _
  | .brokenString _ | .regex _ _ | .hole | .metaProperty _ _ | .privateName _ => []

def Member.parts : Member → List Node
  | .property key value => keyParts key ++ [.expr value]
  | .shorthand _ => []
  | .shorthandDefault _ value => [.expr value]
  | .spread e => [.expr e]
  | .method _ _ decorators key fn => decorators.map .expr ++ keyParts key ++ [.expr fn]
  | .field _ _ decorators key value =>
    decorators.map .expr ++ keyParts key ++ value.toList.map .expr
  | .staticBlock body => body.map .stmt
  | .signature key => keyParts key
  | .commented _ m => [.member m]

def Markup.parts : Markup → List Node
  | .element tag attributes children =>
    .expr tag :: (attributes.map .markup ++ children.map .markup)
  | .fragment children => children.map .markup
  | .embedded e => [.expr e]
  | .spreadChild e => [.expr e]
  | .attribute _ _ value => [.markup value]
  | .spreadAttribute e => [.expr e]
  | .prefixedElement _ | .text _ | .emptyBraces | .bareAttribute _ _ => []

def Stmt.parts : Stmt → List Node
  | .expression e => [.expr e]
  | .declaration _ ds => ds.map .expr
  | .functionDecl f => [.expr f]
  | .classDecl c => [.expr c]
  | .block body => body.map .stmt
  | .ifThen test yes no => .expr test :: .stmt yes :: no.toList.map .stmt
  | .forLoop init test update body =>
    init.toList.map .stmt ++ test.toList.map .expr ++ update.toList.map .expr ++ [.stmt body]
  | .forIn left right body => [.stmt left, .expr right, .stmt body]
  | .forOf _ left right body => [.stmt left, .expr right, .stmt body]
  | .whileLoop test body => [.expr test, .stmt body]
  | .doWhile body test => [.stmt body, .expr test]
  | .switchOn value cases => .expr value :: cases.map .stmt
  | .switchCase test body => test.toList.map .expr ++ body.map .stmt
  | .tryCatch body handler finalizer =>
    body.map .stmt ++ handler.toList.map .stmt ++ finalizer.toList.map .stmt
  | .catchClause param body => param.toList.map .expr ++ body.map .stmt
  | .labeled _ body => [.stmt body]
  | .returnStmt e => e.toList.map .expr
  | .throwStmt e => [.expr e]
  | .withStmt object body => [.expr object, .stmt body]
  | .importAlias _ _ target => [.expr target]
  | .exportDecl s => [.stmt s]
  | .exportDefault s => [.stmt s]
  | .enumeration _ ms => ms.map .member
  | .namespaceDecl _ _ body => body.map .stmt
  | .commented _ s => [.stmt s]
  | .importDecl _ _ _ _ | .exportNames _ _ _ | .exportAll _ _ _ | .launchLine _ | .directive _
  | .empty | .nothing | .breakTo _ | .continueTo _ | .debugger | .erased _ _ => []

/-- The nodes just below a node, in the order of the source. -/
def Node.parts : Node → List Node
  | .expr e => e.parts
  | .member m => m.parts
  | .markup k => k.parts
  | .stmt s => s.parts

/-- Members of a list are smaller than the list. -/
theorem sizeOf_le_of_mem_map {α : Type} [SizeOf α] {f : α → Node} {xs : List α} {p : Node}
    (hf : ∀ x, sizeOf (f x) = 1 + sizeOf x) (h : p ∈ xs.map f) : sizeOf p ≤ sizeOf xs := by
  obtain ⟨x, hx, rfl⟩ := List.mem_map.mp h
  have := List.sizeOf_lt_of_mem hx
  have := hf x
  omega

theorem Node.sizeOf_lt {n p : Node} (h : p ∈ n.parts) : sizeOf p < sizeOf n := by
  have hexprs : ∀ es : List Expr, p ∈ es.map .expr → sizeOf p ≤ sizeOf es := fun es =>
    sizeOf_le_of_mem_map fun _ => rfl
  have hmembers : ∀ ms : List Member, p ∈ ms.map .member → sizeOf p ≤ sizeOf ms := fun ms =>
    sizeOf_le_of_mem_map fun _ => rfl
  have hmarkups : ∀ ks : List Markup, p ∈ ks.map .markup → sizeOf p ≤ sizeOf ks := fun ks =>
    sizeOf_le_of_mem_map fun _ => rfl
  have hstmts : ∀ ss : List Stmt, p ∈ ss.map .stmt → sizeOf p ≤ sizeOf ss := fun ss =>
    sizeOf_le_of_mem_map fun _ => rfl
  have hkey : ∀ key, p ∈ keyParts key → sizeOf p ≤ sizeOf key := by
    intro key hp
    cases key <;> simp [keyParts] at hp
    simp [hp]
  cases n with
  | expr e =>
    cases e <;> simp only [Node.parts, Expr.parts] at h <;> simp <;> grind
  | member m =>
    cases m <;> simp only [Node.parts, Member.parts] at h <;> simp <;> grind
  | markup k =>
    cases k <;> simp only [Node.parts, Markup.parts] at h <;> simp <;> grind
  | stmt s =>
    cases s <;> simp only [Node.parts, Stmt.parts] at h <;> simp <;> grind

/-- What holds of a node if it holds of its parts holds of all nodes. -/
theorem Node.induction {P : Node → Prop} (h : ∀ n, (∀ p ∈ n.parts, P p) → P n) (n : Node) : P n :=
  h n fun p _ => Node.induction h p
termination_by sizeOf n
decreasing_by exact Node.sizeOf_lt ‹_›

/-- A node and its parts at any depth, in the order of the source. -/
def Node.all (n : Node) : List Node :=
  n :: n.parts.attach.flatMap fun p => Node.all p.1
termination_by sizeOf n
decreasing_by exact Node.sizeOf_lt p.2

theorem Node.all_eq (n : Node) : n.all = n :: n.parts.flatMap Node.all := by
  have hattach : (n.parts.attach.map Subtype.val).flatMap Node.all = n.parts.flatMap Node.all := by
    rw [List.attach_map_subtype_val]
  rw [Node.all, ← hattach, List.flatMap_map]

/-- What the nodes of a tree hold, where `own` says what one of them holds. -/
def Node.collect {α : Type} (own : Node → List α) (n : Node) : List α := n.all.flatMap own

theorem Node.collect_eq {α : Type} (own : Node → List α) (n : Node) :
    n.collect own = own n ++ n.parts.flatMap (Node.collect own) := by
  rw [Node.collect, Node.all_eq, List.flatMap_cons, List.flatMap_assoc]
  rfl

/-- The sum of what `k` gives for the members of a list. -/
@[simp]
def total {α : Type} (k : α → Nat) : List α → Nat
  | [] => 0
  | x :: r => k x + total k r

section
variable {α β : Type}

@[simp] theorem total_append (k : α → Nat) (xs ys : List α) :
    total k (xs ++ ys) = total k xs + total k ys := by
  induction xs with
  | nil => simp
  | cons x r ih => simp [ih, Nat.add_assoc]

@[simp] theorem total_map (k : β → Nat) (f : α → β) (xs : List α) :
    total k (xs.map f) = total (fun x => k (f x)) xs := by
  induction xs with
  | nil => rfl
  | cons x r ih => simp [ih]

theorem length_flatMap_eq (f : α → List β) (xs : List α) :
    (xs.flatMap f).length = total (fun x => (f x).length) xs := by
  induction xs with
  | nil => rfl
  | cons x r ih => rw [List.flatMap_cons, List.length_append, ih, total]

theorem Node.length_collect (own : Node → List α) (n : Node) :
    (n.collect own).length = (own n).length + total (fun p => (p.collect own).length) n.parts := by
  rw [Node.collect_eq, List.length_append, length_flatMap_eq]

end

/-- What the trees of a module hold. -/
def Module.collect {α : Type} (own : Node → List α) (items : Module) : List α :=
  items.flatMap fun s => (Node.stmt s).collect own

/-! ## Changing the parts -/

/-- What becomes of nodes of each kind. -/
structure Maps where
  expr : Expr → Expr
  member : Member → Member
  markup : Markup → Markup
  stmt : Stmt → Stmt

/-- What becomes of a node. -/
def Maps.node (f : Maps) : Node → Node
  | .expr e => .expr (f.expr e)
  | .member m => .member (f.member m)
  | .markup k => .markup (f.markup k)
  | .stmt s => .stmt (f.stmt s)

section
variable (f : Maps)

@[simp] theorem Maps.node_expr (e : Expr) : f.node (.expr e) = .expr (f.expr e) := rfl
@[simp] theorem Maps.node_member (m : Member) : f.node (.member m) = .member (f.member m) := rfl
@[simp] theorem Maps.node_markup (k : Markup) : f.node (.markup k) = .markup (f.markup k) := rfl
@[simp] theorem Maps.node_stmt (s : Stmt) : f.node (.stmt s) = .stmt (f.stmt s) := rfl

end

/-- A key with the part changed that stands in its brackets. -/
def mapKey (f : Maps) : Expr → Expr
  | .computed e => .computed (f.expr e)
  | key => key

/-- The expression with its parts changed, and all else as it is. -/
def Expr.mapParts (f : Maps) : Expr → Expr
  | .template chunks parts => .template chunks (parts.map f.expr)
  | .tagged tag quasi => .tagged (f.expr tag) (f.expr quasi)
  | .array elements => .array (elements.map f.expr)
  | .spread e => .spread (f.expr e)
  | .object ms => .object (ms.map f.member)
  | .pattern ms => .pattern (ms.map f.member)
  | .initialized target value => .initialized (f.expr target) (f.expr value)
  | .function n isAsync isGenerator params body =>
    .function n isAsync isGenerator (params.map f.expr) (body.map f.stmt)
  | .arrow isAsync params body => .arrow isAsync (params.map f.expr) (body.map f.stmt)
  | .arrowTo isAsync params body => .arrowTo isAsync (params.map f.expr) (f.expr body)
  | .classOf n base decorators ms =>
    .classOf n (base.map f.expr) (decorators.map f.expr) (ms.map f.member)
  | .unary op e => .unary op (f.expr e)
  | .update op isPrefix e => .update op isPrefix (f.expr e)
  | .binary op left right => .binary op (f.expr left) (f.expr right)
  | .assign op target value => .assign op (f.expr target) (f.expr value)
  | .conditional test yes no => .conditional (f.expr test) (f.expr yes) (f.expr no)
  | .sequence es => .sequence (es.map f.expr)
  | .call callee args optional isPure => .call (f.expr callee) (args.map f.expr) optional isPure
  | .new callee args isPure => .new (f.expr callee) (args.map f.expr) isPure
  | .member owner property optional => .member (f.expr owner) property optional
  | .privateMember owner property optional => .privateMember (f.expr owner) property optional
  | .index owner key optional => .index (f.expr owner) (f.expr key) optional
  | .importCall phase args => .importCall phase (args.map f.expr)
  | .awaitExpr e => .awaitExpr (f.expr e)
  | .yieldExpr delegate e => .yieldExpr delegate (e.map f.expr)
  | .paren e => .paren (f.expr e)
  | .computed e => .computed (f.expr e)
  | .fieldParameter target => .fieldParameter (f.expr target)
  | .decorated decorators target => .decorated (decorators.map f.expr) (f.expr target)
  | .effectless fn => .effectless (f.expr fn)
  | .commented cs e => .commented cs (f.expr e)
  | .markup piece => .markup (f.markup piece)
  | e => e

def Member.mapParts (f : Maps) : Member → Member
  | .property key value => .property (mapKey f key) (f.expr value)
  | .shorthandDefault n value => .shorthandDefault n (f.expr value)
  | .spread e => .spread (f.expr e)
  | .method isStatic kind decorators key fn =>
    .method isStatic kind (decorators.map f.expr) (mapKey f key) (f.expr fn)
  | .field isStatic isAccessor decorators key value =>
    .field isStatic isAccessor (decorators.map f.expr) (mapKey f key) (value.map f.expr)
  | .staticBlock body => .staticBlock (body.map f.stmt)
  | .signature key => .signature (mapKey f key)
  | .commented cs m => .commented cs (f.member m)
  | m => m

def Markup.mapParts (f : Maps) : Markup → Markup
  | .element tag attributes children =>
    .element (f.expr tag) (attributes.map f.markup) (children.map f.markup)
  | .fragment children => .fragment (children.map f.markup)
  | .embedded e => .embedded (f.expr e)
  | .spreadChild e => .spreadChild (f.expr e)
  | .attribute offset name value => .attribute offset name (f.markup value)
  | .spreadAttribute e => .spreadAttribute (f.expr e)
  | k => k

def Stmt.mapParts (f : Maps) : Stmt → Stmt
  | .expression e => .expression (f.expr e)
  | .declaration kind ds => .declaration kind (ds.map f.expr)
  | .functionDecl fn => .functionDecl (f.expr fn)
  | .classDecl c => .classDecl (f.expr c)
  | .block body => .block (body.map f.stmt)
  | .ifThen test yes no => .ifThen (f.expr test) (f.stmt yes) (no.map f.stmt)
  | .forLoop init test update body =>
    .forLoop (init.map f.stmt) (test.map f.expr) (update.map f.expr) (f.stmt body)
  | .forIn left right body => .forIn (f.stmt left) (f.expr right) (f.stmt body)
  | .forOf isAwait left right body => .forOf isAwait (f.stmt left) (f.expr right) (f.stmt body)
  | .whileLoop test body => .whileLoop (f.expr test) (f.stmt body)
  | .doWhile body test => .doWhile (f.stmt body) (f.expr test)
  | .switchOn value cases => .switchOn (f.expr value) (cases.map f.stmt)
  | .switchCase test body => .switchCase (test.map f.expr) (body.map f.stmt)
  | .tryCatch body handler finalizer =>
    .tryCatch (body.map f.stmt) (handler.map f.stmt) (finalizer.map f.stmt)
  | .catchClause param body => .catchClause (param.map f.expr) (body.map f.stmt)
  | .labeled label body => .labeled label (f.stmt body)
  | .returnStmt e => .returnStmt (e.map f.expr)
  | .throwStmt e => .throwStmt (f.expr e)
  | .withStmt owner body => .withStmt (f.expr owner) (f.stmt body)
  | .importAlias exported name target => .importAlias exported name (f.expr target)
  | .exportDecl s => .exportDecl (f.stmt s)
  | .exportDefault s => .exportDefault (f.stmt s)
  | .enumeration name ms => .enumeration name (ms.map f.member)
  | .namespaceDecl name looseExports body => .namespaceDecl name looseExports (body.map f.stmt)
  | .commented cs s => .commented cs (f.stmt s)
  | s => s

/-- The node with its parts changed, and all else as it is. -/
def Node.mapParts (f : Maps) : Node → Node
  | .expr e => .expr (e.mapParts f)
  | .member m => .member (m.mapParts f)
  | .markup k => .markup (k.mapParts f)
  | .stmt s => .stmt (s.mapParts f)

variable {f g : Maps}

theorem keyParts_mapKey (key : Expr) : keyParts (mapKey f key) = (keyParts key).map f.node := by
  cases key <;> rfl

/-- The parts of a node with its parts changed are the changed parts. -/
theorem Node.parts_mapParts (n : Node) : (n.mapParts f).parts = n.parts.map f.node := by
  cases n with
  | expr e =>
    cases e <;> simp [Node.parts, Expr.parts, Node.mapParts, Expr.mapParts, Function.comp_def,
      Option.toList_map]
  | member m =>
    cases m <;> simp [Node.parts, Member.parts, Node.mapParts, Member.mapParts, keyParts_mapKey,
      Function.comp_def, Option.toList_map]
  | markup k =>
    cases k <;> simp [Node.parts, Markup.parts, Node.mapParts, Markup.mapParts, Function.comp_def]
  | stmt s =>
    cases s <;> simp [Node.parts, Stmt.parts, Node.mapParts, Stmt.mapParts, Function.comp_def,
      Option.toList_map]

theorem option_map_eq_iff {α : Type} {o : Option α} {u v : α → α} :
    o.map u = o.map v ↔ ∀ x, o = some x → u x = v x := by
  cases o <;> simp

theorem mapKey_eq_iff {key : Expr} :
    mapKey f key = mapKey g key ↔ ∀ p ∈ keyParts key, f.node p = g.node p := by
  cases key <;> simp [mapKey, keyParts]

/-- Only what becomes of its parts matters. -/
theorem Node.mapParts_congr {n : Node} (h : ∀ p ∈ n.parts, f.node p = g.node p) :
    n.mapParts f = n.mapParts g := by
  cases n with
  | expr e =>
    cases e <;>
      simp only [Node.parts, Expr.parts, List.forall_mem_append, List.forall_mem_cons,
        List.forall_mem_map] at h <;>
      simp_all [Node.mapParts, Expr.mapParts, option_map_eq_iff]
  | member m =>
    cases m <;>
      simp only [Node.parts, Member.parts, List.forall_mem_append, List.forall_mem_cons,
        List.forall_mem_map, ← mapKey_eq_iff] at h <;>
      simp_all [Node.mapParts, Member.mapParts, option_map_eq_iff]
  | markup k =>
    cases k <;>
      simp only [Node.parts, Markup.parts, List.forall_mem_append, List.forall_mem_cons,
        List.forall_mem_map] at h <;>
      simp_all [Node.mapParts, Markup.mapParts]
  | stmt s =>
    cases s <;>
      simp only [Node.parts, Stmt.parts, List.forall_mem_append, List.forall_mem_cons,
        List.forall_mem_map] at h <;>
      simp_all [Node.mapParts, Stmt.mapParts, option_map_eq_iff]

/-- A node whose parts stay as they are stays as it is. -/
theorem Node.mapParts_eq_self {n : Node} (h : ∀ p ∈ n.parts, f.node p = p) : n.mapParts f = n := by
  have hid : ∀ p, (⟨id, id, id, id⟩ : Maps).node p = p := by
    intro p
    cases p <;> rfl
  have hself : n.mapParts ⟨id, id, id, id⟩ = n := by
    have hkey : ∀ key, mapKey ⟨id, id, id, id⟩ key = key := by
      intro key
      cases key <;> rfl
    cases n with
    | expr e => cases e <;> simp [Node.mapParts, Expr.mapParts]
    | member m => cases m <;> simp [Node.mapParts, Member.mapParts, hkey]
    | markup k => cases k <;> simp [Node.mapParts, Markup.mapParts]
    | stmt s => cases s <;> simp [Node.mapParts, Stmt.mapParts]
  exact (Node.mapParts_congr fun p hp => (h p hp).trans (hid p).symm).trans hself

/-- One change of the parts behind another. -/
def Maps.after (f g : Maps) : Maps :=
  ⟨f.expr ∘ g.expr, f.member ∘ g.member, f.markup ∘ g.markup, f.stmt ∘ g.stmt⟩

theorem Maps.node_after (f g : Maps) (n : Node) : (f.after g).node n = f.node (g.node n) := by
  cases n <;> rfl

theorem Node.mapParts_mapParts (n : Node) : (n.mapParts g).mapParts f = n.mapParts (f.after g) := by
  have hkey : ∀ key, mapKey f (mapKey g key) = mapKey (f.after g) key := by
    intro key
    cases key <;> rfl
  cases n with
  | expr e => cases e <;> simp [Node.mapParts, Expr.mapParts, Maps.after]
  | member m => cases m <;> simp [Node.mapParts, Member.mapParts, hkey] <;> simp [Maps.after]
  | markup k => cases k <;> simp [Node.mapParts, Markup.mapParts, Maps.after]
  | stmt s => cases s <;> simp [Node.mapParts, Stmt.mapParts, Maps.after]

/-! ## Rebuilding -/

namespace Rebuild

@[simp] theorem id_bind {α β : Type} (x : Id α) (k : α → Id β) : x >>= k = k x := rfl

@[simp] theorem id_pure {α : Type} (x : α) : (pure x : Id α) = x := rfl

attribute [simp] onExpr onExprs onMember onMembers onMarkup onMarkups onStmt onStmts onList

/-- What a rebuild makes of whole trees. -/
def maps (b : Rebuild Id) : Maps := ⟨b.onExpr, b.onMember, b.onMarkup, b.onStmt⟩

/-- A rebuild that puts one node in the place of one, wherever it stands. -/
structure Plain {m : Type → Type} [Monad m] (b : Rebuild m) : Prop where
  item : ∀ isModule declared s, b.item isModule declared s = pure [s]
  binding : ∀ (α : Type) (names : List String) (x : m α), b.binding α names x = x
  expr : ∀ cs e, b.expr (.commented cs e) = pure (.commented cs e)
  member : ∀ cs m, b.member (.commented cs m) = pure (.commented cs m)
  stmt : ∀ cs s, b.stmt (.commented cs s) = pure (.commented cs s)

variable {b : Rebuild Id}

@[simp] theorem onExprs_eq (b : Rebuild Id) (es : List Expr) : b.onExprs es = es.map b.onExpr := by
  induction es with
  | nil => rfl
  | cons e r ih => simp [ih]

@[simp] theorem onMembers_eq (b : Rebuild Id) (ms : List Member) :
    b.onMembers ms = ms.map b.onMember := by
  induction ms with
  | nil => rfl
  | cons m r ih => simp [ih]

@[simp] theorem onMarkups_eq (b : Rebuild Id) (ks : List Markup) :
    b.onMarkups ks = ks.map b.onMarkup := by
  induction ks with
  | nil => rfl
  | cons k r ih => simp [ih]

@[simp] theorem onStmts_eq (b : Rebuild Id) (ss : List Stmt) : b.onStmts ss = ss.map b.onStmt := by
  induction ss with
  | nil => rfl
  | cons s r ih => simp [ih]

@[simp] theorem onKey_eq (b : Rebuild Id) (key : Expr) : b.onKey key = mapKey b.maps key := by
  cases key <;> rfl

theorem Plain.onList_eq (hb : Plain b) (isModule : Bool) (declared : List String)
    (ss : List Stmt) : b.onList isModule declared ss = ss.map b.onStmt := by
  induction ss generalizing declared with
  | nil => rfl
  | cons s r ih => simp [hb.item, ih]

/-- What a rebuild does to a node by itself. -/
def own (b : Rebuild Id) : Node → Node
  | .expr e => .expr (b.expr e)
  | .member m => .member (b.member m)
  | .markup k => .markup k
  | .stmt s => .stmt (b.stmt s)

theorem Plain.expr_eq (hb : Plain b) (e : Expr) : b.onExpr e = b.expr (e.mapParts b.maps) := by
  cases e with
  | classOf n base decorators ms => cases base <;> simp [Expr.mapParts, maps, hb.binding]
  | yieldExpr delegate e => cases e <;> simp [Expr.mapParts, maps]
  | _ => simp [Expr.mapParts, maps, hb.onList_eq, hb.binding, hb.expr]

theorem Plain.member_eq (hb : Plain b) (m : Member) :
    b.onMember m = b.member (m.mapParts b.maps) := by
  cases m with
  | field isStatic isAccessor decorators key value =>
    cases value <;> simp [Member.mapParts] <;> simp [maps]
  | _ => simp [Member.mapParts, hb.onList_eq, hb.binding, hb.member] <;> simp [maps]

theorem markup_eq (b : Rebuild Id) (k : Markup) : b.onMarkup k = k.mapParts b.maps := by
  cases k <;> simp [Markup.mapParts, maps]

theorem Plain.stmt_eq (hb : Plain b) (s : Stmt) : b.onStmt s = b.stmt (s.mapParts b.maps) := by
  cases s with
  | ifThen test yes no => cases no <;> simp [Stmt.mapParts, maps]
  | forLoop init test update body =>
    cases init <;> cases test <;> cases update <;> simp [Stmt.mapParts, maps, hb.binding]
  | tryCatch body handler finalizer =>
    cases handler <;> cases finalizer <;> simp [Stmt.mapParts, maps, hb.onList_eq, hb.binding]
  | switchCase test body => cases test <;> simp [Stmt.mapParts, maps, hb.onList_eq]
  | catchClause param body =>
    cases param <;> simp [Stmt.mapParts, maps, hb.onList_eq, hb.binding]
  | returnStmt e => cases e <;> simp [Stmt.mapParts, maps]
  | _ => simp [Stmt.mapParts, maps, hb.onList_eq, hb.binding, hb.stmt]

/-- **A rebuild rebuilds the parts of a node, and does to the node what it does to its kind.** -/
theorem Plain.node_eq (hb : Plain b) (n : Node) : b.maps.node n = b.own (n.mapParts b.maps) := by
  cases n with
  | expr e => exact congrArg Node.expr (hb.expr_eq e)
  | member m => exact congrArg Node.member (hb.member_eq m)
  | markup k => exact congrArg Node.markup (markup_eq b k)
  | stmt s => exact congrArg Node.stmt (hb.stmt_eq s)

/-- Two rebuilds, one behind the other, do to whole trees what they do to nodes, if what the first
one does to a node goes with what the second one does to the parts. -/
theorem Plain.node_node {a c : Rebuild Id} (ha : Plain a) (hb : Plain b) (hc : Plain c)
    (hparts : ∀ n, (b.own n).mapParts a.maps = b.own (n.mapParts a.maps))
    (hown : ∀ n, a.own (b.own n) = c.own n) (n : Node) :
    a.maps.node (b.maps.node n) = c.maps.node n := by
  induction n using Node.induction with
  | h n ih =>
    have hmaps : n.mapParts (a.maps.after b.maps) = n.mapParts c.maps :=
      Node.mapParts_congr fun p hp => (Maps.node_after _ _ p).trans (ih p hp)
    rw [hb.node_eq, ha.node_eq, hparts, Node.mapParts_mapParts, hown, hmaps, hc.node_eq]

theorem Plain.onModule_eq (hb : Plain b) (items : Module) :
    b.onModule items = items.map b.maps.stmt := hb.onList_eq true [] items

/-! ## Rebuilding with a count -/

/-- A value that is reached with a number of steps counted. -/
def counted {α : Type} (a : α) (k : Nat) : StateM Nat α := fun n => (a, n + k)

/-- An action behind a number of steps counted. -/
def later {α : Type} (k : Nat) (x : StateM Nat α) : StateM Nat α := fun n => x (n + k)

@[simp] theorem pure_eq_counted {α : Type} (a : α) : (pure a : StateM Nat α) = counted a 0 := rfl

@[simp] theorem counted_bind {α β : Type} (a : α) (k : Nat) (x : α → StateM Nat β) :
    counted a k >>= x = later k (x a) := rfl

@[simp] theorem map_counted {α β : Type} (h : α → β) (a : α) (k : Nat) :
    h <$> counted a k = counted (h a) k := rfl

@[simp] theorem later_counted {α : Type} (a : α) (j k : Nat) :
    later j (counted a k) = counted a (j + k) :=
  funext fun n => Prod.ext rfl (Nat.add_assoc n j k)

@[simp] theorem later_later {α : Type} (j k : Nat) (x : StateM Nat α) :
    later j (later k x) = later (j + k) x :=
  funext fun n => congrArg x (Nat.add_assoc n j k)

@[simp] theorem later_zero {α : Type} (x : StateM Nat α) : later 0 x = x := rfl

variable {c : Rebuild (StateM Nat)} (new : Maps) (k : Node → Nat)

/-- The rebuild makes `new` of a node, and counts `k` as it does. -/
def Reaches (c : Rebuild (StateM Nat)) (new : Maps) (k : Node → Nat) : Node → Prop
  | .expr e => c.onExpr e = counted (new.expr e) (k (.expr e))
  | .member m => c.onMember m = counted (new.member m) (k (.member m))
  | .markup piece => c.onMarkup piece = counted (new.markup piece) (k (.markup piece))
  | .stmt s => c.onStmt s = counted (new.stmt s) (k (.stmt s))

/-! What a rebuild does to the parts of a node once it is known of each of them. -/

theorem onExpr_counted {e : Expr} (h : Reaches c new k (.expr e)) :
    c.onExpr e = counted (new.expr e) (k (.expr e)) := h

theorem onMember_counted {m : Member} (h : Reaches c new k (.member m)) :
    c.onMember m = counted (new.member m) (k (.member m)) := h

theorem onMarkup_counted {piece : Markup} (h : Reaches c new k (.markup piece)) :
    c.onMarkup piece = counted (new.markup piece) (k (.markup piece)) := h

theorem onStmt_counted {s : Stmt} (h : Reaches c new k (.stmt s)) :
    c.onStmt s = counted (new.stmt s) (k (.stmt s)) := h

theorem onExprs_counted {es : List Expr} (h : ∀ e ∈ es, Reaches c new k (.expr e)) :
    c.onExprs es = counted (es.map new.expr) (total (fun e => k (.expr e)) es) := by
  induction es with
  | nil => rfl
  | cons e r ih => simp_all [onExpr_counted new k]

theorem onMembers_counted {ms : List Member} (h : ∀ m ∈ ms, Reaches c new k (.member m)) :
    c.onMembers ms = counted (ms.map new.member) (total (fun m => k (.member m)) ms) := by
  induction ms with
  | nil => rfl
  | cons m r ih => simp_all [onMember_counted new k]

theorem onMarkups_counted {ks : List Markup} (h : ∀ m ∈ ks, Reaches c new k (.markup m)) :
    c.onMarkups ks = counted (ks.map new.markup) (total (fun m => k (.markup m)) ks) := by
  induction ks with
  | nil => rfl
  | cons m r ih => simp_all [onMarkup_counted new k]

theorem onStmts_counted {ss : List Stmt} (h : ∀ s ∈ ss, Reaches c new k (.stmt s)) :
    c.onStmts ss = counted (ss.map new.stmt) (total (fun s => k (.stmt s)) ss) := by
  induction ss with
  | nil => rfl
  | cons s r ih => simp_all [onStmt_counted new k]

theorem Plain.onList_counted (hc : Plain c) (isModule : Bool) (declared : List String)
    {ss : List Stmt} (h : ∀ s ∈ ss, Reaches c new k (.stmt s)) :
    c.onList isModule declared ss =
      counted (ss.map new.stmt) (total (fun s => k (.stmt s)) ss) := by
  induction ss generalizing declared with
  | nil => rfl
  | cons s r ih => simp_all [onStmt_counted new k, hc.item]

theorem onKey_counted {key : Expr} (h : ∀ p ∈ keyParts key, Reaches c new k p) :
    c.onKey key = counted (mapKey new key) (total k (keyParts key)) := by
  cases key with
  | computed e => simp_all [onKey, keyParts, mapKey, onExpr_counted new k]
  | _ => rfl

/-! A rebuild comes to a node once it has rebuilt the parts. -/

theorem Plain.expr_counted (hc : Plain c) {e : Expr} (h : ∀ p ∈ e.parts, Reaches c new k p) :
    c.onExpr e = later (total k e.parts) (c.expr (e.mapParts new)) := by
  cases e with
  | yieldExpr delegate e =>
    cases e <;> simp_all [Expr.parts, Expr.mapParts, onExpr_counted new k]
  | classOf name base decorators ms =>
    cases base <;> simp_all [Expr.parts, Expr.mapParts, or_imp, forall_and,
      onExpr_counted new k, onExprs_counted new k, onMembers_counted new k, hc.binding]
  | _ =>
    simp only [Expr.parts, List.forall_mem_append, List.forall_mem_cons, List.forall_mem_map] at h
    simp_all [Expr.parts, Expr.mapParts, onExpr_counted new k,
      onExprs_counted new k, onMembers_counted new k, onMarkup_counted new k,
      hc.onList_counted new k, hc.binding, hc.expr]

theorem Plain.member_counted (hc : Plain c) {m : Member} (h : ∀ p ∈ m.parts, Reaches c new k p) :
    c.onMember m = later (total k m.parts) (c.member (m.mapParts new)) := by
  cases m with
  | field isStatic isAccessor decorators key value =>
    cases value <;> simp_all [Member.parts, Member.mapParts, or_imp, forall_and,
      onExpr_counted new k, onExprs_counted new k, onKey_counted new k]
  | _ =>
    simp only [Member.parts, List.forall_mem_append, List.forall_mem_cons, List.forall_mem_map] at h
    simp_all [Member.parts, Member.mapParts, onExpr_counted new k,
      onExprs_counted new k, onMember_counted new k, onKey_counted new k,
      hc.onList_counted new k, hc.binding, hc.member]

theorem markup_counted {piece : Markup} (h : ∀ p ∈ piece.parts, Reaches c new k p) :
    c.onMarkup piece = counted (piece.mapParts new) (total k piece.parts) := by
  cases piece <;>
    simp only [Markup.parts, List.forall_mem_append, List.forall_mem_cons,
      List.forall_mem_map] at h <;>
    simp_all [Markup.parts, Markup.mapParts, onExpr_counted new k,
      onMarkup_counted new k, onMarkups_counted new k]

theorem Plain.stmt_counted (hc : Plain c) {s : Stmt} (h : ∀ p ∈ s.parts, Reaches c new k p) :
    c.onStmt s = later (total k s.parts) (c.stmt (s.mapParts new)) := by
  cases s with
  | ifThen test yes no =>
    cases no <;> simp_all [Stmt.parts, Stmt.mapParts, onExpr_counted new k, onStmt_counted new k]
  | forLoop init test update body =>
    cases init <;> cases test <;> cases update <;>
      simp_all [Stmt.parts, Stmt.mapParts, onExpr_counted new k, onStmt_counted new k, hc.binding]
  | tryCatch body handler finalizer =>
    cases handler <;> cases finalizer <;>
      simp_all [Stmt.parts, Stmt.mapParts, or_imp, forall_and,
        onStmt_counted new k, hc.onList_counted new k, hc.binding]
  | switchCase test body =>
    cases test <;> simp_all [Stmt.parts, Stmt.mapParts, onExpr_counted new k,
      hc.onList_counted new k]
  | catchClause param body =>
    cases param <;> simp_all [Stmt.parts, Stmt.mapParts, onExpr_counted new k,
      hc.onList_counted new k, hc.binding]
  | returnStmt e => cases e <;> simp_all [Stmt.parts, Stmt.mapParts, onExpr_counted new k]
  | _ =>
    simp only [Stmt.parts, List.forall_mem_cons, List.forall_mem_map] at h
    simp_all [Stmt.parts, Stmt.mapParts, onExpr_counted new k,
      onExprs_counted new k, onMembers_counted new k, onStmt_counted new k, onStmts_counted new k,
      hc.onList_counted new k, hc.binding, hc.stmt]

/-- A rebuild that does to each node what `b` does, and counts what the node holds. -/
structure Counts {α : Type} (c : Rebuild (StateM Nat)) (b : Rebuild Id) (own : Node → List α) :
    Prop where
  plain : Plain c
  plainly : Plain b
  expr : ∀ e, c.expr (e.mapParts b.maps) =
    counted (b.expr (e.mapParts b.maps)) (own (.expr e)).length
  member : ∀ m, c.member (m.mapParts b.maps) =
    counted (b.member (m.mapParts b.maps)) (own (.member m)).length
  markup : ∀ piece, own (.markup piece) = []
  stmt : ∀ s, c.stmt (s.mapParts b.maps) =
    counted (b.stmt (s.mapParts b.maps)) (own (.stmt s)).length

/-- **A rebuild that counts does to a tree what the one without does, and counts what the tree
holds.** -/
theorem Counts.reaches {α : Type} {own : Node → List α} (h : Counts c b own) (n : Node) :
    Reaches c b.maps (fun n => (n.collect own).length) n := by
  induction n using Node.induction with
  | h n ih =>
    have hsum : total (fun p => (p.collect own).length) n.parts + (own n).length =
        (n.collect own).length := by
      rw [Node.length_collect own n, Nat.add_comm]
    cases n with
    | expr e =>
      refine (h.plain.expr_counted _ _ ih).trans ?_
      rw [h.expr, later_counted]
      exact congr (congrArg counted (h.plainly.expr_eq e).symm) hsum
    | member m =>
      refine (h.plain.member_counted _ _ ih).trans ?_
      rw [h.member, later_counted]
      exact congr (congrArg counted (h.plainly.member_eq m).symm) hsum
    | markup piece =>
      refine (markup_counted _ _ ih).trans ?_
      rw [h.markup, List.length_nil, Nat.add_zero] at hsum
      exact congr (congrArg counted (markup_eq b piece).symm) hsum
    | stmt s =>
      refine (h.plain.stmt_counted _ _ ih).trans ?_
      rw [h.stmt, later_counted]
      exact congr (congrArg counted (h.plainly.stmt_eq s).symm) hsum

theorem Counts.onModule_eq {α : Type} {own : Node → List α} (h : Counts c b own) (items : Module) :
    (c.onModule items).run 0 = (b.onModule items, (Module.collect own items).length) := by
  have hlist : c.onModule items =
      counted (items.map b.onStmt) (total (fun s => ((Node.stmt s).collect own).length) items) :=
    h.plain.onList_counted _ _ true [] fun s _ => h.reaches (.stmt s)
  rw [hlist, h.plainly.onModule_eq, Module.collect, length_flatMap_eq]
  exact congrArg (Prod.mk _) (Nat.zero_add _)

end Rebuild

end LivePreview.Script
