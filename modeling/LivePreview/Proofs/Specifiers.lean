import LivePreview.Proofs.LoopChecks
import LivePreview.Script.Specifiers
/-!
# The specifiers in a tree

`ofStmts` lists the specifiers of a module in the order of the source. Two passes over the lowered
tree come before it is printed, and both are rebuilds: one puts guards into loops and one replaces
specifiers. What matters of a rebuild here is what it does to a node's own specifiers (`Uniform`);
from that follows what it does to a whole tree (`Uniform.ofNode_eq`). The guards change none of them
(`ofStmts_guardModule`).

The rebuild that replaces specifiers counts as it goes. It does to a tree what the rebuild without
a count does, and its count is the number of specifiers replaced (`replace_eq`), so the replaced
module has the replaced specifiers, in their places (`ofStmts_replace`).
-/
namespace LivePreview.Script.Specifiers

open Rebuild

/-- The specifier of an import while running, if its source is a string. -/
def ofString : Expr → List String
  | .string s => [s]
  | .brokenString s => [s]
  | .commented _ e => ofString e
  | _ => []

/-- The specifier of an import while running with some arguments. -/
def ofArguments : List Expr → List String
  | source :: _ => ofString source
  | [] => []

mutual

/-- The specifiers in an expression, at any depth. -/
def ofExpr : Expr → List String
  | .template _ parts => ofExprs parts
  | .tagged tag quasi => ofExpr tag ++ ofExpr quasi
  | .array elements => ofExprs elements
  | .spread e => ofExpr e
  | .object ms => ofMembers ms
  | .pattern ms => ofMembers ms
  | .initialized target value => ofExpr target ++ ofExpr value
  | .function _ _ _ params body => ofExprs params ++ ofStmts body
  | .arrow _ params body => ofExprs params ++ ofStmts body
  | .arrowTo _ params body => ofExprs params ++ ofExpr body
  | .classOf _ base decorators ms =>
    ofExprs decorators ++
      (match base with
        | some e => ofExpr e
        | none => []) ++ ofMembers ms
  | .unary _ e => ofExpr e
  | .update _ _ e => ofExpr e
  | .binary _ left right => ofExpr left ++ ofExpr right
  | .assign _ target value => ofExpr target ++ ofExpr value
  | .conditional test yes no => ofExpr test ++ ofExpr yes ++ ofExpr no
  | .sequence es => ofExprs es
  | .call callee args _ _ => ofExpr callee ++ ofExprs args
  | .new callee args _ => ofExpr callee ++ ofExprs args
  | .member object _ _ => ofExpr object
  | .privateMember object _ _ => ofExpr object
  | .index object key _ => ofExpr object ++ ofExpr key
  | .importCall _ args => ofArguments args ++ ofExprs args
  | .awaitExpr e => ofExpr e
  | .yieldExpr _ e =>
    match e with
    | some e => ofExpr e
    | none => []
  | .paren e => ofExpr e
  | .computed e => ofExpr e
  | .fieldParameter target => ofExpr target
  | .decorated decorators target => ofExprs decorators ++ ofExpr target
  | .effectless fn => ofExpr fn
  | .commented _ e => ofExpr e
  | .markup piece => ofMarkup piece
  | .name _ | .thisRef | .superRef | .null | .bool _ | .number _ | .bigint _ | .string _
  | .brokenString _ | .regex _ _ | .hole | .metaProperty _ _ | .privateName _ => []

def ofExprs : List Expr → List String
  | [] => []
  | e :: r => ofExpr e ++ ofExprs r

/-- The specifiers in a key, which are those in its brackets. -/
def ofKey : Expr → List String
  | .computed e => ofExpr e
  | _ => []

def ofMember : Member → List String
  | .property key value => ofKey key ++ ofExpr value
  | .shorthand _ => []
  | .shorthandDefault _ value => ofExpr value
  | .spread e => ofExpr e
  | .method _ _ decorators key fn => ofExprs decorators ++ ofKey key ++ ofExpr fn
  | .field _ _ decorators key value =>
    ofExprs decorators ++ ofKey key ++
      (match value with
        | some e => ofExpr e
        | none => [])
  | .staticBlock body => ofStmts body
  | .signature key => ofKey key
  | .commented _ m => ofMember m

def ofMembers : List Member → List String
  | [] => []
  | m :: r => ofMember m ++ ofMembers r

def ofMarkup : Markup → List String
  | .element tag attributes children => ofExpr tag ++ ofMarkups attributes ++ ofMarkups children
  | .fragment children => ofMarkups children
  | .embedded e => ofExpr e
  | .spreadChild e => ofExpr e
  | .attribute _ _ value => ofMarkup value
  | .spreadAttribute e => ofExpr e
  | .prefixedElement _ | .text _ | .emptyBraces | .bareAttribute _ _ => []

def ofMarkups : List Markup → List String
  | [] => []
  | m :: r => ofMarkup m ++ ofMarkups r

/-- The specifiers in a statement: those of imports and of exports from elsewhere, and of imports
while running at any depth. -/
def ofStmt : Stmt → List String
  | .expression e => ofExpr e
  | .declaration _ ds => ofExprs ds
  | .functionDecl f => ofExpr f
  | .classDecl c => ofExpr c
  | .block body => ofStmts body
  | .ifThen test yes no =>
    ofExpr test ++ ofStmt yes ++
      (match no with
        | some s => ofStmt s
        | none => [])
  | .forLoop init test update body =>
    (match init with
      | some s => ofStmt s
      | none => []) ++
    (match test with
      | some e => ofExpr e
      | none => []) ++
    (match update with
      | some e => ofExpr e
      | none => []) ++ ofStmt body
  | .forIn left right body => ofStmt left ++ ofExpr right ++ ofStmt body
  | .forOf _ left right body => ofStmt left ++ ofExpr right ++ ofStmt body
  | .whileLoop test body => ofExpr test ++ ofStmt body
  | .doWhile body test => ofStmt body ++ ofExpr test
  | .switchOn value cases => ofExpr value ++ ofStmts cases
  | .switchCase test body =>
    (match test with
      | some e => ofExpr e
      | none => []) ++ ofStmts body
  | .tryCatch body handler finalizer =>
    ofStmts body ++
    (match handler with
      | some s => ofStmt s
      | none => []) ++
    (match finalizer with
      | some s => ofStmt s
      | none => [])
  | .catchClause param body =>
    (match param with
      | some e => ofExpr e
      | none => []) ++ ofStmts body
  | .labeled _ body => ofStmt body
  | .returnStmt e =>
    match e with
    | some e => ofExpr e
    | none => []
  | .throwStmt e => ofExpr e
  | .withStmt object body => ofExpr object ++ ofStmt body
  | .importDecl _ _ source _ => [source.text]
  | .importAlias _ _ target => ofExpr target
  | .exportNames _ source _ => (source.map StringLiteral.text).toList
  | .exportAll _ source _ => [source.text]
  | .exportDecl s => ofStmt s
  | .exportDefault s => ofStmt s
  | .enumeration _ ms => ofMembers ms
  | .namespaceDecl _ _ body => ofStmts body
  | .commented _ s => ofStmt s
  | .launchLine _ | .directive _ | .empty | .nothing | .breakTo _ | .continueTo _ | .debugger
  | .erased _ _ => []

def ofStmts : List Stmt → List String
  | [] => []
  | s :: r => ofStmt s ++ ofStmts r

end

/-! ## The specifiers of the nodes -/

/-- The specifiers that a node names itself. -/
def own : Node → List String
  | .expr (.importCall _ args) => ofArguments args
  | .stmt (.importDecl _ _ source _) => [source.text]
  | .stmt (.exportNames _ source _) => (source.map StringLiteral.text).toList
  | .stmt (.exportAll _ source _) => [source.text]
  | _ => []

/-- The specifiers in a node, at any depth. -/
def ofNode : Node → List String
  | .expr e => ofExpr e
  | .member m => ofMember m
  | .markup k => ofMarkup k
  | .stmt s => ofStmt s

@[simp] theorem ofExprs_eq (es : List Expr) : ofExprs es = (es.map .expr).flatMap ofNode := by
  induction es with
  | nil => rfl
  | cons e r ih => simp [ofExprs, ih, ofNode]

@[simp] theorem ofMembers_eq (ms : List Member) :
    ofMembers ms = (ms.map .member).flatMap ofNode := by
  induction ms with
  | nil => rfl
  | cons m r ih => simp [ofMembers, ih, ofNode]

@[simp] theorem ofMarkups_eq (ks : List Markup) :
    ofMarkups ks = (ks.map .markup).flatMap ofNode := by
  induction ks with
  | nil => rfl
  | cons k r ih => simp [ofMarkups, ih, ofNode]

@[simp] theorem ofStmts_eq (ss : List Stmt) : ofStmts ss = (ss.map .stmt).flatMap ofNode := by
  induction ss with
  | nil => rfl
  | cons s r ih => simp [ofStmts, ih, ofNode]

@[simp] theorem ofKey_eq (key : Expr) : ofKey key = (keyParts key).flatMap ofNode := by
  cases key <;> simp [ofKey, keyParts, ofNode]

/-- The specifiers in a node are its own and those in its parts. -/
theorem ofNode_eq (n : Node) : ofNode n = own n ++ n.parts.flatMap ofNode := by
  cases n with
  | expr e =>
    cases e with
    | classOf name base decorators ms =>
      cases base <;> simp [ofNode, ofExpr, own, Node.parts, Expr.parts]
    | yieldExpr delegate e => cases e <;> simp [ofNode, ofExpr, own, Node.parts, Expr.parts]
    | _ => simp [ofNode, ofExpr, own, Node.parts, Expr.parts]
  | member m =>
    cases m with
    | field isStatic isAccessor decorators key value =>
      cases value <;> simp [ofNode, ofMember, own, Node.parts, Member.parts]
    | _ => simp [ofNode, ofMember, own, Node.parts, Member.parts]
  | markup k => cases k <;> simp [ofNode, ofMarkup, own, Node.parts, Markup.parts]
  | stmt s =>
    cases s with
    | ifThen test yes no => cases no <;> simp [ofNode, ofStmt, own, Node.parts, Stmt.parts]
    | forLoop init test update body =>
      cases init <;> cases test <;> cases update <;>
        simp [ofNode, ofStmt, own, Node.parts, Stmt.parts]
    | switchCase test body => cases test <;> simp [ofNode, ofStmt, own, Node.parts, Stmt.parts]
    | tryCatch body handler finalizer =>
      cases handler <;> cases finalizer <;> simp [ofNode, ofStmt, own, Node.parts, Stmt.parts]
    | catchClause param body => cases param <;> simp [ofNode, ofStmt, own, Node.parts, Stmt.parts]
    | returnStmt e => cases e <;> simp [ofNode, ofStmt, own, Node.parts, Stmt.parts]
    | _ => simp [ofNode, ofStmt, own, Node.parts, Stmt.parts]

theorem ofNode_eq_collect (n : Node) : ofNode n = n.collect own := by
  induction n using Node.induction with
  | h n ih =>
    rw [ofNode_eq, Node.collect_eq, List.flatMap_def, List.flatMap_def, List.map_congr_left ih]

theorem ofStmts_eq_collect (items : Module) : ofStmts items = Module.collect own items := by
  rw [ofStmts_eq, Module.collect, List.flatMap_map]
  exact congrArg (List.flatMap · items) (funext fun s => ofNode_eq_collect (.stmt s))

/-! ## Rebuilding -/

/-- A rebuild that does the same to all specifiers, where they stand, and leaves those of the parts
alone. -/
structure Uniform (b : Rebuild Id) (g : String → String) : Prop where
  plain : Plain b
  string : ∀ e, ofString (b.expr e) = ofString e
  node : ∀ n, ofNode (b.own n) = (own n).map g ++ n.parts.flatMap ofNode

variable {b : Rebuild Id} {g : String → String}

/-- Of the strings only those that an import while running names are specifiers, and they stay until
it is rebuilt itself. -/
theorem Uniform.ofString_onExpr (h : Uniform b g) (e : Expr) :
    ofString (b.onExpr e) = ofString e := by
  rw [h.plain.expr_eq, h.string]
  induction e using ofString.induct with
  | case1 s => rfl
  | case2 s => rfl
  | case3 cs e ih =>
    rw [Expr.mapParts, ofString, ofString, ← ih]
    exact (congrArg ofString (h.plain.expr_eq e)).trans (h.string _)
  | case4 e hs hb hc =>
    cases e with
    | string s => exact absurd rfl (hs s)
    | brokenString s => exact absurd rfl (hb s)
    | commented cs e => exact absurd rfl (hc cs e)
    | _ => rfl

theorem Uniform.own_mapParts (h : Uniform b g) (n : Node) : own (n.mapParts b.maps) = own n := by
  cases n with
  | expr e =>
    cases e with
    | importCall phase args =>
      cases args with
      | nil => rfl
      | cons source options => exact h.ofString_onExpr source
    | _ => rfl
  | stmt s => cases s <;> rfl
  | _ => rfl

/-- A rebuild of this kind does to the specifiers of a tree what it does to those of a node. -/
theorem Uniform.ofNode_eq (h : Uniform b g) (n : Node) :
    ofNode (b.maps.node n) = (ofNode n).map g := by
  induction n using Node.induction with
  | h n ih =>
    have hparts : (n.parts.map b.maps.node).flatMap ofNode = (n.parts.flatMap ofNode).map g := by
      rw [List.flatMap_map, List.map_flatMap, List.flatMap_def, List.flatMap_def,
        List.map_congr_left ih]
    rw [h.plain.node_eq, h.node, h.own_mapParts, Node.parts_mapParts, hparts,
      Specifiers.ofNode_eq, List.map_append]

theorem Uniform.ofStmts_eq (h : Uniform b g) (items : Module) :
    ofStmts (b.onModule items) = (ofStmts items).map g := by
  rw [h.plain.onModule_eq, Specifiers.ofStmts_eq, Specifiers.ofStmts_eq, List.map_flatMap,
    List.flatMap_map, List.flatMap_map, List.flatMap_map]
  exact congrArg (List.flatMap · items) (funext fun s => h.ofNode_eq (.stmt s))

/-! ## Replacing -/

/-- A string literal has its text replaced. -/
def relabelLiteral (g : String → String) (l : StringLiteral) : StringLiteral :=
  { l with text := g l.text }

/-- A string under comments is replaced. -/
def relabelString (g : String → String) : Expr → Expr
  | .string s => .string (g s)
  | .brokenString s => .brokenString (g s)
  | .commented cs e => .commented cs (relabelString g e)
  | e => e

/-- The rebuild that replaces all specifiers. -/
def relabel (g : String → String) : Rebuild Id :=
  { Rebuild.keep with
    expr := fun e =>
      match e with
      | .importCall phase (source :: options) =>
        .importCall phase (relabelString g source :: options)
      | e => e
    stmt := fun s =>
      match s with
      | .importDecl phase bindings source attributes =>
        .importDecl phase bindings (relabelLiteral g source) attributes
      | .exportNames names (some source) attributes =>
        .exportNames names (some (relabelLiteral g source)) attributes
      | .exportAll name source attributes => .exportAll name (relabelLiteral g source) attributes
      | s => s }

theorem ofString_relabelString (e : Expr) :
    ofString (relabelString g e) = (ofString e).map g := by
  induction e using ofString.induct with
  | case1 s => rfl
  | case2 s => rfl
  | case3 cs e ih => simpa [relabelString, ofString] using ih
  | case4 e hs hb hc =>
    rw [relabelString, ofString]
    · rfl
    all_goals first | exact hs | exact hb | exact hc

theorem ofExpr_relabelString (e : Expr) : ofExpr (relabelString g e) = ofExpr e := by
  induction e using ofString.induct with
  | case1 s => rfl
  | case2 s => rfl
  | case3 cs e ih => simpa [relabelString, ofExpr] using ih
  | case4 e hs hb hc =>
    rw [relabelString]
    all_goals first | exact hs | exact hb | exact hc

theorem plain_relabel (g : String → String) : Plain (relabel g) where
  item _ _ _ := rfl
  binding _ _ _ := rfl
  expr _ _ := rfl
  member _ _ := rfl
  stmt _ _ := rfl

theorem uniform_relabel (g : String → String) : Uniform (relabel g) g where
  plain := plain_relabel g
  string e := by
    cases e with
    | importCall phase args => cases args <;> rfl
    | _ => rfl
  node n := by
    cases n with
    | expr e =>
      cases e with
      | importCall phase args =>
        cases args with
        | nil => rfl
        | cons source options =>
          simp [Rebuild.own, relabel, own, ofNode, ofExpr, ofArguments, ofString_relabelString,
            ofExpr_relabelString, Node.parts, Expr.parts]
      | _ => exact ofNode_eq _
    | stmt s =>
      cases s with
      | importDecl | exportAll => rfl
      | exportNames names source attributes => cases source <;> rfl
      | _ => exact ofNode_eq _
    | _ => exact ofNode_eq _

variable (f : String → Option String)

/-- What a specifier is replaced by. -/
def target (s : String) : String := (f s).getD s

/-- How many of some specifiers are replaced. -/
def replaced (ss : List String) : Nat := ss.countP fun s => (f s).isSome

theorem replaced_eq_length (ss : List String) :
    replaced f ss = (ss.filter fun s => (f s).isSome).length :=
  List.countP_eq_length_filter

theorem replaceOne_eq (s : String) : replaceOne f s = counted (target f s) (replaced f [s]) := by
  funext n
  cases h : f s with
  | none =>
    simp [replaceOne, target, replaced, counted, h]
  | some t =>
    simp [replaceOne, target, replaced, counted, h]
    rfl

theorem replaceLiteral_eq (l : StringLiteral) :
    replaceLiteral f l = counted (relabelLiteral (target f) l) (replaced f [l.text]) := by
  rw [replaceLiteral, replaceOne_eq]
  rfl

theorem replaceString_eq (e : Expr) :
    replaceString f e = counted (relabelString (target f) e) (replaced f (ofString e)) := by
  induction e using ofString.induct with
  | case1 s => simp [replaceString, replaceOne_eq, relabelString, ofString]
  | case2 s => simp [replaceString, replaceOne_eq, relabelString, ofString]
  | case3 cs e ih => simp [replaceString, ih, relabelString, ofString]
  | case4 e hs hb hc =>
    rw [replaceString, relabelString, ofString]
    · rfl
    all_goals first | exact hs | exact hb | exact hc

/-- Replacing is relabelling, and it counts the specifiers that are replaced. -/
theorem counts_rebuild : Counts (rebuild f) (relabel (target f))
    (fun n => (own n).filter fun s => (f s).isSome) where
  plain := ⟨fun _ _ _ => rfl, fun _ _ _ => rfl, fun _ _ => rfl, fun _ _ => rfl, fun _ _ => rfl⟩
  plainly := plain_relabel _
  expr e := by
    cases e with
    | importCall phase args =>
      cases args with
      | nil => rfl
      | cons source options =>
        have hsource := (uniform_relabel (target f)).ofString_onExpr source
        simp only [Expr.mapParts, List.map_cons, own, ofArguments, ← hsource]
        simp [rebuild, relabel, replaceString_eq, replaced_eq_length, maps]
    | _ => rfl
  member m := by cases m <;> rfl
  markup _ := rfl
  stmt s := by
    cases s with
    | importDecl | exportAll =>
      simp [rebuild, relabel, Stmt.mapParts, replaceLiteral_eq, own, replaced_eq_length]
    | exportNames names source attributes =>
      cases source <;>
        simp [rebuild, relabel, Stmt.mapParts, replaceLiteral_eq, own, replaced_eq_length]
    | _ => rfl

theorem replace_eq (items : Module) : replace f items =
    ((relabel (target f)).onModule items, replaced f (ofStmts items)) := by
  refine ((counts_rebuild f).onModule_eq items).trans (congrArg (Prod.mk _) ?_)
  simp only [replaced_eq_length, ofStmts_eq_collect, Module.collect, Node.collect,
    List.filter_flatMap]

/-- **The replaced module has the replaced specifiers, in their places, and the number says how
many of them are new.** -/
theorem ofStmts_replace (items : Module) :
    ofStmts (replace f items).1 = (ofStmts items).map (target f) ∧
      (replace f items).2 = replaced f (ofStmts items) := by
  rw [replace_eq]
  exact ⟨(uniform_relabel (target f)).ofStmts_eq items, rfl⟩

/-! ## Guards in loops -/

theorem ofStmt_bare (s : Stmt) : ofStmt s.bare = ofStmt s := by
  induction s using Stmt.bare.induct with
  | case1 cs s ih => rw [Stmt.bare, ofStmt, ih]
  | case2 s hs =>
    rw [Stmt.bare]
    exact hs

theorem ofStmt_check (limit : Nat) : ofStmt (LoopGuard.check limit) = [] := by
  simp [LoopGuard.check, ofStmt, ofExpr, ofExprs]

theorem ofStmt_guardBody (limit : Nat) (body : Stmt) :
    ofStmt (LoopGuard.guardBody limit body) = ofStmt body := by
  unfold LoopGuard.guardBody
  split
  case h_1 ss h => simp [ofStmt, ofNode, ofStmt_check, ← ofStmt_bare body, h]
  case h_2 => simp [ofStmt, ofNode, ofStmt_check]

/-- A guarded module has the specifiers that it had. -/
theorem ofStmts_guardModule (limit : Nat) (items : Module) :
    ofStmts (LoopGuard.guardModule limit items).1 = ofStmts items := by
  have h : Uniform (LoopGuard.bodies (LoopGuard.guardBody limit)) id :=
    { plain := LoopGuard.plain_bodies _
      string := fun _ => rfl
      node := fun n => by
        have hbody : ∀ b, ofNode (.stmt (LoopGuard.guardBody limit b)) = ofNode (.stmt b) :=
          ofStmt_guardBody limit
        rw [LoopGuard.own_bodies, ofNode_eq, LoopGuard.flatMap_parts_onNode hbody, List.map_id]
        cases n with
        | stmt s => cases s <;> rfl
        | _ => rfl }
  rw [LoopGuard.guardModule_eq]
  exact (h.ofStmts_eq items).trans (List.map_id _)

end LivePreview.Script.Specifiers
