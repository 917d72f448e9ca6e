import LivePreview.Proofs.LoopChecks
import LivePreview.Proofs.Specifiers
/-!
# Names around loops

A node binds names around its parts: a function its parameters and what its body declares, a block
its own declarations, and so on. `Node.scopes` lists the parts of a node with the names that the
node binds around each of them. From these come the names that are bound, within the module, around
the body of each loop (`loopSites`); `moduleNames` are those that belong to the module itself.

A rebuild that leaves the names of each node alone leaves both alone (`Keeps.loopSites_eq`,
`Keeps.moduleNames_eq`). Replacing specifiers is such a rebuild. So is putting checks in, once the
bodies of all loops are blocks (`guardModule_eq_braced`).
-/
namespace LivePreview.Script

open Rebuild

/-! ## What a node tells about its names -/

/-- The names that a node has to tell what is around it. -/
structure Names where
  /-- Those that it binds if it is a pattern. -/
  bound : List String := []
  /-- That of a function or a class. -/
  own : List String := []
  declared : List String := []
  hoisted : List String := []
  imported : List String := []
  /-- Those that it declares inside of itself if it is a block. -/
  inside : List String := []

def Stmt.inside : Stmt → List String
  | .block body => declaredBy body
  | _ => []

def Node.names : Node → Names
  | .expr e => { bound := e.bound, own := e.ownName }
  | .member m => { bound := m.bound }
  | .markup _ => {}
  | .stmt s =>
    { declared := s.declared, hoisted := s.hoisted, imported := s.imported, inside := s.inside }

section
variable {f : Maps}

/-- The names of a node are those that it was made from. -/
def SameNames (f : Maps) (n : Node) : Prop := (f.node n).names = n.names

theorem SameNames.bound {e : Expr} (h : SameNames f (.expr e)) : (f.expr e).bound = e.bound :=
  congrArg Names.bound h

theorem SameNames.ownName {e : Expr} (h : SameNames f (.expr e)) : (f.expr e).ownName = e.ownName :=
  congrArg Names.own h

theorem SameNames.member_bound {m : Member} (h : SameNames f (.member m)) :
    (f.member m).bound = m.bound :=
  congrArg Names.bound h

theorem SameNames.declared {s : Stmt} (h : SameNames f (.stmt s)) :
    (f.stmt s).declared = s.declared :=
  congrArg Names.declared h

theorem SameNames.hoisted {s : Stmt} (h : SameNames f (.stmt s)) : (f.stmt s).hoisted = s.hoisted :=
  congrArg Names.hoisted h

theorem SameNames.imported {s : Stmt} (h : SameNames f (.stmt s)) :
    (f.stmt s).imported = s.imported :=
  congrArg Names.imported h

theorem SameNames.inside {s : Stmt} (h : SameNames f (.stmt s)) : (f.stmt s).inside = s.inside :=
  congrArg Names.inside h

theorem boundOfAll_map {es : List Expr} (h : ∀ p ∈ es.map .expr, SameNames f p) :
    boundOfAll (es.map f.expr) = boundOfAll es := by
  induction es with
  | nil => rfl
  | cons e r ih =>
    obtain ⟨he, hr⟩ := List.forall_mem_cons.mp h
    rw [List.map_cons, boundOfAll, boundOfAll, he.bound, ih hr]

theorem boundOfMembers_map {ms : List Member} (h : ∀ p ∈ ms.map .member, SameNames f p) :
    boundOfMembers (ms.map f.member) = boundOfMembers ms := by
  induction ms with
  | nil => rfl
  | cons m r ih =>
    obtain ⟨hm, hr⟩ := List.forall_mem_cons.mp h
    rw [List.map_cons, boundOfMembers, boundOfMembers, hm.member_bound, ih hr]

theorem declaredBy_map {ss : List Stmt} (h : ∀ p ∈ ss.map .stmt, SameNames f p) :
    declaredBy (ss.map f.stmt) = declaredBy ss := by
  induction ss with
  | nil => rfl
  | cons s r ih =>
    obtain ⟨hs, hr⟩ := List.forall_mem_cons.mp h
    rw [List.map_cons, declaredBy, declaredBy, hs.declared, ih hr]

theorem hoistedBy_map {ss : List Stmt} (h : ∀ p ∈ ss.map .stmt, SameNames f p) :
    hoistedBy (ss.map f.stmt) = hoistedBy ss := by
  induction ss with
  | nil => rfl
  | cons s r ih =>
    obtain ⟨hs, hr⟩ := List.forall_mem_cons.mp h
    rw [List.map_cons, hoistedBy, hoistedBy, hs.hoisted, ih hr]

theorem localsOf_map {ss : List Stmt} (h : ∀ p ∈ ss.map .stmt, SameNames f p) :
    localsOf (ss.map f.stmt) = localsOf ss := by
  rw [localsOf, localsOf, declaredBy_map h, hoistedBy_map h]

theorem names_mapParts_expr {e : Expr} (h : ∀ p ∈ e.parts, SameNames f p) :
    (Node.expr (e.mapParts f)).names = (Node.expr e).names := by
  cases e with
  | array es => simp only [Expr.mapParts, Node.names, Expr.bound, Expr.ownName, boundOfAll_map h]
  | pattern ms =>
    simp only [Expr.mapParts, Node.names, Expr.bound, Expr.ownName, boundOfMembers_map h]
  | initialized | spread | paren | fieldParameter =>
    simp only [Expr.mapParts, Node.names, Expr.bound, Expr.ownName, (h _ (.head _)).bound]
  | decorated ds target =>
    have htarget := h (.expr target) (List.mem_append_right _ (.head _))
    simp only [Expr.mapParts, Node.names, Expr.bound, Expr.ownName, htarget.bound]
  | effectless fn =>
    simp only [Expr.mapParts, Node.names, Expr.bound, Expr.ownName, (h _ (.head _)).ownName]
  | function name | classOf name => cases name <;> rfl
  | _ => rfl

theorem names_mapParts_member {m : Member} (h : ∀ p ∈ m.parts, SameNames f p) :
    (Node.member (m.mapParts f)).names = (Node.member m).names := by
  cases m with
  | property key value =>
    have hvalue := h (.expr value) (List.mem_append_right _ (.head _))
    simp only [Member.mapParts, Node.names, Member.bound, hvalue.bound]
  | spread e => simp only [Member.mapParts, Node.names, Member.bound, (h _ (.head _)).bound]
  | _ => rfl

theorem names_mapParts_stmt {s : Stmt} (h : ∀ p ∈ s.parts, SameNames f p) :
    (Node.stmt (s.mapParts f)).names = (Node.stmt s).names := by
  cases s with
  | declaration kind ds =>
    cases kind <;> simp only [Stmt.mapParts, Node.names, Stmt.declared, Stmt.hoisted,
      Stmt.imported, Stmt.inside, boundOfAll_map h]
  | functionDecl | classDecl =>
    simp only [Stmt.mapParts, Node.names, Stmt.declared, Stmt.hoisted, Stmt.imported, Stmt.inside,
      (h _ (.head _)).ownName]
  | block body =>
    simp only [Stmt.mapParts, Node.names, Stmt.declared, Stmt.hoisted, Stmt.imported, Stmt.inside,
      hoistedBy_map h, declaredBy_map h]
  | ifThen test yes no =>
    have hyes := h (.stmt yes) (.tail _ (.head _))
    cases no with
    | none =>
      simp only [Stmt.mapParts, Option.map_none, Node.names, Stmt.declared, Stmt.hoisted,
        Stmt.imported, Stmt.inside, hyes.declared, hyes.hoisted]
    | some no =>
      have hno := h (.stmt no) (.tail _ (.tail _ (.head _)))
      simp only [Stmt.mapParts, Option.map_some, Node.names, Stmt.declared, Stmt.hoisted,
        Stmt.imported, Stmt.inside, hyes.declared, hyes.hoisted, hno.declared, hno.hoisted]
  | forLoop init test update body =>
    have hbody := h (.stmt body) (List.mem_append_right _ (.head _))
    cases init with
    | none =>
      simp only [Stmt.mapParts, Option.map_none, Node.names, Stmt.declared, Stmt.hoisted,
        Stmt.imported, Stmt.inside, hbody.hoisted]
    | some init =>
      have hinit := h (.stmt init) (.head _)
      simp only [Stmt.mapParts, Option.map_some, Node.names, Stmt.declared, Stmt.hoisted,
        Stmt.imported, Stmt.inside, hinit.hoisted, hbody.hoisted]
  | forIn left right body | forOf isAwait left right body =>
    have hbody := h (.stmt body) (.tail _ (.tail _ (.head _)))
    simp only [Stmt.mapParts, Node.names, Stmt.declared, Stmt.hoisted, Stmt.imported, Stmt.inside,
      (h _ (.head _)).hoisted, hbody.hoisted]
  | whileLoop test body =>
    have hbody := h (.stmt body) (.tail _ (.head _))
    simp only [Stmt.mapParts, Node.names, Stmt.declared, Stmt.hoisted, Stmt.imported, Stmt.inside,
      hbody.declared, hbody.hoisted]
  | switchOn value cases =>
    simp only [Stmt.mapParts, Node.names, Stmt.declared, Stmt.hoisted, Stmt.imported, Stmt.inside,
      hoistedBy_map fun p hp => h p (.tail _ hp)]
  | switchCase test body =>
    have hbody := fun p hp => h p (List.mem_append_right _ hp)
    simp only [Stmt.mapParts, Node.names, Stmt.declared, Stmt.hoisted, Stmt.imported, Stmt.inside,
      declaredBy_map hbody, hoistedBy_map hbody]
  | tryCatch body handler finalizer =>
    obtain ⟨hfront, hfinalizer⟩ := List.forall_mem_append.mp h
    obtain ⟨hbody, hhandler⟩ := List.forall_mem_append.mp hfront
    cases handler with
    | none =>
      cases finalizer with
      | none =>
        simp only [Stmt.mapParts, Option.map_none, Node.names, Stmt.declared, Stmt.hoisted,
          Stmt.imported, Stmt.inside, hoistedBy_map hbody]
      | some finalizer =>
        simp only [Stmt.mapParts, Option.map_none, Option.map_some, Node.names, Stmt.declared,
          Stmt.hoisted, Stmt.imported, Stmt.inside, hoistedBy_map hbody,
          (hfinalizer _ (.head _)).hoisted]
    | some handler =>
      have hhandler := hhandler _ (.head _)
      cases finalizer with
      | none =>
        simp only [Stmt.mapParts, Option.map_none, Option.map_some, Node.names, Stmt.declared,
          Stmt.hoisted, Stmt.imported, Stmt.inside, hoistedBy_map hbody, hhandler.hoisted]
      | some finalizer =>
        simp only [Stmt.mapParts, Option.map_some, Node.names, Stmt.declared, Stmt.hoisted,
          Stmt.imported, Stmt.inside, hoistedBy_map hbody, hhandler.hoisted,
          (hfinalizer _ (.head _)).hoisted]
  | catchClause param body =>
    simp only [Stmt.mapParts, Node.names, Stmt.declared, Stmt.hoisted, Stmt.imported, Stmt.inside,
      hoistedBy_map fun p hp => h p (List.mem_append_right _ hp)]
  | withStmt object body =>
    simp only [Stmt.mapParts, Node.names, Stmt.declared, Stmt.hoisted, Stmt.imported, Stmt.inside,
      (h _ (.tail _ (.head _))).hoisted]
  | doWhile | labeled | exportDecl | exportDefault | commented =>
    have hbody := h _ (.head _)
    simp only [Stmt.mapParts, Node.names, Stmt.declared, Stmt.hoisted, Stmt.imported, Stmt.inside,
      hbody.declared, hbody.hoisted, hbody.imported]
  | _ => rfl

/-- The names of a node are made of its own and of those of its parts. -/
theorem Node.names_mapParts {n : Node} (h : ∀ p ∈ n.parts, SameNames f p) :
    (n.mapParts f).names = n.names := by
  cases n with
  | expr e => exact names_mapParts_expr h
  | member m => exact names_mapParts_member h
  | markup k => rfl
  | stmt s => exact names_mapParts_stmt h

end

/-! ## Scopes -/

/-- Some names around some nodes. -/
def around (names : List String) (ps : List Node) : List (List String × Node) :=
  ps.map (Prod.mk names)

def Expr.scopes : Expr → List (List String × Node)
  | .function n _ _ params body =>
    around (n.toList ++ boundOfAll params) (params.map .expr) ++
      around (n.toList ++ boundOfAll params ++ localsOf body) (body.map .stmt)
  | .arrow _ params body =>
    around (boundOfAll params) (params.map .expr) ++
      around (boundOfAll params ++ localsOf body) (body.map .stmt)
  | .arrowTo _ params body => around (boundOfAll params) (params.map .expr ++ [.expr body])
  | .classOf n base decorators ms =>
    around [] (decorators.map .expr) ++
      around n.toList (base.toList.map .expr ++ ms.map .member)
  | e => around [] e.parts

def Member.scopes : Member → List (List String × Node)
  | .staticBlock body => around (localsOf body) (body.map .stmt)
  | m => around [] m.parts

/-- The names that the parameter of a handler binds. -/
def caught : Option Expr → List String
  | some e => e.bound
  | none => []

def Stmt.scopes : Stmt → List (List String × Node)
  | .block body => around (declaredBy body) (body.map .stmt)
  | .forLoop init test update body =>
    around (loopNames init body)
      (init.toList.map .stmt ++ test.toList.map .expr ++ update.toList.map .expr ++ [.stmt body])
  | .forIn left right body =>
    around (loopNames (some left) body) [.stmt left, .expr right, .stmt body]
  | .forOf _ left right body =>
    around (loopNames (some left) body) [.stmt left, .expr right, .stmt body]
  | .switchOn value cases => around [] [.expr value] ++ around (declaredBy cases) (cases.map .stmt)
  | .tryCatch body handler finalizer =>
    around (declaredBy body) (body.map .stmt) ++
      around [] (handler.toList.map .stmt ++ finalizer.toList.map .stmt)
  | .catchClause param body =>
    around (caught param) (param.toList.map .expr) ++
      around (caught param ++ declaredBy body) (body.map .stmt)
  | .enumeration name ms => around [name] (ms.map .member)
  | .namespaceDecl _ _ body => around (localsOf body) (body.map .stmt)
  | s => around [] s.parts

/-- The nodes just below a node, each with the names that the node binds around it. -/
def Node.scopes : Node → List (List String × Node)
  | .expr e => e.scopes
  | .member m => m.scopes
  | .markup k => around [] k.parts
  | .stmt s => s.scopes

theorem map_snd_around (names : List String) (ps : List Node) :
    (around names ps).map Prod.snd = ps := by
  simp only [around, List.map_map, Function.comp_def, List.map_id']

theorem Node.map_snd_scopes (n : Node) : n.scopes.map Prod.snd = n.parts := by
  cases n with
  | expr e =>
    cases e with
    | function | arrow | arrowTo | classOf =>
      simp only [Node.scopes, Expr.scopes, Node.parts, Expr.parts, List.map_append, map_snd_around,
        List.append_assoc]
    | _ => exact map_snd_around [] _
  | member m =>
    cases m with
    | staticBlock body => exact map_snd_around _ _
    | _ => exact map_snd_around [] _
  | markup k => exact map_snd_around [] _
  | stmt s =>
    cases s with
    | switchOn | tryCatch | catchClause =>
      simp only [Node.scopes, Stmt.scopes, Node.parts, Stmt.parts, List.map_append, map_snd_around,
        List.append_assoc, List.singleton_append]
    | block | forLoop | forIn | forOf | enumeration | namespaceDecl => exact map_snd_around _ _
    | _ => exact map_snd_around [] _

theorem Node.mem_parts_of_mem_scopes {n : Node} {s : List String × Node} (h : s ∈ n.scopes) :
    s.2 ∈ n.parts := by
  rw [← n.map_snd_scopes]
  exact List.mem_map_of_mem h

section
variable {f : Maps}

theorem around_map (names : List String) (ps : List Node) :
    around names (ps.map f.node) = (around names ps).map (Prod.map id f.node) := by
  simp only [around, List.map_map, Function.comp_def, Prod.map_apply, id]

theorem map_node_exprs (es : List Expr) :
    (es.map f.expr).map Node.expr = (es.map Node.expr).map f.node := by
  simp only [List.map_map, Function.comp_def, Maps.node_expr]

theorem map_node_members (ms : List Member) :
    (ms.map f.member).map Node.member = (ms.map Node.member).map f.node := by
  simp only [List.map_map, Function.comp_def, Maps.node_member]

theorem map_node_stmts (ss : List Stmt) :
    (ss.map f.stmt).map Node.stmt = (ss.map Node.stmt).map f.node := by
  simp only [List.map_map, Function.comp_def, Maps.node_stmt]

theorem loopNames_map {init : Option Stmt} {body : Stmt}
    (hinit : ∀ p ∈ init.toList.map .stmt, SameNames f p) (hbody : SameNames f (.stmt body)) :
    loopNames (init.map f.stmt) (f.stmt body) = loopNames init body := by
  cases init with
  | none => rw [Option.map_none, loopNames, loopNames, hbody.declared]
  | some s =>
    have hs := hinit (.stmt s) (.head _)
    simp only [loopNames, Option.map_some, hs.declared, hbody.declared]

theorem caught_map {param : Option Expr} (h : ∀ p ∈ param.toList.map .expr, SameNames f p) :
    caught (param.map f.expr) = caught param := by
  cases param with
  | none => rfl
  | some e => exact (h _ (.head _)).bound

/-- Changed parts stand in the same scopes if their names stay. -/
theorem Node.scopes_mapParts {n : Node} (h : ∀ p ∈ n.parts, SameNames f p) :
    (n.mapParts f).scopes = n.scopes.map (Prod.map id f.node) := by
  have hplain : around [] (n.mapParts f).parts = (around [] n.parts).map (Prod.map id f.node) := by
    rw [Node.parts_mapParts, around_map]
  cases n with
  | expr e =>
    cases e with
    | function | arrow =>
      obtain ⟨hparams, hbody⟩ := List.forall_mem_append.mp h
      simp only [Node.mapParts, Expr.mapParts, Node.scopes, Expr.scopes, boundOfAll_map hparams,
        localsOf_map hbody, map_node_exprs, map_node_stmts, around_map, List.map_append]
    | arrowTo isAsync params body =>
      obtain ⟨hparams, -⟩ := List.forall_mem_append.mp h
      rw [Node.mapParts, Expr.mapParts, Node.scopes, Expr.scopes, boundOfAll_map hparams,
        map_node_exprs, Node.scopes, Expr.scopes, ← around_map, List.map_append]
      rfl
    | classOf n base decorators ms =>
      simp only [Node.mapParts, Expr.mapParts, Node.scopes, Expr.scopes, Option.toList_map,
        map_node_exprs, map_node_members, ← List.map_append, around_map]
    | _ => exact hplain
  | member m =>
    cases m with
    | staticBlock body =>
      simp only [Node.mapParts, Member.mapParts, Node.scopes, Member.scopes, localsOf_map h,
        map_node_stmts, around_map]
    | _ => exact hplain
  | markup k => exact hplain
  | stmt s =>
    cases s with
    | block body =>
      simp only [Node.mapParts, Stmt.mapParts, Node.scopes, Stmt.scopes, declaredBy_map h,
        map_node_stmts, around_map]
    | forLoop init test update body =>
      have hinit := fun p hp => h p (List.mem_append_left _ (List.mem_append_left _
        (List.mem_append_left _ hp)))
      have hbody := h (.stmt body) (List.mem_append_right _ (.head _))
      rw [Node.mapParts, Stmt.mapParts, Node.scopes, Stmt.scopes, loopNames_map hinit hbody,
        Node.scopes, Stmt.scopes, ← around_map]
      simp only [Option.toList_map, map_node_stmts, map_node_exprs, List.map_append, List.map_cons,
        List.map_nil, Maps.node_stmt]
    | forIn left right body | forOf isAwait left right body =>
      have hleft : ∀ p ∈ (some left).toList.map Node.stmt, SameNames f p :=
        List.forall_mem_singleton.mpr (h _ (.head _))
      have hbody := h (.stmt body) (.tail _ (.tail _ (.head _)))
      exact (congrArg (around · _) (loopNames_map hleft hbody)).trans
        (around_map _ [.stmt left, .expr right, .stmt body])
    | switchOn value cases =>
      simp only [Node.mapParts, Stmt.mapParts, Node.scopes, Stmt.scopes,
        declaredBy_map fun p hp => h p (.tail _ hp), map_node_stmts, around_map, List.map_append]
      rfl
    | tryCatch body handler finalizer =>
      have hbody := fun p hp => h p (List.mem_append_left _ (List.mem_append_left _ hp))
      simp only [Node.mapParts, Stmt.mapParts, Node.scopes, Stmt.scopes, declaredBy_map hbody,
        Option.toList_map, map_node_stmts, ← List.map_append, around_map]
    | catchClause param body =>
      obtain ⟨hparam, hbody⟩ := List.forall_mem_append.mp h
      simp only [Node.mapParts, Stmt.mapParts, Node.scopes, Stmt.scopes, declaredBy_map hbody,
        caught_map hparam, Option.toList_map, map_node_exprs, map_node_stmts, around_map,
        List.map_append]
    | enumeration name ms =>
      simp only [Node.mapParts, Stmt.mapParts, Node.scopes, Stmt.scopes, map_node_members,
        around_map]
    | namespaceDecl name looseExports body =>
      simp only [Node.mapParts, Stmt.mapParts, Node.scopes, Stmt.scopes, localsOf_map h,
        map_node_stmts, around_map]
    | _ => exact hplain

end

/-! ## The names around loops -/

open LoopGuard (bodyOf loopBodies)

/-- The names that the head of a loop declares for it and for its body. -/
def headNames : Node → List String
  | .stmt (.forLoop init _ _ body) => loopNames init body
  | .stmt (.forIn left _ body) => loopNames (some left) body
  | .stmt (.forOf _ left _ body) => loopNames (some left) body
  | _ => []

/-- The body of a loop, with the names that the loop and its body bind around what stands in it. -/
def ownSites (n : Node) : List (List String × Stmt) :=
  (bodyOf n).map fun body => (headNames n ++ body.inside, body)

/-- More names around the bodies of loops. -/
def within (names : List String) (sites : List (List String × Stmt)) : List (List String × Stmt) :=
  sites.map fun site => (names ++ site.1, site.2)

/-- The bodies of the loops in a node, at any depth, each with the names that are bound within the
node around what stands in it. -/
def Node.loopSites (n : Node) : List (List String × Stmt) :=
  ownSites n ++ n.scopes.attach.flatMap fun s => within s.1.1 (Node.loopSites s.1.2)
termination_by sizeOf n
decreasing_by exact Node.sizeOf_lt (Node.mem_parts_of_mem_scopes s.2)

/-- The loops in the parts of a node. -/
def Node.innerSites (n : Node) : List (List String × Stmt) :=
  n.scopes.flatMap fun s => within s.1 s.2.loopSites

theorem Node.loopSites_eq (n : Node) : n.loopSites = ownSites n ++ n.innerSites := by
  have hattach : (n.scopes.attach.map Subtype.val).flatMap (fun s => within s.1 s.2.loopSites) =
      n.innerSites := by
    rw [List.attach_map_subtype_val, Node.innerSites]
  rw [Node.loopSites, ← hattach, List.flatMap_map]

/-- The loops of a module, each with the names that are bound within the module around what stands
in its body. -/
def loopSites (items : Module) : List (List String × Stmt) :=
  items.flatMap fun s => (Node.stmt s).loopSites

/-- The names that belong to a module itself. -/
def moduleNames (items : Module) : List String := localsOf items ++ items.flatMap Stmt.imported

theorem map_snd_within (names : List String) (sites : List (List String × Stmt)) :
    (within names sites).map Prod.snd = sites.map Prod.snd := by
  simp only [within, List.map_map, Function.comp_def]

theorem Node.map_snd_loopSites (n : Node) : n.loopSites.map Prod.snd = n.collect bodyOf := by
  induction n using Node.induction with
  | h n ih =>
    have hown : (ownSites n).map Prod.snd = bodyOf n := by
      simp only [ownSites, List.map_map, Function.comp_def, List.map_id']
    have hparts : ∀ s ∈ n.scopes,
        (within s.1 s.2.loopSites).map Prod.snd = s.2.collect bodyOf := fun s hs => by
      rw [map_snd_within, ih _ (Node.mem_parts_of_mem_scopes hs)]
    rw [Node.loopSites_eq, List.map_append, hown, Node.collect_eq, Node.innerSites,
      List.map_flatMap, List.flatMap_def, List.map_congr_left hparts, ← List.flatMap_def,
      ← Node.map_snd_scopes, List.flatMap_map]

theorem map_snd_loopSites (items : Module) : (loopSites items).map Prod.snd = loopBodies items := by
  rw [loopSites, loopBodies, Module.collect, List.map_flatMap]
  exact congrArg (List.flatMap · items) (funext fun s => Node.map_snd_loopSites (.stmt s))

/-! ## Rebuilding -/

/-- The bodies of loops changed, and the names around them left alone. -/
def onSites (k : Stmt → Stmt) (sites : List (List String × Stmt)) : List (List String × Stmt) :=
  sites.map (Prod.map id k)

theorem onSites_append (k : Stmt → Stmt) (xs ys : List (List String × Stmt)) :
    onSites k (xs ++ ys) = onSites k xs ++ onSites k ys := List.map_append

theorem onSites_onSites (k g : Stmt → Stmt) (sites : List (List String × Stmt)) :
    onSites k (onSites g sites) = onSites (fun body => k (g body)) sites := by
  rw [onSites, onSites, List.map_map]
  rfl

theorem within_onSites (k : Stmt → Stmt) (names : List String)
    (sites : List (List String × Stmt)) :
    within names (onSites k sites) = onSites k (within names sites) := by
  simp only [within, onSites, List.map_map, Function.comp_def, Prod.map_fst, Prod.map_snd,
    Prod.map_apply, id]

/-- A rebuild that leaves the names of each node alone, and those around the loops in it, and does
`k` to the bodies of loops. -/
structure Keeps (b : Rebuild Id) (k : Stmt → Stmt) : Prop where
  plain : Plain b
  names : ∀ n, (b.own n).names = n.names
  sites : ∀ n, (b.own n).loopSites = onSites k (ownSites n) ++ n.innerSites

section
variable {b : Rebuild Id} {k : Stmt → Stmt}

theorem Keeps.sameNames (h : Keeps b k) (n : Node) : SameNames b.maps n := by
  induction n using Node.induction with
  | h n ih => rw [SameNames, h.plain.node_eq, h.names, Node.names_mapParts ih]

theorem Keeps.moduleNames_eq (h : Keeps b k) (items : Module) :
    moduleNames (b.onModule items) = moduleNames items := by
  rw [h.plain.onModule_eq, moduleNames, moduleNames, localsOf_map fun p _ => h.sameNames p,
    List.flatMap_map]
  exact congrArg (_ ++ List.flatMap · items) (funext fun s => (h.sameNames (.stmt s)).imported)

theorem ownSites_mapParts {f : Maps} {n : Node} (h : ∀ p ∈ n.parts, SameNames f p) :
    ownSites (n.mapParts f) = onSites f.stmt (ownSites n) := by
  cases n with
  | stmt s =>
    cases s with
    | forLoop init test update body =>
      have hinit := fun p hp => h p (List.mem_append_left _ (List.mem_append_left _
        (List.mem_append_left _ hp)))
      have hbody := h (.stmt body) (List.mem_append_right _ (.head _))
      simp only [Node.mapParts, Stmt.mapParts, ownSites, bodyOf, headNames,
        loopNames_map hinit hbody, hbody.inside, onSites, List.map_cons, List.map_nil,
        Prod.map_apply, id]
    | forIn left right body | forOf isAwait left right body =>
      have hleft : ∀ p ∈ (some left).toList.map Node.stmt, SameNames f p :=
        List.forall_mem_singleton.mpr (h _ (.head _))
      have hbody := h (.stmt body) (.tail _ (.tail _ (.head _)))
      have hnames : loopNames (some (f.stmt left)) (f.stmt body) = loopNames (some left) body :=
        loopNames_map hleft hbody
      simp only [Node.mapParts, Stmt.mapParts, ownSites, bodyOf, headNames, hnames, hbody.inside,
        onSites, List.map_cons, List.map_nil, Prod.map_apply, id]
    | whileLoop test body =>
      have hbody := h (.stmt body) (.tail _ (.head _))
      simp only [Node.mapParts, Stmt.mapParts, ownSites, bodyOf, headNames, hbody.inside, onSites,
        List.map_cons, List.map_nil, Prod.map_apply, id]
    | doWhile body test =>
      have hbody := h (.stmt body) (.head _)
      simp only [Node.mapParts, Stmt.mapParts, ownSites, bodyOf, headNames, hbody.inside, onSites,
        List.map_cons, List.map_nil, Prod.map_apply, id]
    | _ => rfl
  | _ => rfl

theorem Keeps.node_loopSites (h : Keeps b k) (n : Node) :
    (b.maps.node n).loopSites = onSites (fun body => k (b.maps.stmt body)) n.loopSites := by
  induction n using Node.induction with
  | h n ih =>
    have hinner : (n.mapParts b.maps).innerSites =
        onSites (fun body => k (b.maps.stmt body)) n.innerSites := by
      have hscopes : ∀ s ∈ n.scopes, within s.1 (b.maps.node s.2).loopSites =
          onSites (fun body => k (b.maps.stmt body)) (within s.1 s.2.loopSites) := fun s hs => by
        rw [ih _ (Node.mem_parts_of_mem_scopes hs), within_onSites]
      rw [Node.innerSites, Node.scopes_mapParts fun p _ => h.sameNames p, List.flatMap_map,
        Node.innerSites, onSites, List.map_flatMap, List.flatMap_def, List.flatMap_def]
      exact congrArg List.flatten (List.map_congr_left hscopes)
    rw [h.plain.node_eq, h.sites, ownSites_mapParts fun p _ => h.sameNames p, hinner,
      onSites_onSites, Node.loopSites_eq, onSites_append]

theorem Keeps.loopSites_eq (h : Keeps b k) (items : Module) :
    loopSites (b.onModule items) =
      onSites (fun body => k (b.maps.stmt body)) (loopSites items) := by
  rw [h.plain.onModule_eq, loopSites, loopSites, List.flatMap_map, onSites, List.map_flatMap]
  exact congrArg (List.flatMap · items) (funext fun s => h.node_loopSites (.stmt s))

end

/-! ## Checks in blocks -/

namespace LoopGuard

variable {h : Stmt → Stmt}

theorem ownSites_onNode (hnames : ∀ b, (Node.stmt (h b)).names = (Node.stmt b).names) (n : Node) :
    ownSites (onNode h n) = onSites h (ownSites n) := by
  have hdeclared : ∀ b, (h b).declared = b.declared := fun b => congrArg Names.declared (hnames b)
  have hinside : ∀ b, (h b).inside = b.inside := fun b => congrArg Names.inside (hnames b)
  cases n with
  | stmt s =>
    cases s with
    | forLoop | forIn | forOf | whileLoop | doWhile =>
      simp only [onNode, onBody, id_pure, id_bind, ownSites, bodyOf, headNames, loopNames,
        hdeclared, hinside, onSites, List.map_cons, List.map_nil, Prod.map_apply, id]
    | _ => rfl
  | _ => rfl

theorem innerSites_onNode (hnames : ∀ b, (Node.stmt (h b)).names = (Node.stmt b).names)
    (hsites : ∀ b, (Node.stmt (h b)).loopSites = (Node.stmt b).loopSites) (n : Node) :
    (onNode h n).innerSites = n.innerSites := by
  have hdeclared : ∀ b, (h b).declared = b.declared := fun b => congrArg Names.declared (hnames b)
  cases n with
  | stmt s =>
    cases s with
    | forLoop | forIn | forOf | whileLoop | doWhile =>
      simp only [onNode, onBody, id_pure, id_bind, Node.innerSites, Node.scopes, Stmt.scopes,
        Stmt.parts, loopNames, hdeclared, around, List.map_append, List.map_cons, List.map_nil,
        List.flatMap_append, List.flatMap_cons, List.flatMap_nil, hsites]
    | _ => rfl
  | _ => rfl

theorem names_onNode (hnames : ∀ b, (Node.stmt (h b)).names = (Node.stmt b).names) (n : Node) :
    (onNode h n).names = n.names := by
  have hdeclared : ∀ b, (h b).declared = b.declared := fun b => congrArg Names.declared (hnames b)
  have hhoisted : ∀ b, (h b).hoisted = b.hoisted := fun b => congrArg Names.hoisted (hnames b)
  cases n with
  | stmt s =>
    cases s with
    | forLoop init test update body =>
      cases init <;> simp only [onNode, onBody, id_pure, id_bind, Node.names, Stmt.declared,
        Stmt.hoisted, Stmt.imported, Stmt.inside, hhoisted]
    | forIn | forOf | whileLoop | doWhile =>
      simp only [onNode, onBody, id_pure, id_bind, Node.names, Stmt.declared,
        Stmt.hoisted, Stmt.imported, Stmt.inside, hdeclared, hhoisted]
    | _ => rfl
  | _ => rfl

/-- Bodies may change if their names stay, and what is around the loops in them. -/
theorem keeps_bodies (hnames : ∀ b, (Node.stmt (h b)).names = (Node.stmt b).names)
    (hsites : ∀ b, (Node.stmt (h b)).loopSites = (Node.stmt b).loopSites) :
    Keeps (bodies (m := Id) h) h where
  plain := plain_bodies (m := Id) h
  names n := by rw [own_bodies, names_onNode hnames]
  sites n := by
    rw [own_bodies, Node.loopSites_eq, ownSites_onNode hnames, innerSites_onNode hnames hsites]

/-- A block behind a check. -/
def withCheck (limit : Nat) : Stmt → Stmt
  | .block ss => .block (check limit :: ss)
  | s => s

theorem withCheck_asBlock (limit : Nat) (b : Stmt) :
    withCheck limit (asBlock b) = guardBody limit b := by
  rw [guardBody_eq, asBlock, withCheck]

theorem loopSites_check (limit : Nat) : (Node.stmt (check limit)).loopSites = [] := by
  have h := Node.map_snd_loopSites (.stmt (check limit))
  rw [collect_check] at h
  exact List.map_eq_nil_iff.mp h

theorem names_withCheck (limit : Nat) (b : Stmt) :
    (Node.stmt (withCheck limit b)).names = (Node.stmt b).names := by
  cases b <;> rfl

theorem loopSites_withCheck (limit : Nat) (b : Stmt) :
    (Node.stmt (withCheck limit b)).loopSites = (Node.stmt b).loopSites := by
  cases b with
  | block ss =>
    have hdeclared : declaredBy (check limit :: ss) = declaredBy ss := rfl
    rw [withCheck, Node.loopSites_eq, Node.loopSites_eq (.stmt (.block ss)), Node.innerSites,
      Node.innerSites, Node.scopes, Stmt.scopes, hdeclared, around, List.map_cons, List.map_cons,
      List.flatMap_cons, loopSites_check]
    rfl
  | _ => rfl

theorem keeps_withCheck (limit : Nat) :
    Keeps (bodies (m := Id) (withCheck limit)) (withCheck limit) :=
  keeps_bodies (names_withCheck limit) (loopSites_withCheck limit)

theorem change_asBlock (b : Stmt) : (change h).stmt (asBlock b) = asBlock ((change h).stmt b) := by
  rw [asBlock, asBlock, change_stmt, block?_change]
  cases block? b <;> rfl

/-- Guarding a module puts a check in front of each of the blocks around the bodies of its loops. -/
theorem guardModule_eq_braced (limit : Nat) (items : Module) :
    (guardModule limit items).1 = (bodies (m := Id) (withCheck limit)).onModule (braced items) := by
  have hnode : ∀ n, (change (withCheck limit)).node ((change asBlock).node n) =
      (change (guardBody limit)).node n := by
    refine (plain_bodies _).node_node (plain_bodies _) (plain_bodies _) (fun n => ?_) (fun n => ?_)
    · rw [own_bodies, own_bodies]
      exact mapParts_onNode change_asBlock n
    · rw [own_bodies, own_bodies, own_bodies, onNode_onNode]
      simp only [withCheck_asBlock]
  rw [guardModule_eq, braced, onModule_bodies, onModule_bodies, onModule_bodies, List.map_map]
  exact List.map_congr_left fun s _ => (Node.stmt.inj (hnode (.stmt s))).symm

end LoopGuard

/-! ## Specifiers -/

namespace Specifiers

variable {g : String → String}

theorem loopSites_relabelString (e : Expr) :
    (Node.expr (relabelString g e)).loopSites = (Node.expr e).loopSites := by
  induction e using ofString.induct with
  | case1 s | case2 s =>
    rw [Node.loopSites_eq, Node.loopSites_eq]
    rfl
  | case3 cs e ih =>
    rw [relabelString, Node.loopSites_eq, Node.loopSites_eq (.expr (.commented cs e))]
    exact congrArg (fun sites => within [] sites ++ []) ih
  | case4 e hs hb hc =>
    rw [relabelString]
    all_goals first | exact hs | exact hb | exact hc

theorem onSites_id (sites : List (List String × Stmt)) : onSites id sites = sites :=
  List.map_id' sites

theorem keeps_relabel (g : String → String) : Keeps (relabel g) id where
  plain := plain_relabel g
  names n := by
    cases n with
    | expr e =>
      cases e with
      | importCall phase args => cases args <;> rfl
      | _ => rfl
    | stmt s =>
      cases s with
      | exportNames names source attributes => cases source <;> rfl
      | importDecl phase bindings => cases bindings <;> rfl
      | _ => rfl
    | _ => rfl
  sites n := by
    rw [onSites_id]
    cases n with
    | expr e =>
      cases e with
      | importCall phase args =>
        cases args with
        | nil => exact Node.loopSites_eq _
        | cons source options =>
          rw [Node.loopSites_eq]
          exact congrArg (within [] · ++ _) (loopSites_relabelString source)
      | _ => exact Node.loopSites_eq _
    | stmt s =>
      cases s with
      | exportNames names source attributes => cases source <;> exact Node.loopSites_eq _
      | _ => exact Node.loopSites_eq _
    | _ => exact Node.loopSites_eq _

end Specifiers

end LivePreview.Script
