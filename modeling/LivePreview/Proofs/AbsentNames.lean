import LivePreview.Proofs.Scopes
/-!
# Names that a tree does not hold

A tree lacks a name if no variable in it is declared or read under that name. No scope in it binds
the name then (`not_mem_moduleNames`, `not_mem_loopSites`).

A rebuild keeps a name out of whole trees if it keeps it out of single nodes
(`Rebuild.KeepsOut.clear`). It may run in any monad: what its values give is told by an `Outcome`,
of which no more is needed than that it goes through sequences.
-/
namespace LivePreview.Script

/-- The variables that a node itself declares or reads. The lists of exports do neither. -/
def Node.variables : Node → List String
  | .expr (.name n) => [n]
  | .expr (.function n _ _ _ _) => n.toList
  | .expr (.classOf n _ _ _) => n.toList
  | .member (.shorthand n) => [n]
  | .member (.shorthandDefault n _) => [n]
  | .stmt (.importDecl _ bindings _ _) => (bindings.getD []).map ImportBinding.localName
  | .stmt (.importAlias _ n _) => [n]
  | .stmt (.enumeration n _) => [n]
  | .stmt (.namespaceDecl n _ _) => [n]
  | _ => []

/-- No variable in the node, at any depth, has the name. -/
def Node.Lacks (c : String) (n : Node) : Prop := c ∉ n.collect Node.variables

/-- No variable in any of the nodes has the name. -/
abbrev Lack (c : String) (ns : List Node) : Prop := ∀ n ∈ ns, n.Lacks c

abbrev Expr.Lacks (c : String) (e : Expr) : Prop := (Node.expr e).Lacks c
abbrev Member.Lacks (c : String) (x : Member) : Prop := (Node.member x).Lacks c
abbrev Markup.Lacks (c : String) (k : Markup) : Prop := (Node.markup k).Lacks c
abbrev Stmt.Lacks (c : String) (s : Stmt) : Prop := (Node.stmt s).Lacks c

abbrev Expr.Lack (c : String) (es : List Expr) : Prop := Script.Lack c (es.map .expr)
abbrev Member.Lack (c : String) (xs : List Member) : Prop := Script.Lack c (xs.map .member)
abbrev Markup.Lack (c : String) (ks : List Markup) : Prop := Script.Lack c (ks.map .markup)
abbrev Stmt.Lack (c : String) (ss : List Stmt) : Prop := Script.Lack c (ss.map .stmt)

section
variable {c : String} {n : Node}

theorem Node.lacks_iff : n.Lacks c ↔ c ∉ n.variables ∧ Lack c n.parts := by
  rw [Node.Lacks, Node.collect_eq, List.mem_append, not_or, List.mem_flatMap]
  simp only [not_exists, not_and, Lack, Node.Lacks]

theorem Node.Lacks.own (h : n.Lacks c) : c ∉ n.variables := (Node.lacks_iff.mp h).1

theorem Node.Lacks.parts (h : n.Lacks c) : Lack c n.parts := (Node.lacks_iff.mp h).2

theorem Node.Lacks.intro (hown : c ∉ n.variables) (hparts : Lack c n.parts) : n.Lacks c :=
  Node.lacks_iff.mpr ⟨hown, hparts⟩

/-- A node without variables of its own lacks what its parts lack. -/
theorem Node.Lacks.of_parts (hparts : Lack c n.parts) (hown : n.variables = []) : n.Lacks c :=
  .intro (hown ▸ List.not_mem_nil) hparts

theorem Lack.append {xs ys : List Node} (hx : Lack c xs) (hy : Lack c ys) : Lack c (xs ++ ys) :=
  List.forall_mem_append.mpr ⟨hx, hy⟩

theorem Lack.cons {xs : List Node} (hn : n.Lacks c) (hx : Lack c xs) : Lack c (n :: xs) :=
  List.forall_mem_cons.mpr ⟨hn, hx⟩

theorem Lack.nil : Lack c [] := List.forall_mem_nil _

theorem Lack.map_append {α : Type} {f : α → Node} {xs ys : List α} (hx : Lack c (xs.map f))
    (hy : Lack c (ys.map f)) : Lack c ((xs ++ ys).map f) := by
  rw [List.map_append]
  exact hx.append hy

theorem Lack.of_mem {α : Type} {f : α → Node} {xs : List α} {x : α} (h : Lack c (xs.map f))
    (hx : x ∈ xs) : (f x).Lacks c := h _ (List.mem_map_of_mem hx)

theorem Lack.subset {α : Type} {f : α → Node} {xs ys : List α} (h : Lack c (ys.map f))
    (hsub : xs ⊆ ys) : Lack c (xs.map f) :=
  List.forall_mem_map.mpr fun _ hx => h.of_mem (hsub hx)

theorem Lack.map_map {α β : Type} {f : β → Node} {g : α → β} {xs : List α}
    (h : ∀ x ∈ xs, (f (g x)).Lacks c) : Lack c ((xs.map g).map f) :=
  List.forall_mem_map.mpr (List.forall_mem_map.mpr h)

end

/-! ## What a node without the name tells -/

/-- The name is none of those that a node tells. -/
structure Names.Lack (c : String) (ns : Names) : Prop where
  bound : c ∉ ns.bound := by exact List.not_mem_nil
  own : c ∉ ns.own := by exact List.not_mem_nil
  declared : c ∉ ns.declared := by exact List.not_mem_nil
  hoisted : c ∉ ns.hoisted := by exact List.not_mem_nil
  imported : c ∉ ns.imported := by exact List.not_mem_nil
  inside : c ∉ ns.inside := by exact List.not_mem_nil

open LoopGuard (bodyOf)

section
variable {c : String}

theorem not_mem_append {xs ys : List String} (hx : c ∉ xs) (hy : c ∉ ys) : c ∉ xs ++ ys :=
  fun h => (List.mem_append.mp h).elim hx hy

theorem not_mem_boundOfAll {es : List Expr} (h : ∀ p ∈ es.map Node.expr, p.names.Lack c) :
    c ∉ boundOfAll es := by
  induction es with
  | nil => exact List.not_mem_nil
  | cons e r ih =>
    obtain ⟨he, hr⟩ := List.forall_mem_cons.mp h
    exact not_mem_append he.bound (ih hr)

theorem not_mem_boundOfMembers {ms : List Member} (h : ∀ p ∈ ms.map Node.member, p.names.Lack c) :
    c ∉ boundOfMembers ms := by
  induction ms with
  | nil => exact List.not_mem_nil
  | cons m r ih =>
    obtain ⟨hm, hr⟩ := List.forall_mem_cons.mp h
    exact not_mem_append hm.bound (ih hr)

theorem not_mem_declaredBy {ss : List Stmt} (h : ∀ p ∈ ss.map Node.stmt, p.names.Lack c) :
    c ∉ declaredBy ss := by
  induction ss with
  | nil => exact List.not_mem_nil
  | cons s r ih =>
    obtain ⟨hs, hr⟩ := List.forall_mem_cons.mp h
    exact not_mem_append hs.declared (ih hr)

theorem not_mem_hoistedBy {ss : List Stmt} (h : ∀ p ∈ ss.map Node.stmt, p.names.Lack c) :
    c ∉ hoistedBy ss := by
  induction ss with
  | nil => exact List.not_mem_nil
  | cons s r ih =>
    obtain ⟨hs, hr⟩ := List.forall_mem_cons.mp h
    exact not_mem_append hs.hoisted (ih hr)

theorem not_mem_localsOf {ss : List Stmt} (h : ∀ p ∈ ss.map Node.stmt, p.names.Lack c) :
    c ∉ localsOf ss :=
  not_mem_append (not_mem_declaredBy h) (not_mem_hoistedBy h)

theorem names_lack_expr {e : Expr} (hown : c ∉ (Node.expr e).variables)
    (h : ∀ p ∈ e.parts, p.names.Lack c) : (Node.expr e).names.Lack c := by
  cases e with
  | name n => exact { bound := hown }
  | array es => exact { bound := not_mem_boundOfAll h }
  | pattern ms => exact { bound := not_mem_boundOfMembers h }
  | initialized | spread | paren | fieldParameter => exact { bound := (h _ (.head _)).bound }
  | decorated ds target =>
    exact { bound := (h (.expr target) (List.mem_append_right _ (.head _))).bound }
  | effectless fn => exact { own := (h _ (.head _)).own }
  | function n | classOf n =>
    cases n with
    | none => exact {}
    | some n => exact { own := hown }
  | _ => exact {}

theorem names_lack_member {m : Member} (hown : c ∉ (Node.member m).variables)
    (h : ∀ p ∈ m.parts, p.names.Lack c) : (Node.member m).names.Lack c := by
  cases m with
  | property key value =>
    exact { bound := (h (.expr value) (List.mem_append_right _ (.head _))).bound }
  | shorthand | shorthandDefault => exact { bound := hown }
  | spread e => exact { bound := (h _ (.head _)).bound }
  | _ => exact {}

theorem names_lack_stmt {s : Stmt} (hown : c ∉ (Node.stmt s).variables)
    (h : ∀ p ∈ s.parts, p.names.Lack c) : (Node.stmt s).names.Lack c := by
  cases s with
  | declaration kind ds =>
    have hds := not_mem_boundOfAll h
    cases kind with
    | var => exact { declared := hds, hoisted := hds }
    | _ => exact { declared := hds }
  | functionDecl | classDecl => exact { declared := (h _ (.head _)).own }
  | block body => exact { hoisted := not_mem_hoistedBy h, inside := not_mem_declaredBy h }
  | ifThen test yes no =>
    have hyes := h (.stmt yes) (.tail _ (.head _))
    cases no with
    | none => exact { declared := hyes.declared, hoisted := hyes.hoisted }
    | some no =>
      have hno := h (.stmt no) (.tail _ (.tail _ (.head _)))
      exact { declared := not_mem_append hyes.declared hno.declared
              hoisted := not_mem_append hyes.hoisted hno.hoisted }
  | forLoop init test update body =>
    have hbody := h (.stmt body) (List.mem_append_right _ (.head _))
    cases init with
    | none => exact { hoisted := hbody.hoisted }
    | some init =>
      have hinit := h (.stmt init) (.head _)
      exact { hoisted := not_mem_append hinit.hoisted hbody.hoisted }
  | forIn left right body | forOf isAwait left right body =>
    have hbody := h (.stmt body) (.tail _ (.tail _ (.head _)))
    exact { hoisted := not_mem_append (h _ (.head _)).hoisted hbody.hoisted }
  | whileLoop test body =>
    have hbody := h (.stmt body) (.tail _ (.head _))
    exact { declared := hbody.declared, hoisted := hbody.hoisted }
  | switchOn value cases => exact { hoisted := not_mem_hoistedBy fun p hp => h p (.tail _ hp) }
  | switchCase test body =>
    have hbody := fun p hp => h p (List.mem_append_right _ hp)
    exact { declared := not_mem_declaredBy hbody, hoisted := not_mem_hoistedBy hbody }
  | tryCatch body handler finalizer =>
    obtain ⟨hfront, hfinalizer⟩ := List.forall_mem_append.mp h
    obtain ⟨hbody, hhandler⟩ := List.forall_mem_append.mp hfront
    have hbody := not_mem_hoistedBy hbody
    cases handler with
    | none =>
      cases finalizer with
      | none => exact { hoisted := hbody }
      | some finalizer =>
        exact { hoisted := not_mem_append hbody (hfinalizer _ (.head _)).hoisted }
    | some handler =>
      have hhandler := (hhandler _ (.head _)).hoisted
      cases finalizer with
      | none => exact { hoisted := not_mem_append hbody hhandler }
      | some finalizer =>
        exact { hoisted := not_mem_append (not_mem_append hbody hhandler)
                  (hfinalizer _ (.head _)).hoisted }
  | catchClause param body =>
    exact { hoisted := not_mem_hoistedBy fun p hp => h p (List.mem_append_right _ hp) }
  | withStmt object body => exact { hoisted := (h _ (.tail _ (.head _))).hoisted }
  | doWhile body | labeled _ body | exportDecl body =>
    exact { declared := (h _ (.head _)).declared, hoisted := (h _ (.head _)).hoisted }
  | exportDefault s => exact { declared := (h _ (.head _)).declared }
  | commented cs s =>
    have hs := h _ (.head _)
    exact { declared := hs.declared, hoisted := hs.hoisted, imported := hs.imported }
  | importDecl phase bindings =>
    cases bindings with
    | none => exact {}
    | some bindings => exact { imported := hown }
  | importAlias | enumeration | namespaceDecl => exact { declared := hown }
  | _ => exact {}

theorem Node.Lacks.names {n : Node} (h : n.Lacks c) : n.names.Lack c := by
  induction n using Node.induction with
  | h n ih =>
    have hparts : ∀ p ∈ n.parts, p.names.Lack c := fun p hp => ih p hp (h.parts p hp)
    cases n with
    | expr e => exact names_lack_expr h.own hparts
    | member m => exact names_lack_member h.own hparts
    | markup k => exact {}
    | stmt s => exact names_lack_stmt h.own hparts

/-! ## What its scopes bind -/

theorem not_mem_around {names : List String} (h : c ∉ names) (ps : List Node) :
    ∀ s ∈ around names ps, c ∉ s.1 := by
  intro s hs
  obtain ⟨p, -, rfl⟩ := List.mem_map.mp hs
  exact h

theorem not_mem_caught {param : Option Expr}
    (h : ∀ p ∈ param.toList.map Node.expr, p.names.Lack c) : c ∉ caught param := by
  cases param with
  | none => exact List.not_mem_nil
  | some e => exact (h _ (.head _)).bound

theorem not_mem_loopNames {init : Option Stmt} {body : Stmt}
    (hinit : ∀ p ∈ init.toList.map Node.stmt, p.names.Lack c)
    (hbody : (Node.stmt body).names.Lack c) : c ∉ loopNames init body := by
  cases init with
  | none => exact not_mem_append List.not_mem_nil hbody.declared
  | some init => exact not_mem_append (hinit _ (.head _)).declared hbody.declared

theorem not_mem_headNames {n : Node} (h : ∀ p ∈ n.parts, p.names.Lack c) : c ∉ headNames n := by
  cases n with
  | stmt s =>
    cases s with
    | forLoop init test update body =>
      have hinit := fun p hp => h p (List.mem_append_left _ (List.mem_append_left _
        (List.mem_append_left _ hp)))
      exact not_mem_loopNames hinit (h (.stmt body) (List.mem_append_right _ (.head _)))
    | forIn left right body | forOf isAwait left right body =>
      have hleft : ∀ p ∈ (some left).toList.map Node.stmt, p.names.Lack c :=
        List.forall_mem_singleton.mpr (h _ (.head _))
      exact not_mem_loopNames hleft (h (.stmt body) (.tail _ (.tail _ (.head _))))
    | _ => exact List.not_mem_nil
  | _ => exact List.not_mem_nil

theorem Node.Lacks.scopes {n : Node} (h : n.Lacks c) : ∀ s ∈ n.scopes, c ∉ s.1 := by
  have hparts : ∀ p ∈ n.parts, p.names.Lack c := fun p hp => (h.parts p hp).names
  cases n with
  | expr e =>
    cases e with
    | function n =>
      obtain ⟨hparams, hbody⟩ := List.forall_mem_append.mp hparts
      have hnames := not_mem_append h.own (not_mem_boundOfAll hparams)
      exact List.forall_mem_append.mpr ⟨not_mem_around hnames _,
        not_mem_around (not_mem_append hnames (not_mem_localsOf hbody)) _⟩
    | arrow =>
      obtain ⟨hparams, hbody⟩ := List.forall_mem_append.mp hparts
      have hnames := not_mem_boundOfAll hparams
      exact List.forall_mem_append.mpr ⟨not_mem_around hnames _,
        not_mem_around (not_mem_append hnames (not_mem_localsOf hbody)) _⟩
    | arrowTo isAsync params body =>
      exact not_mem_around (not_mem_boundOfAll (List.forall_mem_append.mp hparts).1) _
    | classOf n =>
      exact List.forall_mem_append.mpr ⟨not_mem_around List.not_mem_nil _,
        not_mem_around h.own _⟩
    | _ => exact not_mem_around List.not_mem_nil _
  | member m =>
    cases m with
    | staticBlock body => exact not_mem_around (not_mem_localsOf hparts) _
    | _ => exact not_mem_around List.not_mem_nil _
  | markup k => exact not_mem_around List.not_mem_nil _
  | stmt s =>
    cases s with
    | block body => exact not_mem_around (not_mem_declaredBy hparts) _
    | forLoop | forIn | forOf => exact not_mem_around (not_mem_headNames hparts) _
    | switchOn value cases =>
      exact List.forall_mem_append.mpr ⟨not_mem_around List.not_mem_nil _,
        not_mem_around (not_mem_declaredBy fun p hp => hparts p (.tail _ hp)) _⟩
    | tryCatch body handler finalizer =>
      have hbody := fun p hp => hparts p (List.mem_append_left _ (List.mem_append_left _ hp))
      exact List.forall_mem_append.mpr ⟨not_mem_around (not_mem_declaredBy hbody) _,
        not_mem_around List.not_mem_nil _⟩
    | catchClause param body =>
      obtain ⟨hparam, hbody⟩ := List.forall_mem_append.mp hparts
      have hnames := not_mem_caught hparam
      exact List.forall_mem_append.mpr ⟨not_mem_around hnames _,
        not_mem_around (not_mem_append hnames (not_mem_declaredBy hbody)) _⟩
    | enumeration name ms => exact not_mem_around h.own _
    | namespaceDecl name looseExports body => exact not_mem_around (not_mem_localsOf hparts) _
    | _ => exact not_mem_around List.not_mem_nil _

theorem not_mem_inside {n : Node} (h : ∀ p ∈ n.parts, p.names.Lack c) :
    ∀ body ∈ bodyOf n, c ∉ body.inside := by
  cases n with
  | stmt s =>
    cases s with
    | forLoop | forIn | forOf | whileLoop | doWhile =>
      refine List.forall_mem_singleton.mpr (h (.stmt _) ?_).inside
      simp only [Node.parts, Stmt.parts, List.mem_append, List.mem_cons, true_or, or_true]
    | _ => exact List.forall_mem_nil _
  | _ => exact List.forall_mem_nil _

theorem Node.Lacks.ownSites {n : Node} (h : n.Lacks c) : ∀ site ∈ ownSites n, c ∉ site.1 := by
  intro site hsite
  have hparts : ∀ p ∈ n.parts, p.names.Lack c := fun p hp => (h.parts p hp).names
  obtain ⟨body, hbody, rfl⟩ := List.mem_map.mp hsite
  exact not_mem_append (not_mem_headNames hparts) (not_mem_inside hparts body hbody)

/-- No scope around a loop binds a name that the tree lacks. -/
theorem Node.Lacks.loopSites {n : Node} (h : n.Lacks c) : ∀ site ∈ n.loopSites, c ∉ site.1 := by
  induction n using Node.induction with
  | h n ih =>
    rw [Node.loopSites_eq]
    refine List.forall_mem_append.mpr ⟨h.ownSites, fun site hsite => ?_⟩
    obtain ⟨s, hs, hsite⟩ := List.mem_flatMap.mp hsite
    obtain ⟨inner, hinner, rfl⟩ := List.mem_map.mp hsite
    have hpart := Node.mem_parts_of_mem_scopes hs
    exact not_mem_append (h.scopes s hs) (ih _ hpart (h.parts _ hpart) inner hinner)

theorem not_mem_moduleNames {items : Module} (h : Lack c (items.map .stmt)) :
    c ∉ moduleNames items := by
  have hnames : ∀ p ∈ items.map Node.stmt, p.names.Lack c := fun p hp => (h p hp).names
  refine not_mem_append (not_mem_localsOf hnames) fun hmem => ?_
  obtain ⟨s, hs, hmem⟩ := List.mem_flatMap.mp hmem
  exact (hnames _ (List.mem_map_of_mem hs)).imported hmem

theorem not_mem_loopSites {items : Module} (h : Lack c (items.map .stmt)) :
    ∀ site ∈ loopSites items, c ∉ site.1 := by
  intro site hsite
  obtain ⟨s, hs, hsite⟩ := List.mem_flatMap.mp hsite
  exact (h _ (List.mem_map_of_mem hs)).loopSites site hsite

end

/-! ## Rebuilding -/

namespace Rebuild

/-- What it means for the values of a monad that all they give has a property. -/
structure Outcome (m : Type → Type) [Monad m] where
  Gives : {α : Type} → (α → Prop) → m α → Prop
  pure : ∀ {α : Type} {Q : α → Prop} {a : α}, Q a → Gives Q (pure a)
  bind : ∀ {α β : Type} {Q : α → Prop} {R : β → Prop} {x : m α} {k : α → m β},
    Gives Q x → (∀ a, Q a → Gives R (k a)) → Gives R (x >>= k)

/-- A rebuild that keeps a name out of single nodes. -/
structure KeepsOut {m : Type → Type} [Monad m] (o : Outcome m) (c : String) (b : Rebuild m) :
    Prop where
  expr : ∀ e, (Node.expr e).Lacks c → o.Gives (Expr.Lacks c) (b.expr e)
  member : ∀ x, (Node.member x).Lacks c → o.Gives (Member.Lacks c) (b.member x)
  stmt : ∀ s, (Node.stmt s).Lacks c → o.Gives (Stmt.Lacks c) (b.stmt s)
  item : ∀ isModule declared s, (Node.stmt s).Lacks c →
    o.Gives (Stmt.Lack c) (b.item isModule declared s)
  binding : ∀ {α : Type} {Q : α → Prop} (names : List String) (x : m α),
    o.Gives Q x → o.Gives Q (b.binding α names x)

section
variable {m : Type → Type} [Monad m] {o : Outcome m} {c : String} {b : Rebuild m}

/-- Rebuilding the node keeps the name out of it. -/
def Clear (o : Outcome m) (c : String) (b : Rebuild m) : Node → Prop
  | .expr e => o.Gives (Expr.Lacks c) (b.onExpr e)
  | .member x => o.Gives (Member.Lacks c) (b.onMember x)
  | .markup k => o.Gives (Markup.Lacks c) (b.onMarkup k)
  | .stmt s => o.Gives (Stmt.Lacks c) (b.onStmt s)

theorem clear_exprs {es : List Expr} (h : ∀ p ∈ es.map Node.expr, Clear o c b p) :
    o.Gives (Expr.Lack c) (b.onExprs es) := by
  induction es with
  | nil => exact o.pure .nil
  | cons e r ih =>
    obtain ⟨he, hr⟩ := List.forall_mem_cons.mp h
    exact o.bind he fun _ he => o.bind (ih hr) fun _ hr => o.pure (.cons he hr)

theorem clear_members {ms : List Member} (h : ∀ p ∈ ms.map Node.member, Clear o c b p) :
    o.Gives (Member.Lack c) (b.onMembers ms) := by
  induction ms with
  | nil => exact o.pure .nil
  | cons x r ih =>
    obtain ⟨hx, hr⟩ := List.forall_mem_cons.mp h
    exact o.bind hx fun _ hx => o.bind (ih hr) fun _ hr => o.pure (.cons hx hr)

theorem clear_markups {ks : List Markup} (h : ∀ p ∈ ks.map Node.markup, Clear o c b p) :
    o.Gives (Markup.Lack c) (b.onMarkups ks) := by
  induction ks with
  | nil => exact o.pure .nil
  | cons k r ih =>
    obtain ⟨hk, hr⟩ := List.forall_mem_cons.mp h
    exact o.bind hk fun _ hk => o.bind (ih hr) fun _ hr => o.pure (.cons hk hr)

theorem clear_stmts {ss : List Stmt} (h : ∀ p ∈ ss.map Node.stmt, Clear o c b p) :
    o.Gives (Stmt.Lack c) (b.onStmts ss) := by
  induction ss with
  | nil => exact o.pure .nil
  | cons s r ih =>
    obtain ⟨hs, hr⟩ := List.forall_mem_cons.mp h
    exact o.bind hs fun _ hs => o.bind (ih hr) fun _ hr => o.pure (.cons hs hr)

theorem KeepsOut.clear_list (hb : KeepsOut o c b) (isModule : Bool) (declared : List String)
    {ss : List Stmt} (h : ∀ p ∈ ss.map Node.stmt, Clear o c b p) :
    o.Gives (Stmt.Lack c) (b.onList isModule declared ss) := by
  induction ss generalizing declared with
  | nil => exact o.pure .nil
  | cons s r ih =>
    obtain ⟨hs, hr⟩ := List.forall_mem_cons.mp h
    exact o.bind hs fun s' hs => o.bind (hb.item _ _ _ hs) fun here hhere =>
      o.bind (ih _ hr) fun rest hrest => o.pure (.map_append hhere hrest)

theorem clear_key {key : Expr} (h : ∀ p ∈ keyParts key, Clear o c b p) :
    o.Gives (fun key => Lack c (keyParts key)) (b.onKey key) := by
  cases key with
  | computed e => exact o.bind (h _ (.head _)) fun _ he => o.pure (.cons he .nil)
  | _ => exact o.pure .nil

/-- What may be missing is changed in front of what comes next. -/
def onOption {m : Type → Type} [Monad m] {α β : Type} (f : α → m α) (x : Option α)
    (k : Option α → m β) : m β :=
  match x with
  | some a => do
    let a ← f a
    k (← pure (some a))
  | none => do k (← pure none)

theorem clear_optionExpr {x : Option Expr} {β : Type} {R : β → Prop} {k : Option Expr → m β}
    (h : ∀ p ∈ x.toList.map Node.expr, Clear o c b p)
    (hk : ∀ x : Option Expr, Lack c (x.toList.map .expr) → o.Gives R (k x)) :
    o.Gives R (onOption b.onExpr x k) := by
  cases x with
  | none => exact o.bind (o.pure (Q := fun x => Lack c (x.toList.map .expr)) .nil) hk
  | some e =>
    exact o.bind (h _ (.head _)) fun _ he =>
      o.bind (o.pure (Q := fun x => Lack c (x.toList.map .expr)) (.cons he .nil)) hk

theorem clear_optionStmt {x : Option Stmt} {β : Type} {R : β → Prop} {k : Option Stmt → m β}
    (h : ∀ p ∈ x.toList.map Node.stmt, Clear o c b p)
    (hk : ∀ x : Option Stmt, Lack c (x.toList.map .stmt) → o.Gives R (k x)) :
    o.Gives R (onOption b.onStmt x k) := by
  cases x with
  | none => exact o.bind (o.pure (Q := fun x => Lack c (x.toList.map .stmt)) .nil) hk
  | some s =>
    exact o.bind (h _ (.head _)) fun _ hs =>
      o.bind (o.pure (Q := fun x => Lack c (x.toList.map .stmt)) (.cons hs .nil)) hk

theorem KeepsOut.clear_expr (hb : KeepsOut o c b) {e : Expr} (h : (Node.expr e).Lacks c)
    (ih : ∀ p ∈ e.parts, Clear o c b p) : Clear o c b (.expr e) := by
  cases e with
  | template | array | sequence | importCall =>
    exact o.bind (clear_exprs ih) fun _ hes => hb.expr _ (.of_parts hes rfl)
  | object | pattern =>
    exact o.bind (clear_members ih) fun _ hms => hb.expr _ (.of_parts hms rfl)
  | spread | unary | update | member | privateMember | awaitExpr | paren | computed |
      fieldParameter | effectless =>
    exact o.bind (ih _ (.head _)) fun _ he =>
      hb.expr _ (.of_parts (.cons he .nil) rfl)
  | commented =>
    exact o.bind (ih _ (.head _)) fun _ he => o.pure (.of_parts (.cons he .nil) rfl)
  | markup piece =>
    exact o.bind (ih _ (.head _)) fun _ hk =>
      hb.expr _ (.of_parts (.cons hk .nil) rfl)
  | tagged | initialized | binary | assign | index =>
    exact o.bind (ih _ (.head _)) fun _ hleft => o.bind (ih _ (.tail _ (.head _))) fun _ hright =>
      hb.expr _ (.of_parts (.cons hleft (.cons hright .nil)) rfl)
  | conditional =>
    exact o.bind (ih _ (.head _)) fun _ htest => o.bind (ih _ (.tail _ (.head _))) fun _ hyes =>
      o.bind (ih _ (.tail _ (.tail _ (.head _)))) fun _ hno =>
        hb.expr _ (.of_parts (.cons htest (.cons hyes (.cons hno .nil))) rfl)
  | call | new =>
    obtain ⟨hcallee, hargs⟩ := List.forall_mem_cons.mp ih
    exact o.bind hcallee fun _ hcallee => o.bind (clear_exprs hargs) fun _ hargs =>
      hb.expr _ (.of_parts (.cons hcallee hargs) rfl)
  | function | arrow =>
    obtain ⟨hparams, hbody⟩ := List.forall_mem_append.mp ih
    refine o.bind (hb.binding _ _ ?_) fun _ hfn => hb.expr _ hfn
    exact o.bind (clear_exprs hparams) fun _ hparams =>
      o.bind (hb.clear_list _ _ hbody) fun _ hbody => o.pure (.intro h.own (hparams.append hbody))
  | arrowTo =>
    obtain ⟨hparams, hbody⟩ := List.forall_mem_append.mp ih
    refine o.bind (hb.binding _ _ ?_) fun _ hfn => hb.expr _ hfn
    exact o.bind (clear_exprs hparams) fun _ hparams => o.bind (hbody _ (.head _)) fun _ hbody =>
      o.pure (.intro h.own (hparams.append (.cons hbody .nil)))
  | classOf n base decorators ms =>
    obtain ⟨hfront, hms⟩ := List.forall_mem_append.mp ih
    obtain ⟨hdecorators, hbase⟩ := List.forall_mem_append.mp hfront
    have hinner : ∀ ds : List Expr, Lack c (ds.map .expr) →
        o.Gives (Expr.Lacks c) (onOption b.onExpr base fun base => do
          return .classOf n base ds (← b.onMembers ms)) := fun ds hds =>
      clear_optionExpr hbase fun _ hbase => o.bind (clear_members hms) fun _ hms =>
        o.pure (.intro h.own ((hds.append hbase).append hms))
    cases base <;> exact o.bind (clear_exprs hdecorators) fun _ hds =>
      o.bind (hb.binding _ _ (hinner _ hds)) fun _ hc => hb.expr _ hc
  | decorated =>
    obtain ⟨hdecorators, htarget⟩ := List.forall_mem_append.mp ih
    exact o.bind (clear_exprs hdecorators) fun _ hdecorators =>
      o.bind (htarget _ (.head _)) fun _ htarget =>
        hb.expr _ (.of_parts (hdecorators.append (.cons htarget .nil)) rfl)
  | yieldExpr delegate e =>
    have hown : o.Gives (Expr.Lacks c) (onOption b.onExpr e fun e =>
        b.expr (.yieldExpr delegate e)) :=
      clear_optionExpr ih fun _ he => hb.expr _ (.of_parts he rfl)
    cases e <;> exact hown
  | _ => exact hb.expr _ h

theorem KeepsOut.clear_member (hb : KeepsOut o c b) {x : Member} (h : (Node.member x).Lacks c)
    (ih : ∀ p ∈ x.parts, Clear o c b p) : Clear o c b (.member x) := by
  cases x with
  | property key value =>
    obtain ⟨hkey, hvalue⟩ := List.forall_mem_append.mp ih
    exact o.bind (clear_key hkey) fun _ hkey => o.bind (hvalue _ (.head _)) fun _ hvalue =>
      hb.member _ (.of_parts (hkey.append (.cons hvalue .nil)) rfl)
  | shorthandDefault | spread =>
    exact o.bind (ih _ (.head _)) fun _ he => hb.member _ (.intro h.own (.cons he .nil))
  | commented =>
    exact o.bind (ih _ (.head _)) fun _ hx => o.pure (.intro h.own (.cons hx .nil))
  | method isStatic kind decorators key fn =>
    obtain ⟨hfront, hfn⟩ := List.forall_mem_append.mp ih
    obtain ⟨hdecorators, hkey⟩ := List.forall_mem_append.mp hfront
    exact o.bind (clear_exprs hdecorators) fun _ hdecorators =>
      o.bind (clear_key hkey) fun _ hkey => o.bind (hfn _ (.head _)) fun _ hfn =>
        hb.member _ (.of_parts ((hdecorators.append hkey).append (.cons hfn .nil)) rfl)
  | field isStatic isAccessor decorators key value =>
    obtain ⟨hfront, hvalue⟩ := List.forall_mem_append.mp ih
    obtain ⟨hdecorators, hkey⟩ := List.forall_mem_append.mp hfront
    have hown : ∀ (ds : List Expr) (key : Expr), Lack c (ds.map .expr) → Lack c (keyParts key) →
        o.Gives (Member.Lacks c) (onOption b.onExpr value fun value =>
          b.member (.field isStatic isAccessor ds key value)) := fun ds key hds hkey =>
      clear_optionExpr hvalue fun _ hvalue =>
        hb.member _ (.of_parts ((hds.append hkey).append hvalue) rfl)
    cases value <;> exact o.bind (clear_exprs hdecorators) fun _ hds =>
      o.bind (clear_key hkey) fun _ hkey => hown _ _ hds hkey
  | staticBlock body =>
    exact o.bind (hb.binding _ _ (hb.clear_list _ _ ih)) fun _ hbody =>
      hb.member _ (.of_parts hbody rfl)
  | signature key =>
    exact o.bind (clear_key ih) fun _ hkey => hb.member _ (.of_parts hkey rfl)
  | shorthand n => exact hb.member _ h

theorem clear_markup {k : Markup} (h : (Node.markup k).Lacks c)
    (ih : ∀ p ∈ k.parts, Clear o c b p) : Clear o c b (.markup k) := by
  cases k with
  | element tag attributes children =>
    obtain ⟨htag, hinner⟩ := List.forall_mem_cons.mp ih
    obtain ⟨hattributes, hchildren⟩ := List.forall_mem_append.mp hinner
    exact o.bind htag fun _ htag => o.bind (clear_markups hattributes) fun _ hattributes =>
      o.bind (clear_markups hchildren) fun _ hchildren =>
        o.pure (.of_parts (.cons htag (hattributes.append hchildren)) rfl)
  | fragment children =>
    exact o.bind (clear_markups ih) fun _ hchildren => o.pure (.of_parts hchildren rfl)
  | prefixedElement | text | emptyBraces | bareAttribute => exact o.pure h
  | _ =>
    exact o.bind (ih _ (.head _)) fun _ he => o.pure (.of_parts (.cons he .nil) rfl)

theorem KeepsOut.clear_stmt (hb : KeepsOut o c b) {s : Stmt} (h : (Node.stmt s).Lacks c)
    (ih : ∀ p ∈ s.parts, Clear o c b p) : Clear o c b (.stmt s) := by
  cases s with
  | expression | functionDecl | classDecl | labeled | throwStmt | importAlias | exportDecl |
      exportDefault =>
    exact o.bind (ih _ (.head _)) fun _ he => hb.stmt _ (.intro h.own (.cons he .nil))
  | commented =>
    exact o.bind (ih _ (.head _)) fun _ hs => o.pure (.of_parts (.cons hs .nil) rfl)
  | declaration kind ds =>
    exact o.bind (clear_exprs ih) fun _ hds => hb.stmt _ (.of_parts hds rfl)
  | enumeration name ms =>
    exact o.bind (clear_members ih) fun _ hms => hb.stmt _ (.intro h.own hms)
  | block body =>
    exact o.bind (hb.binding _ _ (hb.clear_list _ _ ih)) fun _ hbody =>
      hb.stmt _ (.of_parts hbody rfl)
  | namespaceDecl name looseExports body =>
    exact o.bind (hb.binding _ _ (clear_stmts ih)) fun _ hbody =>
      hb.stmt _ (.intro h.own hbody)
  | ifThen test yes no =>
    obtain ⟨htest, hbranches⟩ := List.forall_mem_cons.mp ih
    obtain ⟨hyes, hno⟩ := List.forall_mem_cons.mp hbranches
    have hown : ∀ (test : Expr) (yes : Stmt), (Node.expr test).Lacks c → (Node.stmt yes).Lacks c →
        o.Gives (Stmt.Lacks c) (onOption b.onStmt no fun no =>
          b.stmt (.ifThen test yes no)) := fun test yes htest hyes =>
      clear_optionStmt hno fun _ hno =>
        hb.stmt _ (.of_parts (.cons htest (.cons hyes hno)) rfl)
    cases no <;> exact o.bind htest fun _ htest => o.bind hyes fun _ hyes => hown _ _ htest hyes
  | forLoop init test update body =>
    obtain ⟨hfront, hbody⟩ := List.forall_mem_append.mp ih
    obtain ⟨hfront, hupdate⟩ := List.forall_mem_append.mp hfront
    obtain ⟨hinit, htest⟩ := List.forall_mem_append.mp hfront
    have hinner : o.Gives (Stmt.Lacks c)
        (onOption b.onStmt init fun init => onOption b.onExpr test fun test =>
          onOption b.onExpr update fun update => do
            return .forLoop init test update (← b.onStmt body)) :=
      clear_optionStmt hinit fun _ hinit => clear_optionExpr htest fun _ htest =>
        clear_optionExpr hupdate fun _ hupdate => o.bind (hbody _ (.head _)) fun _ hbody =>
          o.pure (.of_parts
            (((hinit.append htest).append hupdate).append (.cons hbody .nil)) rfl)
    cases init <;> cases test <;> cases update <;>
      exact o.bind (hb.binding _ _ hinner) fun _ hs => hb.stmt _ hs
  | forIn | forOf =>
    refine o.bind (hb.binding _ _ ?_) fun _ hs => hb.stmt _ hs
    exact o.bind (ih _ (.head _)) fun _ hleft => o.bind (ih _ (.tail _ (.head _))) fun _ hright =>
      o.bind (ih _ (.tail _ (.tail _ (.head _)))) fun _ hbody =>
        o.pure (.of_parts (.cons hleft (.cons hright (.cons hbody .nil))) rfl)
  | whileLoop | doWhile | withStmt =>
    exact o.bind (ih _ (.head _)) fun _ hfirst => o.bind (ih _ (.tail _ (.head _))) fun _ hsecond =>
      hb.stmt _ (.of_parts (.cons hfirst (.cons hsecond .nil)) rfl)
  | switchOn value cases =>
    obtain ⟨hvalue, hcases⟩ := List.forall_mem_cons.mp ih
    exact o.bind hvalue fun _ hvalue =>
      o.bind (hb.binding _ _ (clear_stmts hcases)) fun _ hcases =>
        hb.stmt _ (.of_parts (.cons hvalue hcases) rfl)
  | switchCase test body =>
    obtain ⟨htest, hbody⟩ := List.forall_mem_append.mp ih
    have hown : o.Gives (Stmt.Lacks c) (onOption b.onExpr test fun test => do
        b.stmt (.switchCase test (← b.onList false [] body))) :=
      clear_optionExpr htest fun _ htest => o.bind (hb.clear_list _ _ hbody) fun _ hbody =>
        hb.stmt _ (.of_parts (htest.append hbody) rfl)
    cases test <;> exact hown
  | tryCatch body handler finalizer =>
    obtain ⟨hfront, hfinalizer⟩ := List.forall_mem_append.mp ih
    obtain ⟨hbody, hhandler⟩ := List.forall_mem_append.mp hfront
    have hown : ∀ body : List Stmt, Lack c (body.map .stmt) →
        o.Gives (Stmt.Lacks c) (onOption b.onStmt handler fun handler =>
          onOption b.onStmt finalizer fun finalizer =>
            b.stmt (.tryCatch body handler finalizer)) := fun body hbody =>
      clear_optionStmt hhandler fun _ hhandler => clear_optionStmt hfinalizer fun _ hfinalizer =>
        hb.stmt _ (.of_parts ((hbody.append hhandler).append hfinalizer) rfl)
    cases handler <;> cases finalizer <;>
      exact o.bind (hb.binding _ _ (hb.clear_list _ _ hbody)) fun _ hbody => hown _ hbody
  | catchClause param body =>
    obtain ⟨hparam, hbody⟩ := List.forall_mem_append.mp ih
    have hinner : o.Gives (Stmt.Lacks c)
        (onOption b.onExpr param fun param => do
          return .catchClause param (← b.onList false [] body)) :=
      clear_optionExpr hparam fun _ hparam => o.bind (hb.clear_list _ _ hbody) fun _ hbody =>
        o.pure (.of_parts (hparam.append hbody) rfl)
    cases param <;> exact o.bind (hb.binding _ _ hinner) fun _ hs => hb.stmt _ hs
  | returnStmt e =>
    have hown : o.Gives (Stmt.Lacks c) (onOption b.onExpr e fun e =>
        b.stmt (.returnStmt e)) :=
      clear_optionExpr ih fun _ he => hb.stmt _ (.of_parts he rfl)
    cases e <;> exact hown
  | _ => exact hb.stmt _ h

/-- **A name that is kept out of single nodes is kept out of trees.** -/
theorem KeepsOut.clear (hb : KeepsOut o c b) {n : Node} (h : n.Lacks c) : Clear o c b n := by
  induction n using Node.induction with
  | h n ih =>
    have hparts : ∀ p ∈ n.parts, Clear o c b p := fun p hp => ih p hp (h.parts p hp)
    cases n with
    | expr e => exact hb.clear_expr h hparts
    | member x => exact hb.clear_member h hparts
    | markup k => exact clear_markup h hparts
    | stmt s => exact hb.clear_stmt h hparts

theorem KeepsOut.onModule (hb : KeepsOut o c b) {items : Module} (h : Lack c (items.map .stmt)) :
    o.Gives (Stmt.Lack c) (b.onModule items) :=
  hb.clear_list true [] fun p hp => hb.clear (h p hp)

end

end Rebuild

end LivePreview.Script
