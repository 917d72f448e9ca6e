import LivePreview.Proofs.AbsentNames
import LivePreview.Script.Lowering
/-!
# The variables of a lowered module

Lowering brings in variables that the source does not have: those that it invents, and those that a
comment names for making elements. A name that is never invented, and that no variable of the source
has, is no variable of the lowered module (`lack_of_lower`).

What the steps of lowering give is stated for states from which the name cannot come
(`Lowering.Lacks`), and the steps keep them so.
-/
namespace LivePreview.Script

open Rebuild

/-! ## Outcomes of the monads of lowering -/

/-- Without a monad, what is given is the value. -/
def Outcome.value : Outcome Id where
  Gives Q x := Q x
  pure h := h
  bind h hk := hk _ h

/-- What is given whatever is read. -/
def Outcome.reader (ρ : Type) : Outcome (ReaderM ρ) where
  Gives Q x := ∀ r, Q (x r)
  pure h _ := h
  bind h hk r := hk _ (h r) r

/-- What is given from any state with a property, which is kept. -/
def Outcome.state {σ : Type} (Inv : σ → Prop) : Outcome (StateM σ) where
  Gives Q x := ∀ s, Inv s → Q (x s).1 ∧ Inv (x s).2
  pure h _ hs := ⟨h, hs⟩
  bind h hk s hs := hk _ (h s hs).1 _ (h s hs).2

/-! ## Names that are not invented -/

/-- A name that lowering does not come up with. -/
structure Uninvented (c : String) : Prop where
  new : ∀ taken base, Lowering.newName taken base ≠ c
  constants : c ∉ ["NaN", "Infinity"]

/-- The variables of the expressions that make elements and fragments. -/
def MarkupStyle.variables : MarkupStyle → List String
  | .automatic _ => []
  | .classic element fragment =>
    (Node.expr element).collect Node.variables ++ (Node.expr fragment).collect Node.variables

/-- The name comes neither from the functions that markup needs nor from those that it is told to
use. -/
structure Lowering.Lacks (c : String) (s : Lowering) : Prop where
  style : c ∉ s.style.variables
  runtime : ∀ e ∈ s.runtime, ∀ name ∈ e.2, name.2 ≠ c

namespace Lowering

variable {c : String}

/-- What a step of lowering gives from states that lack the name. -/
abbrev steps (c : String) : Outcome (StateM Lowering) := Outcome.state (Lowering.Lacks c)

theorem gives_get : (steps c).Gives (Lowering.Lacks c) get := fun _ hs => ⟨hs, hs⟩

theorem gives_modify {f : Lowering → Lowering} (h : ∀ s, s.Lacks c → (f s).Lacks c) :
    (steps c).Gives (fun _ => True) (modify f) := fun s hs => ⟨trivial, h s hs⟩

theorem gives_report (cause : SyntaxError) (offset : Nat) :
    (steps c).Gives (fun _ => True) (report cause offset) :=
  gives_modify fun _ hs => ⟨hs.style, hs.runtime⟩

theorem gives_fresh (hc : Uninvented c) (base : String) :
    (steps c).Gives (· ≠ c) (fresh base) :=
  (steps c).bind gives_get fun s _ =>
    (steps c).bind (gives_modify fun _ hs => ⟨hs.style, hs.runtime⟩) fun _ _ =>
      (steps c).pure (hc.new s.taken base)

theorem mem_addImport {source : String} {name x : String × String}
    {runtime : List (String × List (String × String))} {e : String × List (String × String)}
    (he : e ∈ addImport source name runtime) (hx : x ∈ e.2) :
    x = name ∨ ∃ e ∈ runtime, x ∈ e.2 := by
  induction runtime with
  | nil =>
    obtain rfl := List.mem_singleton.mp he
    exact .inl (List.mem_singleton.mp hx)
  | cons first r ih =>
    rw [addImport] at he
    split at he
    · obtain rfl | he := List.mem_cons.mp he
      · rcases List.mem_append.mp hx with hx | hx
        · exact .inr ⟨_, .head _, hx⟩
        · exact .inl (List.mem_singleton.mp hx)
      · exact .inr ⟨e, .tail _ he, hx⟩
    · obtain rfl | he := List.mem_cons.mp he
      · exact .inr ⟨_, .head _, hx⟩
      · exact (ih he).imp_right fun ⟨e, he, hx⟩ => ⟨e, .tail _ he, hx⟩

theorem gives_runtimeName (hc : Uninvented c) (source name : String) :
    (steps c).Gives (· ≠ c) (runtimeName source name) := by
  refine (steps c).bind gives_get fun s hs => ?_
  dsimp only
  split
  · rename_i e hfind
    obtain ⟨known, hknown, he⟩ := List.mem_flatMap.mp (List.mem_of_find?_eq_some hfind)
    exact (steps c).pure (hs.runtime known (List.mem_filter.mp hknown).1 e he)
  · refine (steps c).bind (gives_fresh hc name) fun n hn =>
      (steps c).bind (gives_modify fun s hs => ⟨hs.style, fun e he x hx => ?_⟩) fun _ _ =>
        (steps c).pure hn
    obtain rfl | ⟨e, he, hx⟩ := mem_addImport he hx
    · exact hn
    · exact hs.runtime e he x hx

/-! ## Markup -/

theorem lacks_name {n : String} (h : n ≠ c) : (Expr.name n).Lacks c :=
  .intro (fun hmem => h (List.mem_singleton.mp hmem).symm) .nil

theorem lacks_pureCall {callee : Expr} {args : List Expr} (hcallee : callee.Lacks c)
    (hargs : Expr.Lack c args) : (pureCall callee args).Lacks c :=
  .of_parts (.cons hcallee hargs) rfl

theorem lacks_bare {e : Expr} (h : e.Lacks c) : e.bare.Lacks c := by
  induction e using Expr.bare.induct with
  | case1 e ih | case2 cs e ih =>
    rw [Expr.bare]
    exact ih (h.parts _ (.head _))
  | case3 e hparen hcommented => rwa [Expr.bare.eq_3 e hparen hcommented]

theorem lacks_spreadOut {e : Expr} (h : e.Lacks c) :
    Member.Lack c (spreadOut e) := by
  have hspread : Member.Lack c [.spread e] :=
    .cons (.of_parts (.cons h .nil) rfl) .nil
  unfold spreadOut
  split
  · rename_i members hmembers
    split
    · exact hspread
    · exact (hmembers ▸ lacks_bare h).parts
  · exact hspread

theorem lacks_property {name : String} {value : Expr} (h : value.Lacks c) :
    (Member.property (attributeKey name) value).Lacks c := by
  refine .of_parts ?_ rfl
  have hkey : keyParts (attributeKey name) = [] := by
    unfold attributeKey
    split <;> rfl
  rw [Node.parts, Member.parts, hkey]
  exact .cons h .nil

theorem gives_importedCall (hc : Uninvented c) (source : String) {tag : Lower Expr}
    {properties : List Member} {key : Option Expr} {children : List Expr}
    (htag : (steps c).Gives (Expr.Lacks c) tag)
    (hproperties : Member.Lack c properties) (hkey : Expr.Lack c key.toList)
    (hchildren : Expr.Lack c children) :
    (steps c).Gives (Expr.Lacks c)
      (importedCall source tag properties key children) := by
  have hproperty : ∀ value : Expr, value.Lacks c →
      Member.Lack c (properties ++ [.property (.name "children") value]) := fun value hvalue =>
    .map_append hproperties (.cons (.of_parts (.cons hvalue .nil) rfl) .nil)
  refine (steps c).bind htag fun tag htag => (steps c).bind (gives_runtimeName hc _ _)
    fun jsx hjsx => (steps c).pure (lacks_pureCall (lacks_name hjsx) (.cons htag (.cons ?_ hkey)))
  refine .of_parts ?_ rfl
  match children with
  | [] => exact hproperties
  | [child] => exact hproperty child (hchildren _ (.head _))
  | child :: second :: r =>
    exact hproperty (.array (child :: second :: r)) (.of_parts hchildren rfl)

theorem lacks_classicProperties {attributes : List Markup} {properties : List Member}
    (hattributes : Markup.Lack c attributes) (hproperties : Member.Lack c properties) :
    (classicProperties attributes properties).Lacks c := by
  unfold classicProperties
  split
  · exact .of_parts .nil rfl
  · exact (hattributes _ (.head _)).parts _ (.head _)
  · exact .of_parts hproperties rfl

theorem lacks_of_classic {s : Lowering} {element fragment : Expr} (hs : s.Lacks c)
    (hstyle : s.style = .classic element fragment) :
    element.Lacks c ∧ fragment.Lacks c := by
  have hmem := hs.style
  rw [hstyle] at hmem
  exact ⟨fun h => hmem (List.mem_append_left _ h), fun h => hmem (List.mem_append_right _ h)⟩

theorem lacks_string (text : String) : (Expr.string text).Lacks c :=
  .of_parts .nil rfl

/-- Neither the properties nor the key have a variable of the name. -/
def LackAttributes (c : String) (r : List Member × Option Expr) : Prop :=
  Member.Lack c r.1 ∧ Expr.Lack c r.2.toList

mutual

theorem gives_markup (hc : Uninvented c) : ∀ k : Markup, k.Lacks c →
    (steps c).Gives (Expr.Lacks c) (markup k)
  | .element tag attributes children, h => by
    obtain ⟨htag, hinner⟩ := List.forall_mem_cons.mp h.parts
    obtain ⟨hattributes, hchildren⟩ := List.forall_mem_append.mp hinner
    refine (steps c).bind gives_get fun s hs => ?_
    cases hstyle : s.style with
    | automatic source =>
      refine (steps c).bind (gives_attributeList hc _ attributes hattributes)
        fun (properties, key) hproperties => (steps c).bind (gives_childList hc children hchildren)
          fun cs hcs => ?_
      split
      · exact (steps c).bind (gives_runtimeName hc _ _) fun _ hcallee => (steps c).pure
          (lacks_pureCall (lacks_name hcallee)
            (.cons htag (.cons (.of_parts hproperties.1 rfl) hcs)))
      · exact gives_importedCall hc _ ((steps c).pure htag) hproperties.1 hproperties.2 hcs
    | classic element fragment =>
      exact (steps c).bind (gives_attributeList hc _ attributes hattributes)
        fun _ hproperties => (steps c).bind (gives_childList hc children hchildren)
          fun _ hcs => (steps c).pure (lacks_pureCall (lacks_of_classic hs hstyle).1
            (.cons htag (.cons (lacks_classicProperties hattributes hproperties.1) hcs)))
  | .fragment children, h =>
    (steps c).bind (gives_childList hc children h.parts) fun cs hcs =>
      (steps c).bind gives_get fun s hs => by
        cases hstyle : s.style with
        | automatic source =>
          refine gives_importedCall hc _ ?_ .nil .nil hcs
          exact (steps c).bind (gives_runtimeName hc _ _) fun _ hn =>
            (steps c).pure (lacks_name hn)
        | classic element fragment =>
          obtain ⟨helement, hfragment⟩ := lacks_of_classic hs hstyle
          exact (steps c).pure (lacks_pureCall helement
            (.cons hfragment (.cons (.of_parts .nil rfl) hcs)))
  | .prefixedElement offset, _ =>
    (steps c).bind (gives_report _ offset) fun _ _ =>
      (steps c).pure (.of_parts .nil rfl)
  | .text raw, _ => (steps c).pure (lacks_string _)
  | .embedded e, h => (steps c).pure (h.parts _ (.head _))
  | .spreadChild e, h =>
    (steps c).pure (.of_parts
      (.cons (.of_parts (.cons (h.parts _ (.head _)) .nil) rfl) .nil) rfl)
  | .emptyBraces, _ => (steps c).pure (.of_parts .nil rfl)
  | .attribute _ _ _, _ => (steps c).pure (.of_parts .nil rfl)
  | .bareAttribute _ _, _ => (steps c).pure (.of_parts .nil rfl)
  | .spreadAttribute _, _ => (steps c).pure (.of_parts .nil rfl)

theorem gives_attributeList (hc : Uninvented c) (keyed : Bool) : ∀ ks : List Markup,
    Markup.Lack c ks → (steps c).Gives (LackAttributes c) (attributeList keyed ks)
  | [], _ => (steps c).pure ⟨.nil, .nil⟩
  | .attribute _ name value :: r, h => by
    obtain ⟨hk, hr⟩ := List.forall_mem_cons.mp h
    refine (steps c).bind (gives_markup hc value (hk.parts _ (.head _))) fun v hv =>
      (steps c).bind (gives_attributeList hc keyed r hr) fun (properties, key) hrest => ?_
    dsimp only
    split
    · refine (steps c).pure ⟨hrest.1, ?_⟩
      cases key with
      | none => exact .cons hv .nil
      | some e => exact hrest.2
    · exact (steps c).pure ⟨.cons (lacks_property hv) hrest.1, hrest.2⟩
  | .bareAttribute offset name :: r, h => by
    obtain ⟨-, hr⟩ := List.forall_mem_cons.mp h
    have hrest : (steps c).Gives (LackAttributes c) (do
        let (properties, key) ← attributeList keyed r
        if name == "key" && !keyed then return (properties, key)
        else return (.property (attributeKey name) (.bool true) :: properties, key)) := by
      refine (steps c).bind (gives_attributeList hc keyed r hr) fun (properties, key) hrest => ?_
      dsimp only
      split
      · exact (steps c).pure hrest
      · exact (steps c).pure
          ⟨.cons (lacks_property (.of_parts .nil rfl)) hrest.1, hrest.2⟩
    unfold attributeList
    by_cases hname : (name == "key") = true
    · simp only [if_pos hname]
      exact (steps c).bind (gives_report _ offset) fun _ _ => hrest
    · simp only [if_neg hname]
      exact hrest
  | .spreadAttribute e :: r, h => by
    obtain ⟨hk, hr⟩ := List.forall_mem_cons.mp h
    refine (steps c).bind (gives_attributeList hc keyed r hr) fun (properties, key) hrest => ?_
    exact (steps c).pure
      ⟨.map_append (lacks_spreadOut (hk.parts _ (.head _))) hrest.1, hrest.2⟩
  | .element _ _ _ :: r, h => gives_attributeList hc keyed r (List.forall_mem_cons.mp h).2
  | .prefixedElement _ :: r, h => gives_attributeList hc keyed r (List.forall_mem_cons.mp h).2
  | .fragment _ :: r, h => gives_attributeList hc keyed r (List.forall_mem_cons.mp h).2
  | .text _ :: r, h => gives_attributeList hc keyed r (List.forall_mem_cons.mp h).2
  | .embedded _ :: r, h => gives_attributeList hc keyed r (List.forall_mem_cons.mp h).2
  | .emptyBraces :: r, h => gives_attributeList hc keyed r (List.forall_mem_cons.mp h).2
  | .spreadChild _ :: r, h => gives_attributeList hc keyed r (List.forall_mem_cons.mp h).2

theorem gives_childList (hc : Uninvented c) : ∀ ks : List Markup, Markup.Lack c ks →
    (steps c).Gives (Expr.Lack c) (childList ks)
  | [], _ => (steps c).pure .nil
  | k :: r, h => by
    obtain ⟨hk, hr⟩ := List.forall_mem_cons.mp h
    have hrest := gives_childList hc r hr
    have hchild := (steps c).bind (gives_markup hc k hk) fun e he =>
      (steps c).bind hrest fun es hes => (steps c).pure (Q := Expr.Lack c)
        (a := e :: es) (.cons he hes)
    cases k with
    | emptyBraces => exact hrest
    | text raw =>
      unfold childList
      split
      · exact (steps c).bind hrest fun _ hes => (steps c).pure (.cons (lacks_string _) hes)
      · exact hrest
    | _ => exact hchild

end

theorem gives_onMarkup (hc : Uninvented c) {e : Expr} (h : e.Lacks c) :
    (steps c).Gives (Expr.Lacks c) (onMarkup e) := by
  unfold onMarkup
  split
  · exact (steps c).bind (gives_modify fun _ hs => ⟨hs.style, hs.runtime⟩) fun _ _ =>
      gives_markup hc _ (h.parts _ (.head _))
  · exact (steps c).pure h

/-! ## Constructors -/

theorem not_mem_parameterFields {params : List Expr} (h : Expr.Lack c params) :
    c ∉ parameterFields params := by
  induction params using parameterFields.induct with
  | case1 => exact List.not_mem_nil
  | case2 target r ih =>
    obtain ⟨hp, hr⟩ := List.forall_mem_cons.mp h
    exact not_mem_append (hp.parts _ (.head _)).names.bound (ih hr)
  | case3 decorators target r ih =>
    obtain ⟨hp, hr⟩ := List.forall_mem_cons.mp h
    exact not_mem_append (hp.names.bound) (ih hr)
  | case4 p r hfield hdecorated ih =>
    rw [parameterFields.eq_4 p r hfield hdecorated]
    exact ih (List.forall_mem_cons.mp h).2

theorem lacks_plainParameter {e : Expr} (h : e.Lacks c) :
    (plainParameter e).Lacks c := by
  unfold plainParameter
  split
  · exact h.parts _ (.head _)
  · rename_i decorators target
    obtain ⟨hdecorators, htarget⟩ := List.forall_mem_append.mp h.parts
    exact .of_parts (.append hdecorators
      (.cons ((htarget _ (.head _)).parts _ (.head _)) .nil)) rfl
  · exact h

theorem lacks_setField {n : String} (h : n ≠ c) : (setField n).Lacks c :=
  .of_parts (.cons (.of_parts
    (.cons (.of_parts (.cons (.of_parts .nil rfl) .nil) rfl)
      (.cons (lacks_name h) .nil)) rfl) .nil) rfl

theorem mem_of_mem_afterSuper {added body : List Stmt} {s : Stmt} (h : s ∈ afterSuper added body) :
    s ∈ added ∨ s ∈ body := by
  induction body with
  | nil => cases h
  | cons first r ih =>
    rw [afterSuper] at h
    split at h
    · obtain h | h := List.mem_cons.mp h
      · exact .inr (h ▸ .head _)
      · rcases List.mem_append.mp h with h | h
        · exact .inl h
        · exact (ih h).imp_right (.tail _)
    · obtain h | h := List.mem_cons.mp h
      · exact .inr (h ▸ .head _)
      · exact (ih h).imp_right (.tail _)

theorem mem_of_mem_withFields {added body : List Stmt} {s : Stmt} (h : s ∈ withFields added body) :
    s ∈ added ∨ s ∈ body := by
  unfold withFields at h
  split at h
  · exact mem_of_mem_afterSuper h
  · rcases List.mem_append.mp h with h | h
    · rcases List.mem_append.mp h with h | h
      · exact .inr (List.takeWhile_subset _ h)
      · exact .inl h
    · exact .inr (List.dropWhile_subset _ h)

theorem gives_onMember {x : Member} (h : x.Lacks c) :
    (steps c).Gives (Member.Lacks c) (onMember x) := by
  unfold onMember
  split
  · rename_i isStatic kind decorators key name isAsync isGenerator params body
    split
    · obtain ⟨hfront, hfn⟩ := List.forall_mem_append.mp h.parts
      have hfn := hfn _ (.head _)
      obtain ⟨hparams, hbody⟩ := List.forall_mem_append.mp hfn.parts
      refine (steps c).pure (.of_parts (.append hfront
        (.cons (.intro hfn.own (.append ?_ ?_)) .nil)) rfl)
      · exact .map_map fun e he => lacks_plainParameter (Lack.of_mem hparams he)
      · refine List.forall_mem_map.mpr fun s hs => ?_
        rcases mem_of_mem_withFields hs with hs | hs
        · obtain ⟨n, hn, rfl⟩ := List.mem_map.mp hs
          exact lacks_setField fun heq => not_mem_parameterFields hparams (heq ▸ hn)
        · exact Lack.of_mem hbody hs
    · exact (steps c).pure h
  · exact (steps c).pure h

/-! ## Enumerations -/

theorem of_ite {α : Type} {P : α → Prop} {p : Prop} [Decidable p] {a b : α} (ha : P a) (hb : P b) :
    P (if p then a else b) := by
  split
  · exact ha
  · exact hb

theorem lacks_toExpr (hc : Uninvented c) (value : Constant) :
    value.toExpr.Lacks c := by
  have hname : ∀ n ∈ ["NaN", "Infinity"], (Expr.name n).Lacks c := fun n hn =>
    lacks_name fun heq => hc.constants (heq ▸ hn)
  cases value with
  | text s => exact lacks_string s
  | number x =>
    have habs : (if x.isNaN then Expr.name "NaN"
        else if x.isInf then .name "Infinity" else .number (Number.usual x.abs)).Lacks c :=
      of_ite (P := Expr.Lacks c) (hname _ (.head _))
        (of_ite (P := Expr.Lacks c) (hname _ (.tail _ (.head _)))
          (.of_parts .nil rfl))
    exact of_ite (P := Expr.Lacks c) (.of_parts (.cons habs .nil) rfl)
      habs

theorem lacks_qualify {enumeration : String} {own : Constants} {e : Expr} (hname : enumeration ≠ c)
    (h : e.Lacks c) : (qualify enumeration own e).Lacks c := by
  have hreference : ∀ n, (Expr.member (.name enumeration) n false).Lacks c := fun n =>
    .of_parts (.cons (lacks_name hname) .nil) rfl
  refine KeepsOut.clear (o := Outcome.reader (List String)) ?_ h []
  exact
    { expr := fun e he bound => by
        cases e with
        | name n => exact of_ite (P := Expr.Lacks c) (hreference n) he
        | _ => exact he
      member := fun x hx bound => by
        cases x with
        | shorthand n =>
          exact of_ite (P := Member.Lacks c)
            (.of_parts (.cons (hreference n) .nil) rfl) hx
        | _ => exact hx
      stmt := fun s hs _ => hs
      item := fun _ _ s hs _ => .cons hs .nil
      binding := fun names x hx r => hx (names ++ r) }

/-- The value of the member lacks the name, if it has one. -/
def EnumMember.Lacks (c : String) (m : EnumMember) : Prop := Expr.Lack c m.value.toList

theorem lacks_enumMember {x : Member} {comments : List Comment} {m : EnumMember}
    (h : x.Lacks c) (hm : enumMember comments x = some m) : m.Lacks c := by
  induction comments, x using enumMember.induct with
  | case1 comments cs x ih => exact ih (h.parts _ (.head _)) hm
  | case2 | case3 =>
    obtain rfl := Option.some.inj hm
    exact fun p hp => h.parts p (List.mem_append_right _ hp)
  | case4 x comments hcommented hname htext =>
    rw [enumMember.eq_4 comments x hcommented hname htext] at hm
    cases hm

theorem lacks_enumValue (hc : Uninvented c) {known : List (String × Constants)}
    {enumeration : String} {s : EnumState} {m : EnumMember} (hname : enumeration ≠ c)
    (h : m.Lacks c) : (enumValue known enumeration s m).1.Lacks c := by
  unfold enumValue
  dsimp only
  split
  · rename_i e he
    split
    · exact lacks_toExpr hc _
    · exact lacks_qualify hname (h _ (by rw [he]; exact .head _))
  · split
    · exact lacks_toExpr hc (.number _)
    · exact .of_parts .nil rfl
    · exact .of_parts (.cons (.of_parts .nil rfl)
        (.cons (.of_parts (.cons (lacks_name hname) (.cons (lacks_string _) .nil)) rfl)
          .nil)) rfl
    · exact .of_parts .nil rfl

theorem lacks_enumStatement {enumeration : String} {m : EnumMember} {value : Expr}
    (hname : enumeration ≠ c) (h : value.Lacks c) :
    (enumStatement enumeration m value).Lacks c := by
  have hentry : ∀ key : Expr, key.Lacks c →
      (Expr.index (.name enumeration) key false).Lacks c := fun key hkey =>
    .of_parts (.cons (lacks_name hname) (.cons hkey .nil)) rfl
  have hset : ∀ target value : Expr, target.Lacks c → value.Lacks c →
      (Expr.assign "=" target value).Lacks c := fun target value htarget hvalue =>
    .of_parts (.cons htarget (.cons hvalue .nil)) rfl
  have hfirst := hset _ _ (hentry _ (lacks_string m.name)) h
  have hstatement : ∀ e : Expr, e.Lacks c →
      (if m.comments.isEmpty then Stmt.expression e
        else .commented m.comments (.expression e)).Lacks c := fun e he =>
    have hs : (Stmt.expression e).Lacks c := .of_parts (.cons he .nil) rfl
    of_ite (P := Stmt.Lacks c) hs (.of_parts (.cons hs .nil) rfl)
  cases value with
  | string text => exact hstatement _ hfirst
  | _ => exact hstatement _ (hset _ _ (hentry _ hfirst) (lacks_string _))

theorem lacks_enumStatements (hc : Uninvented c) {known : List (String × Constants)}
    {enumeration : String} {s : EnumState} {members : List EnumMember} (hname : enumeration ≠ c)
    (h : ∀ m ∈ members, m.Lacks c) :
    Stmt.Lack c (enumStatements known enumeration s members).1 := by
  induction members generalizing s with
  | nil => exact .nil
  | cons m r ih =>
    obtain ⟨hm, hr⟩ := List.forall_mem_cons.mp h
    exact .cons (lacks_enumStatement hname (lacks_enumValue hc hname hm)) (ih hr)

theorem gives_enumeration (hc : Uninvented c) {isModule isExported isDeclared : Bool}
    {name : String} {members : List Member} (hname : name ≠ c)
    (h : Member.Lack c members) :
    (steps c).Gives (Stmt.Lacks c)
      (enumeration isModule isExported isDeclared name members) := by
  have hmembers : ∀ m ∈ members.filterMap (enumMember []), m.Lacks c := by
    intro m hm
    obtain ⟨x, hx, hm⟩ := List.mem_filterMap.mp hm
    exact lacks_enumMember (h.of_mem hx) hm
  have hbody : ∀ (known : List (String × Constants)) (s : EnumState), Lack c
      (((enumStatements known name s (members.filterMap (enumMember []))).1 ++
        [Stmt.returnStmt (some (.name name))]).map .stmt) := by
    intro known s
    exact .map_append (lacks_enumStatements hc hname hmembers)
      (.cons (.of_parts (.cons (lacks_name hname) .nil) rfl) .nil)
  have hobject : ∀ (known : List (String × Constants)) (s : EnumState) (isNew isPure : Bool),
      (Expr.call (.function none false false [.name name]
        ((enumStatements known name s (members.filterMap (enumMember []))).1 ++
          [.returnStmt (some (.name name))]))
        [if isNew then .object [] else .binary "||" (.name name) (.object [])] false
          isPure).Lacks c := by
    intro known s isNew isPure
    have hnew : (Expr.object []).Lacks c := .of_parts .nil rfl
    have hargument : (if isNew then Expr.object []
        else .binary "||" (.name name) (.object [])).Lacks c :=
      of_ite (P := Expr.Lacks c) hnew
        (.of_parts (.cons (lacks_name hname) (.cons hnew .nil)) rfl)
    exact .of_parts (.cons (.of_parts
      (.cons (lacks_name hname) (hbody known s)) rfl) (.cons hargument .nil)) rfl
  refine (steps c).bind gives_get fun s _ =>
    (steps c).bind (gives_modify fun _ hs => ⟨hs.style, hs.runtime⟩) fun _ _ => ?_
  split
  · exact (steps c).pure (.of_parts (.cons (.of_parts
      (.cons (lacks_name hname) (.cons (hobject _ _ _ _) .nil)) rfl) .nil) rfl)
  · have hs : ∀ kind value, value.Lacks c →
        (Stmt.declaration kind [.initialized (.name name) value]).Lacks c :=
      fun kind value hvalue => .of_parts (.cons (.of_parts
        (.cons (lacks_name hname) (.cons hvalue .nil)) rfl) .nil) rfl
    exact (steps c).pure (of_ite (P := Stmt.Lacks c)
      (.of_parts (.cons (hs _ _ (hobject _ _ _ _)) .nil) rfl)
      (hs _ _ (hobject _ _ _ _)))

theorem gives_onItem (hc : Uninvented c) (isModule : Bool) (declared : List String) {s : Stmt}
    (h : s.Lacks c) : (steps c).Gives (Stmt.Lack c) (onItem isModule declared s) := by
  induction s using onItem.induct with
  | case1 name members =>
    exact (steps c).bind (gives_enumeration hc (fun heq => h.own (heq ▸ .head _)) h.parts)
      fun _ hs => (steps c).pure (.cons hs .nil)
  | case2 name members =>
    have h := h.parts _ (.head _)
    exact (steps c).bind (gives_enumeration hc (fun heq => h.own (heq ▸ .head _)) h.parts)
      fun _ hs => (steps c).pure (.cons hs .nil)
  | case3 cs inner ih =>
    exact (steps c).bind (ih (h.parts _ (.head _))) fun ss hss => (steps c).pure
      (.map_map fun s hs => .of_parts (.cons (Lack.of_mem hss hs) .nil) rfl)
  | case4 => exact (steps c).pure .nil
  | case5 => exact (steps c).pure (of_ite (P := Stmt.Lack c) (.cons h .nil) .nil)
  | case6 s h1 h2 h3 h4 h5 =>
    rw [onItem.eq_6 isModule declared s h1 h2 h3 h4 h5]
    exact (steps c).pure (.cons h .nil)

theorem keepsOut_rebuild (hc : Uninvented c) : KeepsOut (steps c) c Lowering.rebuild where
  expr _ h := gives_onMarkup hc h
  member _ h := gives_onMember h
  stmt _ h := (steps c).pure h
  item isModule declared _ h := gives_onItem hc isModule declared h
  binding _ _ h := h

/-! ## Namespaces -/

theorem lacks_expression {e : Expr} (h : e.Lacks c) : (Stmt.expression e).Lacks c :=
  .of_parts (.cons h .nil) rfl

theorem lacks_setMember {object n : String} (hobject : object ≠ c) (hn : n ≠ c) :
    (setMember object n).Lacks c :=
  .of_parts (.cons (.of_parts (.cons (lacks_name hobject) .nil) rfl)
    (.cons (lacks_name hn) .nil)) rfl

theorem lacks_exportedVariable {object : String} {e : Expr} (hobject : object ≠ c)
    (h : e.Lacks c) : (exportedVariable object e).Lacks c := by
  unfold exportedVariable
  split
  · obtain ⟨hn, hvalue⟩ := List.forall_mem_cons.mp h.parts
    exact .of_parts (.cons hn (.cons (.of_parts
      (.cons (.of_parts (.cons (lacks_name hobject) .nil) rfl) hvalue) rfl) .nil)) rfl
  · exact h

theorem lack_exportedFrom {object : String} {s : Stmt} (hobject : object ≠ c) (h : s.Lacks c) :
    Stmt.Lack c (exportedFrom object s) := by
  have hset : ∀ n ∈ s.declared, (setMember object n).Lacks c := fun n hn =>
    lacks_setMember hobject fun heq => h.names.declared (heq ▸ hn)
  unfold exportedFrom
  split
  · rename_i kind ds
    split
    · exact .cons (.of_parts
        (.map_map fun e he => lacks_exportedVariable hobject (h.parts.of_mem he)) rfl) .nil
    · have hsets : Expr.Lack c ((boundOfAll ds).map (setMember object)) := .map_map hset
      split
      · exact .cons h .nil
      · rename_i e heq
        rw [heq] at hsets
        exact .cons h (.cons (lacks_expression (hsets _ (.head _))) .nil)
      · exact .cons h (.cons (lacks_expression (.of_parts hsets rfl)) .nil)
  · exact .cons h (.map_map fun n hn => lacks_expression (hset n hn))

theorem lack_commentFirst (cs : List Comment) {ss : List Stmt} (h : Stmt.Lack c ss) :
    Stmt.Lack c (commentFirst cs ss) := by
  cases ss with
  | nil => exact .nil
  | cons s r =>
    obtain ⟨hs, hr⟩ := List.forall_mem_cons.mp h
    exact of_ite (P := Stmt.Lack c) h (.cons (.of_parts (.cons hs .nil) rfl) hr)

theorem lack_commentLast (cs : List Comment) {ss : List Stmt} (h : Stmt.Lack c ss) :
    Stmt.Lack c (commentLast cs ss) := by
  induction ss with
  | nil => exact .nil
  | cons s r ih =>
    obtain ⟨hs, hr⟩ := List.forall_mem_cons.mp h
    cases r with
    | nil =>
      exact of_ite (P := Stmt.Lack c) h (.cons (.of_parts (.cons hs .nil) rfl) .nil)
    | cons s' r => exact .cons hs (ih hr)

theorem lack_namespaceStatements {isExported isDeclared : Bool} {parent : Option String}
    {name object : String} {body : List Stmt} (hparent : ∀ p, parent = some p → p ≠ c)
    (hname : name ≠ c) (hobject : object ≠ c) (hbody : Stmt.Lack c body) :
    Stmt.Lack c (namespaceStatements isExported isDeclared parent name object body) := by
  have hopening : (Stmt.declaration .block [.name name]).Lacks c :=
    .of_parts (.cons (lacks_name hname) .nil) rfl
  have hfn : (Expr.paren (.function none false false [.name object] body)).Lacks c :=
    .of_parts (.cons (.of_parts
      (.cons (lacks_name hobject) hbody) rfl) .nil) rfl
  have hempty : (Expr.object []).Lacks c := .of_parts .nil rfl
  have hassign : ∀ target value : Expr, target.Lacks c → value.Lacks c →
      (Expr.assign "=" target value).Lacks c := fun target value htarget hvalue =>
    .of_parts (.cons htarget (.cons hvalue .nil)) rfl
  have helse : ∀ first second : Expr, first.Lacks c → second.Lacks c →
      (Expr.binary "||" first second).Lacks c := fun first second hfirst hsecond =>
    .of_parts (.cons hfirst (.cons hsecond .nil)) rfl
  refine .map_append ?_ (.cons (lacks_expression (.of_parts
    (.cons hfn (.cons ?_ .nil)) rfl)) .nil)
  · exact of_ite (P := Stmt.Lack c) .nil (.cons (of_ite (P := Stmt.Lacks c)
      (.of_parts (.cons hopening .nil) rfl) hopening) .nil)
  · cases parent with
    | none => exact helse _ _ (lacks_name hname) (hassign _ _ (lacks_name hname) hempty)
    | some p =>
      have hmember : (Expr.member (.name p) name false).Lacks c :=
        .of_parts (.cons (lacks_name (hparent p rfl)) .nil) rfl
      exact helse _ _ (lacks_name hname) (hassign _ _ (lacks_name hname)
        (helse _ _ hmember (hassign _ _ hmember hempty)))

/-- The object that is filled, if any, does not have the name. -/
def Fills (c : String) (object : Option String) : Prop := ∀ p, object = some p → p ≠ c

theorem gives_namespaces (hc : Uninvented c) (object : Option String) (declared : List String)
    (ss : List Stmt) : Fills c object → Stmt.Lack c ss →
      (steps c).Gives (Stmt.Lack c) (namespaces object declared ss) := by
  refine namespaces.induct
    (fun object declared ss => Fills c object → Stmt.Lack c ss →
      (steps c).Gives (Stmt.Lack c) (namespaces object declared ss))
    (fun object declared isExported cs s => Fills c object → s.Lacks c →
      (steps c).Gives (Stmt.Lack c) (namespaceItem object declared isExported cs s))
    ?_ ?_ ?_ ?_ ?_ ?_ ?_ ?_ ?_ ?_ ?_ ?_ object declared ss
  · -- comments
    intro object declared isExported cs more s ih hobject h
    exact ih hobject (h.parts _ (.head _))
  · -- exported: a namespace, and anything else inside of a namespace and outside
    intro object declared isExported cs name loose body ih hobject h
    exact ih hobject (h.parts _ (.head _))
  · intro declared isExported cs s hs object hobject h
    rw [namespaceItem.eq_3 declared isExported cs s object hs]
    exact (steps c).pure (lack_commentFirst cs
      (lack_exportedFrom (hobject object rfl) (h.parts _ (.head _))))
  · intro declared isExported cs s hs _ h
    rw [namespaceItem.eq_4 declared isExported cs s hs]
    exact (steps c).pure (lack_commentFirst cs (.cons h .nil))
  · -- a namespace, without values and with them
    intro object declared isExported cs name loose body hbody _ _
    rw [namespaceItem, if_pos hbody]
    exact (steps c).pure .nil
  · intro object declared isExported cs name loose body hbody ih hobject h
    have hname : name ≠ c := fun heq => h.own (heq ▸ .head _)
    have hparent : Fills c (if isExported = true then object else none) :=
      of_ite (P := Fills c) hobject nofun
    rw [namespaceItem, if_neg hbody]
    exact (steps c).bind (gives_fresh hc name) fun own hown =>
      (steps c).bind (ih own (fun p hp => Option.some.inj hp ▸ hown) h.parts) fun _ hinner =>
        (steps c).pure (lack_commentLast cs
          (lack_namespaceStatements hparent hname hown hinner))
  · -- a name for a member of a namespace
    intro declared isExported cs exported name target _ h
    exact (steps c).pure (lack_commentFirst cs (.cons h .nil))
  · intro declared isExported cs exported name target object hobject h
    have hname : name ≠ c := fun heq => h.own (heq ▸ .head _)
    have hvariable : (Stmt.declaration .var [.initialized (.name name) target]).Lacks c :=
      .of_parts (.cons (.of_parts
        (.cons (lacks_name hname) h.parts) rfl) .nil) rfl
    exact (steps c).pure (lack_commentFirst cs (.cons hvariable (of_ite (P := Stmt.Lack c)
      (.cons (lacks_expression (lacks_setMember (hobject object rfl) hname)) .nil) .nil)))
  · -- other statements
    intro object declared isExported cs names source attributes _ h
    exact (steps c).pure (of_ite (P := Stmt.Lack c) .nil (lack_commentFirst cs (.cons h .nil)))
  · intro object declared isExported cs s h1 h2 h3 h4 h5 _ h
    rw [namespaceItem.eq_9 object declared isExported cs s h1 h2 h3 h4 h5]
    exact (steps c).pure (lack_commentFirst cs (.cons h .nil))
  · -- lists
    intro object declared _ _
    exact (steps c).pure .nil
  · intro object declared s r ihs ihr hobject h
    obtain ⟨hs, hr⟩ := List.forall_mem_cons.mp h
    exact (steps c).bind (ihs hobject hs) fun _ hhere => (steps c).bind (ihr hobject hr)
      fun _ hrest => (steps c).pure (.map_append hhere hrest)

theorem gives_items (hc : Uninvented c) (p : Pragmas) {items : Module} (h : Stmt.Lack c items) :
    (steps c).Gives (Stmt.Lack c) (Lowering.items p items) := by
  have hitems : (steps c).Gives (Stmt.Lack c) (do
      Lowering.rebuild.onModule (← onNamespaces items)) := by
    refine (steps c).bind ?_ fun _ hlowered => (keepsOut_rebuild hc).onModule hlowered
    have hlowered := gives_namespaces hc none [] items nofun h
    unfold onNamespaces
    split
    · exact (steps c).bind (gives_report _ _) fun _ _ => hlowered
    · exact hlowered
  unfold Lowering.items
  split
  · exact (steps c).bind (gives_report _ _) fun _ _ => hitems
  · exact hitems

/-! ## Imports -/

theorem lack_withoutUnusedAliases (fuel : Nat) {items : List Stmt} (h : Stmt.Lack c items) :
    Stmt.Lack c (withoutUnusedAliases fuel items) := by
  induction fuel generalizing items with
  | zero => exact h
  | succ fuel ih =>
    rw [withoutUnusedAliases]
    split
    · exact h
    · exact ih (.subset h fun _ hs => (List.mem_filter.mp hs).1)

theorem lacks_settlingItem {settling : Settling} {s t : Stmt} (h : s.Lacks c)
    (ht : (settling.item s).1 = some t) : t.Lacks c := by
  unfold Settling.item at ht
  split at ht
  · obtain rfl := Option.some.inj ht
    exact .of_parts .nil rfl
  · split at ht
    · cases ht
    · obtain rfl := Option.some.inj ht
      refine .intro (fun hmem => h.own ?_) .nil
      obtain ⟨b, hb, rfl⟩ := List.mem_map.mp hmem
      exact List.mem_map_of_mem (List.mem_filter.mp hb).1
  · obtain rfl := Option.some.inj ht
    exact h
  · rename_i exported name target
    have hname : name ≠ c := fun heq => h.own (heq ▸ .head _)
    have hvariable : (Stmt.declaration .var [.initialized (.name name) target]).Lacks c :=
      .of_parts (.cons (.of_parts
        (.cons (lacks_name hname) h.parts) rfl) .nil) rfl
    dsimp only at ht
    split at ht
    · obtain rfl := Option.some.inj ht
      exact .of_parts (.cons hvariable .nil) rfl
    · obtain rfl := Option.some.inj ht
      exact hvariable
  · obtain rfl := Option.some.inj ht
    exact h
  · dsimp only at ht
    split at ht
    · cases ht
    · obtain rfl := Option.some.inj ht
      exact .of_parts .nil rfl
  · obtain rfl := Option.some.inj ht
    exact h
  · obtain rfl := Option.some.inj ht
    exact h
  · dsimp only at ht
    split at ht
    · cases ht
    · obtain rfl := Option.some.inj ht
      exact h
  · obtain rfl := Option.some.inj ht
    exact h
  · cases ht
  · obtain rfl := Option.some.inj ht
    exact h

theorem lacks_commentedItem {settling : Settling} {s t : Stmt} (h : s.Lacks c)
    (ht : (settling.commentedItem s).1 = some t) : t.Lacks c := by
  unfold Settling.commentedItem at ht
  split at ht
  · obtain ⟨inner, hinner, rfl⟩ := Option.map_eq_some_iff.mp ht
    exact .of_parts (.cons (lacks_settlingItem (h.parts _ (.head _)) hinner) .nil) rfl
  · exact lacks_settlingItem h ht

theorem lack_settle (markupNames : List String) {items : List Stmt} (h : Stmt.Lack c items) :
    Stmt.Lack c (settle markupNames items) := by
  have hitems := lack_withoutUnusedAliases items.length h
  have hkept : ∀ settling : Settling, Stmt.Lack c
      (((withoutUnusedAliases items.length items).map settling.commentedItem).filterMap (·.1)) := by
    intro settling
    refine List.forall_mem_map.mpr fun t ht => ?_
    obtain ⟨found, hfound, ht⟩ := List.mem_filterMap.mp ht
    obtain ⟨s, hs, rfl⟩ := List.mem_map.mp hfound
    exact lacks_commentedItem (hitems.of_mem hs) ht
  exact of_ite (P := Stmt.Lack c)
    (.map_append (hkept _) (.cons (.of_parts .nil rfl) .nil)) (hkept _)

theorem lack_insertImports {added items : List Stmt} (hadded : Stmt.Lack c added)
    (h : Stmt.Lack c items) : Stmt.Lack c (insertImports added items) := by
  have hrest : Stmt.Lack c (items.dropWhile isHead) := .subset h (List.dropWhile_subset _)
  exact .map_append (.map_append (.map_append (.subset h (List.takeWhile_subset _))
    (.subset hrest (List.takeWhile_subset _))) hadded) (.subset hrest (List.dropWhile_subset _))

theorem lacks_runtimeImport {e : String × List (String × String)} (h : ∀ name ∈ e.2, name.2 ≠ c) :
    (runtimeImport e).Lacks c := by
  refine .intro (fun hmem => ?_) .nil
  obtain ⟨b, hb, heq⟩ := List.mem_map.mp hmem
  obtain ⟨name, hname, rfl⟩ := List.mem_map.mp hb
  exact h name hname heq

end Lowering

/-- The variables of a source, those among them that its comments name. -/
def Source.variables (source : Source) : List String :=
  Module.collect Node.variables source.items ++
    (Pragmas.ofComments source.pragmas).style.variables

/-- **A lowered module has no variables but those of its source and those that are invented.** -/
theorem lack_of_lower {c : String} (hc : Uninvented c) {source : Source} {items : Module}
    (h : c ∉ source.variables) (hlower : source.lower = .ok items) : Stmt.Lack c items := by
  have hsource : Stmt.Lack c source.items := by
    refine List.forall_mem_map.mpr fun s hs hmem => h (List.mem_append_left _ ?_)
    exact List.mem_flatMap.mpr ⟨s, hs, hmem⟩
  have hinitial : (Lowering.initial source.names
      (Pragmas.ofComments source.pragmas).style).Lacks c :=
    ⟨fun hmem => h (List.mem_append_right _ hmem), nofun⟩
  have hgives := Lowering.gives_items hc (Pragmas.ofComments source.pragmas) hsource _ hinitial
  simp only [Source.lower] at hlower
  split at hlower
  rename_i lowered s hrun
  have hlowered : Stmt.Lack c (lowered, s).1 ∧ (lowered, s).2.Lacks c := by
    rw [← hrun]
    exact hgives
  split at hlower
  · cases hlower
  · obtain rfl := Except.ok.inj hlower
    refine Lowering.lack_insertImports (.map_map fun e he => ?_) (Lowering.lack_settle _ hlowered.1)
    exact Lowering.lacks_runtimeImport (hlowered.2.runtime e he)

/-! ## The counter of the guards -/

namespace Lowering

/-- The stem of a name starts with no underscore. -/
theorem stem_ne_cons (base : String) (r : List Char) : (nameParts base).2.1 ≠ '_' :: r := by
  intro h
  have hstem := List.head?_dropWhile_not (· == '_') base.toList
  obtain ⟨rest, hrest⟩ : '_' :: r <+: base.toList.dropWhile (· == '_') := h ▸ List.take_prefix _ _
  rw [← hrest] at hstem
  simp at hstem

/-- A text with a number at its end ends in a digit. -/
theorem exists_digit_of_append_toString {s t : String} {n : Nat} (h : s ++ toString n = t) :
    ∃ d ∈ t.toList.getLast?, d.isDigit = true := by
  have hdigits : Nat.toDigits 10 n ≠ [] := Nat.toDigits_ne_nil
  have ht : t.toList = s.toList ++ Nat.toDigits 10 n := by
    rw [← h, String.toList_append]
    simp
  refine ⟨(Nat.toDigits 10 n).getLast hdigits, ?_, ?_⟩
  · rw [ht, List.getLast?_append, List.getLast?_eq_some_getLast hdigits]
    rfl
  · exact Nat.isDigit_of_mem_toDigits (by decide) (by decide) (List.getLast_mem hdigits)

theorem toList_counter : LoopGuard.counter.toList =
    ['_', '_', 'l', 'o', 'o', 'p', 'G', 'u', 'a', 'r', 'd'] := by decide

/-- An invented name has one underscore in front and no more, or it ends in a digit. -/
theorem newName_ne_counter (taken : List String) (base : String) :
    newName taken base ≠ LoopGuard.counter := by
  intro h
  unfold newName at h
  dsimp only at h
  split at h
  · have hlist := congrArg String.toList h
    rw [String.toList_append, String.toList_ofList, toList_counter] at hlist
    exact stem_ne_cons base ['l', 'o', 'o', 'p', 'G', 'u', 'a', 'r', 'd'] (by simpa using hlist)
  · obtain ⟨d, hd, hdigit⟩ := exists_digit_of_append_toString h
    rw [toList_counter] at hd
    obtain rfl : 'd' = d := Option.some.inj hd
    cases hdigit

end Lowering

theorem uninvented_counter : Uninvented LoopGuard.counter :=
  ⟨Lowering.newName_ne_counter, by decide⟩

end LivePreview.Script
