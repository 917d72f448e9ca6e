import LivePreview.Proofs.TreeParts
import LivePreview.Script.LoopGuard
/-!
# The checks in loops

`loopBodies` lists the bodies of all loops of a module, at any depth. A rebuild that changes bodies
does to this list what it does to each of them, if it adds no loop (`collect_change`), and it leaves
a tree alone whose bodies stay as they are (`change_eq_self`). Putting the checks in is such a
rebuild, and it counts the loops (`guardModule_eq`). So is taking the first statement out of every
body; since a check has no loop in it, that undoes the other one, but for the blocks around bodies
that were none (`unguarded_node`).
-/
namespace LivePreview.Script.LoopGuard

open Rebuild

/-- The body of a loop. -/
def bodyOf : Node → List Stmt
  | .stmt (.forLoop _ _ _ body) => [body]
  | .stmt (.forIn _ _ body) => [body]
  | .stmt (.forOf _ _ _ body) => [body]
  | .stmt (.whileLoop _ body) => [body]
  | .stmt (.doWhile body _) => [body]
  | _ => []

/-- The bodies of all loops of a module, at any depth, in the order of the source. -/
def loopBodies (items : Module) : List Stmt := Module.collect bodyOf items

/-! ## Changing the bodies -/

theorem plain_bodies {m : Type → Type} [Monad m] (f : Stmt → m Stmt) : Plain (bodies f) where
  item _ _ _ := rfl
  binding _ _ _ := rfl
  expr _ _ := rfl
  member _ _ := rfl
  stmt _ _ := rfl

/-- What becomes of nodes if the bodies of all loops change. -/
def change (h : Stmt → Stmt) : Maps := (bodies (m := Id) h).maps

/-- A node with its body changed if it is a loop. -/
def onNode (h : Stmt → Stmt) : Node → Node
  | .stmt s => .stmt (onBody (m := Id) h s)
  | n => n

variable {h : Stmt → Stmt}

theorem own_bodies (h : Stmt → Stmt) (n : Node) : (bodies (m := Id) h).own n = onNode h n := by
  cases n <;> rfl

theorem change_node (h : Stmt → Stmt) (n : Node) :
    (change h).node n = onNode h (n.mapParts (change h)) :=
  ((plain_bodies (m := Id) h).node_eq n).trans (own_bodies h _)

theorem onModule_bodies (h : Stmt → Stmt) (items : Module) :
    (bodies (m := Id) h).onModule items = items.map (change h).stmt :=
  (plain_bodies (m := Id) h).onModule_eq items

theorem change_stmt (h : Stmt → Stmt) (s : Stmt) :
    (change h).stmt s = onBody (m := Id) h (s.mapParts (change h)) :=
  (plain_bodies (m := Id) h).stmt_eq s

theorem bodyOf_onNode (n : Node) : bodyOf (onNode h n) = (bodyOf n).map h := by
  cases n with
  | stmt s => cases s <;> rfl
  | _ => rfl

theorem bodyOf_mapParts (f : Maps) (n : Node) : bodyOf (n.mapParts f) = (bodyOf n).map f.stmt := by
  cases n with
  | stmt s => cases s <;> rfl
  | _ => rfl

/-- What does not see the change of a body does not see the change of the loop either. -/
theorem flatMap_parts_onNode {α : Type} {F : Node → List α}
    (hF : ∀ b, F (.stmt (h b)) = F (.stmt b)) (n : Node) :
    (onNode h n).parts.flatMap F = n.parts.flatMap F := by
  cases n with
  | stmt s => cases s <;> simp [onNode, onBody, Node.parts, Stmt.parts, hF]
  | _ => rfl

/-- The bodies of the loops in a changed tree are the changed bodies, in their places, if the change
adds no loop and takes none away. -/
theorem collect_change (hh : ∀ b, Node.collect bodyOf (.stmt (h b)) = Node.collect bodyOf (.stmt b))
    (n : Node) : ((change h).node n).collect bodyOf =
      (n.collect bodyOf).map fun b => h ((change h).stmt b) := by
  induction n using Node.induction with
  | h n ih =>
    have hparts : (n.parts.map (change h).node).flatMap (Node.collect bodyOf) =
        (n.parts.flatMap (Node.collect bodyOf)).map fun b => h ((change h).stmt b) := by
      rw [List.flatMap_map, List.map_flatMap, List.flatMap_def, List.flatMap_def,
        List.map_congr_left ih]
    -- The loop's own body is changed behind its parts, which `hh` says is not seen in them.
    rw [change_node, Node.collect_eq, Node.collect_eq bodyOf n, flatMap_parts_onNode hh,
      Node.parts_mapParts, hparts, bodyOf_onNode, bodyOf_mapParts, List.map_map, List.map_append]
    rfl

/-- A tree stays as it is if the bodies of its loops do, and so does a tree without loops. -/
theorem change_eq_self {n : Node} (hn : ∀ b ∈ n.collect bodyOf, h b = b) :
    (change h).node n = n := by
  induction n using Node.induction with
  | h n ih =>
    rw [Node.collect_eq, List.forall_mem_append] at hn
    have hown : onNode h n = n := by
      cases n with
      | stmt s =>
        cases s with
        | forLoop | forIn | forOf | whileLoop | doWhile =>
          simp [onNode, onBody, hn.1 _ List.mem_cons_self]
        | _ => rfl
      | _ => rfl
    have hparts : ∀ p ∈ n.parts, (change h).node p = p := fun p hp =>
      ih p hp fun b hb => hn.2 b (List.mem_flatMap.mpr ⟨p, hp, hb⟩)
    rw [change_node, Node.mapParts_eq_self hparts, hown]

/-! ## Checks -/

theorem collect_check (limit : Nat) : Node.collect bodyOf (.stmt (check limit)) = [] := by
  simp [Node.collect_eq, check, bodyOf, Node.parts, Stmt.parts, Expr.parts]

theorem change_check (limit : Nat) : (change h).node (.stmt (check limit)) = .stmt (check limit) :=
  change_eq_self (by simp [collect_check])

theorem collect_bare (s : Stmt) :
    Node.collect bodyOf (.stmt s.bare) = Node.collect bodyOf (.stmt s) := by
  induction s using Stmt.bare.induct with
  | case1 cs s ih =>
    rw [Stmt.bare, ih, Node.collect_eq bodyOf (.stmt (.commented cs s))]
    simp [bodyOf, Node.parts, Stmt.parts]
  | case2 s hs => rw [Stmt.bare.eq_2 s hs]

theorem collect_block (ss : List Stmt) : Node.collect bodyOf (.stmt (.block ss)) =
    ss.flatMap fun s => Node.collect bodyOf (.stmt s) := by
  simp [Node.collect_eq bodyOf (.stmt (.block ss)), bodyOf, Node.parts, Stmt.parts,
    List.flatMap_map]

theorem collect_guardBody (limit : Nat) (b : Stmt) :
    Node.collect bodyOf (.stmt (guardBody limit b)) = Node.collect bodyOf (.stmt b) := by
  unfold guardBody
  split
  case h_1 ss hss => simp [← collect_bare b, hss, collect_block, collect_check]
  case h_2 => simp [collect_block, collect_check]

theorem counts_inject (limit : Nat) :
    Counts (bodies (inject limit)) (bodies (m := Id) (guardBody limit)) bodyOf where
  plain := plain_bodies _
  plainly := plain_bodies _
  expr e := by cases e <;> rfl
  member m := by cases m <;> rfl
  markup _ := rfl
  stmt s := by cases s <;> rfl

/-- The walk that counts does what the one without a count does, and counts the loops. -/
theorem guardModule_eq (limit : Nat) (items : Module) : guardModule limit items =
    ((bodies (m := Id) (guardBody limit)).onModule items, (loopBodies items).length) :=
  (counts_inject limit).onModule_eq items

/-! ## Counting the checks -/

/-- Whether a node is a check. -/
def isCheck (limit : Nat) : Node → Bool
  | .stmt (.ifThen (.binary ">" (.update "++" true (.name n)) (.number bound))
      (.throwStmt (.new (.name "Error") [.string message] false)) none) =>
    n == counter && bound == toString limit && message == notice
  | _ => false

theorem isCheck_eq_true {limit : Nat} {n : Node} :
    isCheck limit n = true ↔ n = .stmt (check limit) := by
  constructor
  · intro h
    unfold isCheck at h
    split at h
    · simp at h
      simp [check, h]
    · cases h
  · rintro rfl
    simp [isCheck, check]

/-- A node, if it is a check. -/
def checkOf (limit : Nat) (n : Node) : List Node := [n].filter (isCheck limit)

/-- The number of checks in a node, at any depth. -/
def checksIn (limit : Nat) (n : Node) : Nat := (n.collect (checkOf limit)).length

/-- The number of checks in a module, at any depth. -/
def checks (limit : Nat) (items : Module) : Nat := (Module.collect (checkOf limit) items).length

theorem length_checkOf (limit : Nat) (n : Node) :
    (checkOf limit n).length = if isCheck limit n then 1 else 0 := by
  cases h : isCheck limit n <;> simp [checkOf, h]

theorem checksIn_eq (limit : Nat) (n : Node) : checksIn limit n =
    (if isCheck limit n then 1 else 0) + total (checksIn limit) n.parts := by
  rw [checksIn, Node.length_collect, length_checkOf]
  rfl

/-- A check is a tree without loops, so none comes about by changing the bodies of loops. -/
theorem isCheck_change (limit : Nat)
    (hh : ∀ b, Node.collect bodyOf (.stmt (h b)) = Node.collect bodyOf (.stmt b)) (n : Node) :
    isCheck limit ((change h).node n) = isCheck limit n := by
  rw [Bool.eq_iff_iff, isCheck_eq_true, isCheck_eq_true]
  constructor
  · intro heq
    have hn : n.collect bodyOf = [] := by
      have hbodies := collect_change hh n
      rw [heq, collect_check] at hbodies
      exact List.map_eq_nil_iff.mp hbodies.symm
    rw [← heq]
    exact (change_eq_self (by simp [hn])).symm
  · rintro rfl
    exact change_check limit

theorem checksIn_block (limit : Nat) (ss : List Stmt) : checksIn limit (.stmt (.block ss)) =
    total (fun s => checksIn limit (.stmt s)) ss := by
  simp [checksIn_eq limit (.stmt (.block ss)), isCheck, Node.parts, Stmt.parts]

theorem checksIn_bare (limit : Nat) (s : Stmt) :
    checksIn limit (.stmt s.bare) = checksIn limit (.stmt s) := by
  induction s using Stmt.bare.induct with
  | case1 cs s ih =>
    rw [Stmt.bare, ih, checksIn_eq limit (.stmt (.commented cs s))]
    simp [isCheck, Node.parts, Stmt.parts]
  | case2 s hs => rw [Stmt.bare.eq_2 s hs]

theorem checksIn_check (limit : Nat) : checksIn limit (.stmt (check limit)) = 1 := by
  simp [checksIn_eq, isCheck, check, Node.parts, Stmt.parts, Expr.parts]

theorem checksIn_guardBody (limit : Nat) (b : Stmt) :
    checksIn limit (.stmt (guardBody limit b)) = checksIn limit (.stmt b) + 1 := by
  unfold guardBody
  split
  case h_1 ss hss =>
    rw [← checksIn_bare limit b, hss, checksIn_block, checksIn_block, total, checksIn_check,
      Nat.add_comm]
  case h_2 => simp [checksIn_block, checksIn_check, Nat.add_comm]

theorem total_eq_add {α : Type} {F G H : α → Nat} {xs : List α}
    (h : ∀ x ∈ xs, F x = G x + H x) : total F xs = total G xs + total H xs := by
  induction xs with
  | nil => rfl
  | cons x r ih =>
    obtain ⟨hx, hr⟩ := List.forall_mem_cons.mp h
    simp only [total, hx, ih hr]
    omega

theorem total_parts_onNode {F : Node → Nat} {d : Nat} (hF : ∀ b, F (.stmt (h b)) = F (.stmt b) + d)
    (n : Node) : total F (onNode h n).parts = total F n.parts + d * (bodyOf n).length := by
  cases n with
  | stmt s =>
    cases s <;> simp [onNode, onBody, Node.parts, Stmt.parts, hF, bodyOf] <;> omega
  | _ => rfl

/-- Each loop gets one check, on top of those that were there. -/
theorem checksIn_change (limit : Nat) (n : Node) :
    checksIn limit ((change (guardBody limit)).node n) =
      checksIn limit n + (n.collect bodyOf).length := by
  induction n using Node.induction with
  | h n ih =>
    have hown : isCheck limit ((change (guardBody limit)).node n) = isCheck limit n :=
      isCheck_change limit (collect_guardBody limit) n
    have hbodies : (bodyOf (n.mapParts (change (guardBody limit)))).length = (bodyOf n).length := by
      rw [bodyOf_mapParts, List.length_map]
    have hparts : total (checksIn limit) (n.parts.map (change (guardBody limit)).node) =
        total (checksIn limit) n.parts + total (fun p => (p.collect bodyOf).length) n.parts := by
      rw [total_map]
      exact total_eq_add ih
    rw [checksIn_eq, hown, checksIn_eq limit n, change_node,
      total_parts_onNode (checksIn_guardBody limit), Node.parts_mapParts, hbodies, hparts,
      Node.length_collect]
    omega

/-! ## Taking the checks out -/

/-- A body without its first statement. -/
def dropFirst : Stmt → Stmt
  | .block ss => .block ss.tail
  | s => s

/-- The statements of a block, also under comments. -/
def block? : Stmt → Option (List Stmt)
  | .block ss => some ss
  | .commented _ s => block? s
  | _ => none

/-- A body as a block. Comments in front of a block are not part of it. -/
def asBlock (body : Stmt) : Stmt := .block ((block? body).getD [body])

/-- A module without the first statements of the bodies of its loops. -/
def unguarded (items : Module) : Module := (bodies (m := Id) dropFirst).onModule items

/-- A module with blocks for the bodies of all its loops. -/
def braced (items : Module) : Module := (bodies (m := Id) asBlock).onModule items

theorem block?_eq_some {s : Stmt} {ss : List Stmt} :
    block? s = some ss ↔ s.bare = .block ss := by
  induction s using block?.induct with
  | case1 body => simp [block?, Stmt.bare]
  | case2 cs s ih => simpa [block?, Stmt.bare] using ih
  | case3 s hblock hcommented =>
    rw [block?.eq_3 s hblock hcommented, Stmt.bare.eq_2 s hcommented]
    exact ⟨fun h => (nomatch h), fun h => absurd h (hblock ss)⟩

theorem guardBody_eq (limit : Nat) (b : Stmt) :
    guardBody limit b = .block (check limit :: (block? b).getD [b]) := by
  unfold guardBody
  split
  case h_1 ss hb =>
    rw [block?_eq_some.mpr hb]
    rfl
  case h_2 hb =>
    cases hs : block? b with
    | some ss => exact absurd (block?_eq_some.mp hs) (hb ss)
    | none => rfl

theorem dropFirst_guardBody (limit : Nat) (b : Stmt) :
    dropFirst (guardBody limit b) = asBlock b := by
  rw [guardBody_eq]
  rfl

/-- What is done to the body of a loop behind its parts may as well be done before. -/
theorem mapParts_onNode {f : Maps} (hf : ∀ b, f.stmt (h b) = h (f.stmt b)) (n : Node) :
    (onNode h n).mapParts f = onNode h (n.mapParts f) := by
  cases n with
  | stmt s => cases s <;> simp [onNode, onBody, Node.mapParts, Stmt.mapParts, hf]
  | _ => rfl

theorem onNode_onNode {k : Stmt → Stmt} (n : Node) :
    onNode k (onNode h n) = onNode (fun b => k (h b)) n := by
  cases n with
  | stmt s => cases s <;> rfl
  | _ => rfl

theorem block?_change (s : Stmt) :
    block? ((change h).stmt s) = (block? s).map fun ss => ss.map (change h).stmt := by
  induction s using block?.induct with
  | case1 ss =>
    rw [change_stmt]
    rfl
  | case2 cs s ih =>
    rw [change_stmt]
    exact ih
  | case3 s hblock hcommented =>
    rw [change_stmt]
    cases s with
    | block ss => exact absurd rfl (hblock ss)
    | commented cs s => exact absurd rfl (hcommented cs s)
    | _ => rfl

/-- The loops in a body may be changed before or behind the check is put in. -/
theorem change_guardBody (limit : Nat) (b : Stmt) :
    (change h).stmt (guardBody limit b) = guardBody limit ((change h).stmt b) := by
  have hcheck : (change h).stmt (check limit) = check limit := Node.stmt.inj (change_check limit)
  have hblock : ∀ ss, (change h).stmt (.block ss) = .block (ss.map (change h).stmt) := by
    intro ss
    rw [change_stmt]
    rfl
  rw [guardBody_eq, guardBody_eq, hblock, block?_change, List.map_cons, hcheck]
  cases block? b <;> rfl

/-- Taking the first statement out of every body undoes what guarding did, but for the blocks. -/
theorem unguarded_node (limit : Nat) (n : Node) :
    (change dropFirst).node ((change (guardBody limit)).node n) = (change asBlock).node n := by
  refine (plain_bodies _).node_node (plain_bodies _) (plain_bodies _) (fun n => ?_) (fun n => ?_) n
  · -- The first statement is a check, and it stays one when the loops behind it are undone.
    rw [own_bodies, own_bodies]
    exact mapParts_onNode (change_guardBody limit) n
  · rw [own_bodies, own_bodies, own_bodies, onNode_onNode]
    simp only [dropFirst_guardBody]

theorem loopBodies_guardModule (limit : Nat) (items : Module) :
    loopBodies (guardModule limit items).1 =
      (loopBodies items).map fun b => guardBody limit ((change (guardBody limit)).stmt b) := by
  rw [guardModule_eq, onModule_bodies, loopBodies, loopBodies, Module.collect, Module.collect,
    List.flatMap_map, List.map_flatMap]
  exact congrArg (List.flatMap · items)
    (funext fun s => collect_change (collect_guardBody limit) (.stmt s))

theorem checks_guardModule (limit : Nat) (items : Module) :
    checks limit (guardModule limit items).1 = checks limit items + (loopBodies items).length := by
  rw [guardModule_eq, onModule_bodies, checks, checks, loopBodies, Module.collect, Module.collect,
    Module.collect, length_flatMap_eq, length_flatMap_eq, length_flatMap_eq, total_map]
  exact total_eq_add fun s _ => checksIn_change limit (.stmt s)

theorem unguarded_guardModule (limit : Nat) (items : Module) :
    unguarded (guardModule limit items).1 = braced items := by
  rw [guardModule_eq, unguarded, braced, onModule_bodies, onModule_bodies, onModule_bodies,
    List.map_map]
  exact List.map_congr_left fun s _ => Node.stmt.inj (unguarded_node limit (.stmt s))

/-- A module whose loops all have blocks has them already. -/
theorem braced_eq_self {items : Module} (h : ∀ body ∈ loopBodies items, ∃ ss, body = .block ss) :
    braced items = items := by
  have hsame : ∀ s ∈ items, (change asBlock).stmt s = s := by
    intro s hs
    refine Node.stmt.inj (change_eq_self (n := .stmt s) fun b hb => ?_)
    obtain ⟨ss, rfl⟩ := h b (List.mem_flatMap.mpr ⟨s, hs, hb⟩)
    rfl
  rw [braced, onModule_bodies]
  exact (List.map_congr_left hsame).trans (List.map_id' items)

/-- **Every loop is guarded, once, and nothing else changes.** In a guarded module the body of every
loop is a block that starts with a check. There are as many loops as before, as many new checks, and
that is the number the walk counted. Without the first statements of the bodies it is the module it
was, with blocks around the bodies that were none; if there were none of these, it is the module
itself. -/
theorem guardModule_guards_each_loop_once (limit : Nat) (items : Module) :
    (∀ body ∈ loopBodies (guardModule limit items).1,
        ∃ rest, body = .block (check limit :: rest)) ∧
      (loopBodies (guardModule limit items).1).length = (loopBodies items).length ∧
      (guardModule limit items).2 = (loopBodies items).length ∧
      checks limit (guardModule limit items).1 = checks limit items + (loopBodies items).length ∧
      unguarded (guardModule limit items).1 = braced items ∧
      ((∀ body ∈ loopBodies items, ∃ ss, body = .block ss) → braced items = items) := by
  refine ⟨?_, ?_, ?_, checks_guardModule limit items, unguarded_guardModule limit items,
    braced_eq_self⟩
  · intro body hbody
    obtain ⟨b, -, rfl⟩ := List.mem_map.mp (loopBodies_guardModule limit items ▸ hbody)
    exact ⟨_, guardBody_eq limit _⟩
  · rw [loopBodies_guardModule, List.length_map]
  · rw [guardModule_eq]

/-- A body that is no block becomes one. -/
example : guardModule 10 [.whileLoop (.name "x") (.expression (.update "--" false (.name "x")))] =
    ([.whileLoop (.name "x")
      (.block [check 10, .expression (.update "--" false (.name "x"))])], 1) := rfl

end LivePreview.Script.LoopGuard
