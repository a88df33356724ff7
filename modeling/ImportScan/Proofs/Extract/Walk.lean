import Mathlib.Data.List.Forall2
import ImportScan.Cst.Extract
import ImportScan.Estree.Extract

/-! # Walks as recursions

    A walk works off a stack.  It comes to the nodes in the order in which a recursion over the
    tree lists them, and so its records are those that the recursion finds.

    * `Branching.induct`     : induction from children to parents.
    * `Walk.collect`         : the records of nodes in a list, one node after the other.
    * `Walk.drain_eq`        : a walk collects the records of the nodes in preorder.
    * `Walk.first?_eq`       : a walk that looks for an answer takes the first one in preorder.
    * `Cst.walk`             : the records of a concrete syntax tree, by recursion.
    * `Estree.walkNode`      : the records of an ESTree, by recursion.
    * `Cst.extract_eq_walk`, `Estree.extract_eq_walk` : the two are what the walk finds.
-/

namespace ImportScan

/-- What holds of a node if it holds of its children holds of every node. -/
theorem Branching.induct {α : Type} (b : Branching α) {P : α → Prop}
    (h : ∀ n, (∀ c ∈ b.children n, P c) → P n) (n : α) : P n := by
  -- a child has fewer nodes below it than its parent
  induction hn : (b.preorder n).length using Nat.strongRecOn generalizing n with
  | ind k ih =>
    subst hn
    refine h n fun c hc => ih _ ?_ c rfl
    have hbelow : (b.preorder c).length ≤ ((b.children n).flatMap b.preorder).length := by
      rw [List.flatMap_def]
      exact (List.sublist_flatten_of_mem (List.mem_map_of_mem hc)).length_le
    rw [b.preorder_eq n, List.length_cons]
    exact Nat.lt_succ_of_le hbelow

/-! ## The nodes that a walk comes to -/

namespace Walk

variable {α : Type} {b : Branching α} {visit : α → Except Fault (Option Import)}

/-- The records of nodes one after the other. -/
def collect (visit : α → Except Fault (Option Import)) : List α → Except Fault (List Import)
  | [] => .ok []
  | n :: ns => do
    let own ← visit n
    let others ← collect visit ns
    return own.toList ++ others

/-- After a visit the children of a node stand above the rest of the stack, as they follow the
    node in preorder. -/
theorem flatMap_pushAll (n : α) (rest : List α) :
    (n :: rest).flatMap b.preorder = n :: (pushAll (b.children n) rest).flatMap b.preorder := by
  rw [pushAll_eq, List.flatMap_append, List.flatMap_cons, b.preorder_eq n, List.cons_append]

theorem collect_append (ms ns : List α) :
    collect visit (ms ++ ns) = do
      let first ← collect visit ms
      let others ← collect visit ns
      return first ++ others := by
  induction ms with
  | nil =>
    rw [List.nil_append, collect]
    exact (bind_pure (collect visit ns)).symm
  | cons n ms ih =>
    simp only [List.cons_append, collect, ih, bind_assoc, pure_bind, List.append_assoc]

/-- Nodes that give the same one by one give the same records. -/
theorem collect_eq_collect {β : Type} {visit' : β → Except Fault (Option Import)} {ms : List α}
    {ns : List β} (h : List.Forall₂ (fun m n => visit m = visit' n) ms ns) :
    collect visit ms = collect visit' ns := by
  induction h with
  | nil => rfl
  | cons hfirst _ ih => rw [collect, collect, hfirst, ih]

/-- A walk finds what it had found and then the records of all nodes on the stack and below
    them, parents before children. -/
theorem drain_eq (found : List Import) (stack : List α) :
    drain b visit found stack = do
      return found ++ (← collect visit (stack.flatMap b.preorder)) := by
  fun_induction drain b visit found stack with
  | case1 found =>
    simp only [List.flatMap_nil, collect]
    exact congrArg Except.ok (List.append_nil found).symm
  | case2 found n rest ih =>
    rw [flatMap_pushAll, collect]
    simp only [ih, bind_assoc, pure_bind, List.append_assoc]

/-- A walk that looks for an answer stops at the first node that gives one, of all nodes on the
    stack and below them, parents before children. -/
theorem first?_eq {β : Type} (look : α → Option β) (stack : List α) :
    first? b look stack = (stack.flatMap b.preorder).findSome? look := by
  fun_induction first? b look stack with
  | case1 => rfl
  | case2 n rest answer hanswer => rw [flatMap_pushAll, List.findSome?_cons, hanswer]
  | case3 n rest hnone ih => rw [flatMap_pushAll, List.findSome?_cons, hnone, ih]

end Walk

/-! ## Concrete syntax trees -/

namespace Cst

mutual

/-- The records of a node and everything below it, parents before children. -/
def walk (o : Origin) (bytes : Bytes) (names : List Text) : Node → Except Fault (List Import)
  | .mk info children => do
    let own ← visit o bytes names (.mk info children)
    let below ← walkAll o bytes names children
    return own.toList ++ below

/-- The records of nodes one after the other. -/
def walkAll (o : Origin) (bytes : Bytes) (names : List Text) :
    List Node → Except Fault (List Import)
  | [] => .ok []
  | n :: ns => do
    let first ← walk o bytes names n
    let rest ← walkAll o bytes names ns
    return first ++ rest

end

variable {o : Origin} {bytes : Bytes} {names : List Text}

mutual

theorem walk_eq_collect : ∀ n : Node,
    walk o bytes names n = Walk.collect (visit o bytes names) n.preorder
  | .mk info children => by
    rw [walk, Node.preorder, Walk.collect, walkAll_eq_collect children]

theorem walkAll_eq_collect : ∀ ns : List Node,
    walkAll o bytes names ns = Walk.collect (visit o bytes names) (Node.preorderAll ns)
  | [] => by rw [walkAll, Node.preorderAll, Walk.collect]
  | n :: ns => by
    rw [walkAll, Node.preorderAll, Walk.collect_append, walk_eq_collect n, walkAll_eq_collect ns]

end

theorem extract_eq_collect (root : Node) :
    extract o bytes root = (do
      Walk.collect (visit o bytes (← macroBindings bytes root)) root.preorder) := by
  rw [extract]
  refine bind_congr fun names => ?_
  rw [Walk.drain_eq, List.flatMap_singleton]
  exact bind_pure (Walk.collect (visit o bytes names) root.preorder)

/-- The imports of a tree are those that the recursion finds. -/
theorem extract_eq_walk (root : Node) :
    extract o bytes root = (do walk o bytes (← macroBindings bytes root) root) := by
  simp only [extract_eq_collect, walk_eq_collect]

end Cst

/-! ## ESTrees -/

namespace Estree

mutual

/-- The records of a value in a field: of a node, or of the nodes in a list. -/
def walkValue (o : Origin) (names : List Datum) : Datum → Except Fault (List Import)
  | .map entries => if isNode (.map entries) then walkNode o names entries else .ok []
  | .list items => walkItems o names items
  | _ => .ok []

/-- The records of the nodes among the items of a list. -/
def walkItems (o : Origin) (names : List Datum) : List Datum → Except Fault (List Import)
  | [] => .ok []
  | .map entries :: rest => do
    let first ← if isNode (.map entries) then walkNode o names entries else .ok []
    let others ← walkItems o names rest
    return first ++ others
  | _ :: rest => walkItems o names rest

/-- The records of a node and of everything in its fields. -/
def walkNode (o : Origin) (names : List Datum) (entries : List (Datum × Datum)) :
    Except Fault (List Import) := do
  let own ← visit o names (.map entries)
  let below ← walkFields o names entries
  return own.toList ++ below

/-- The records of fields one after the other. -/
def walkFields (o : Origin) (names : List Datum) :
    List (Datum × Datum) → Except Fault (List Import)
  | [] => .ok []
  | (_, value) :: rest => do
    let first ← walkValue o names value
    let others ← walkFields o names rest
    return first ++ others

end

variable {o : Origin} {names : List Datum}

mutual

theorem walkValue_eq_collect (d : Datum) :
    walkValue o names d = Walk.collect (visit o names) (preorderValue d) := by
  cases d with
  | map entries =>
    rw [walkValue, preorderValue]
    split
    · rw [walkNode_eq_collect entries, preorder]
    · rw [Walk.collect]
  | list items => rw [walkValue, preorderValue, walkItems_eq_collect items]
  | _ => simp only [walkValue, preorderValue, Walk.collect]

theorem walkItems_eq_collect (items : List Datum) :
    walkItems o names items = Walk.collect (visit o names) (preorderItems items) := by
  cases items with
  | nil => rw [walkItems, preorderItems, Walk.collect]
  | cons d rest =>
    rw [preorderItems, Walk.collect_append, ← walkItems_eq_collect rest]
    cases d with
    | map entries =>
      rw [walkItems]
      split
      · rw [walkNode_eq_collect entries]
      · rw [Walk.collect]
    | _ =>
      -- no other datum is a node
      simp only [walkItems, isNode, Datum.field, Bool.false_eq_true, if_false, Walk.collect]
      exact (bind_pure (walkItems o names rest)).symm

theorem walkNode_eq_collect (entries : List (Datum × Datum)) :
    walkNode o names entries = Walk.collect (visit o names) (preorder (.map entries)) := by
  rw [walkNode, preorder, Walk.collect, walkFields_eq_collect entries]

theorem walkFields_eq_collect : ∀ entries : List (Datum × Datum),
    walkFields o names entries = Walk.collect (visit o names) (preorderFields entries)
  | [] => by rw [walkFields, preorderFields, Walk.collect]
  | (key, value) :: rest => by
    rw [walkFields, preorderFields, Walk.collect_append, walkValue_eq_collect value,
      walkFields_eq_collect rest]

end

theorem extract_eq_collect (entries : List (Datum × Datum)) :
    extract o (.map entries) = (do
      let names ← macroBindings (.map entries)
      Walk.collect (visit o names) (preorder (.map entries))) := by
  rw [extract]
  refine bind_congr fun names => ?_
  simp only [Walk.drain_eq, List.flatMap_singleton]
  exact bind_pure (Walk.collect (visit o names) (preorder (.map entries)))

/-- The imports of a program are those that the recursion finds. -/
theorem extract_eq_walk (entries : List (Datum × Datum)) :
    extract o (.map entries) = (do
      walkNode o (← macroBindings (.map entries)) entries) := by
  simp only [extract_eq_collect, walkNode_eq_collect]

end Estree

end ImportScan
