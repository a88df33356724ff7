import ImportScan.Origin

/-! # Walks

    A walk visits the nodes of a tree, and collects their records or looks for the first node
    that gives an answer.  The nodes that are still to be visited wait on a stack, the next one
    on top; after a visit the children of the node come to wait above the others.

    * `Branching`    : trees by the children of their nodes.
    * `Walk.pushAll` : nodes put on a stack.
    * `Walk.drain`   : the records of all nodes on a stack and below them.
    * `Walk.first?`  : the first answer of the nodes on a stack and below them.
-/

namespace ImportScan

/-- How nodes branch.  The list of what is below a node shows that no branch is endless. -/
structure Branching (α : Type) where
  /-- The children of a node, in their order. -/
  children : α → List α
  /-- A node and everything below it, parents before children. -/
  preorder : α → List α
  /-- First comes the node, then what its children list. -/
  preorder_eq (n : α) : preorder n = n :: (children n).flatMap preorder

namespace Walk

variable {α : Type}

/-- Puts nodes on a stack, the last one first, so that the first one ends up on top. -/
def pushAll (nodes stack : List α) : List α :=
  nodes.reverse.foldl (fun stack n => n :: stack) stack

theorem pushAll_eq (nodes stack : List α) : pushAll nodes stack = nodes ++ stack := by
  simp [pushAll]

/-- Visits the nodes on a stack until none is left, and adds their records to those found so
    far.  A visit that fails ends the walk. -/
def drain (b : Branching α) (visit : α → Except Fault (Option Import)) (found : List Import)
    (stack : List α) : Except Fault (List Import) :=
  match stack with
  | [] => .ok found
  | n :: rest => do
    let own ← visit n
    drain b visit (found ++ own.toList) (pushAll (b.children n) rest)
termination_by (stack.flatMap b.preorder).length
decreasing_by
  -- the node on top is the one that is no longer to be visited
  simp [pushAll_eq, b.preorder_eq n]

/-- Looks at the nodes on a stack until one of them gives an answer, or none is left. -/
def first? {β : Type} (b : Branching α) (look : α → Option β) (stack : List α) : Option β :=
  match stack with
  | [] => none
  | n :: rest =>
    match look n with
    | some answer => some answer
    | none => first? b look (pushAll (b.children n) rest)
termination_by (stack.flatMap b.preorder).length
decreasing_by
  simp [pushAll_eq, b.preorder_eq n]

end Walk

end ImportScan
