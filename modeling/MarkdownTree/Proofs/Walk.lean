import MarkdownTree.Walk
import Mathlib.Data.List.Basic

/-!
# Every node is visited once

A tree is walked with a stack, so that its depth costs no calls. `walkRound` is one round of this
loop, and `Visits` says which nodes several rounds visit and what they leave on the stack. Two
facts hold of each round and therefore of every run. What was visited followed by the nodes below
those on the stack is what one began with (`Visits.flatMap_preorder`), and the stack holds one node
less, all nodes below counted (`Visits.length_add_sizes`); so the loop ends.

A tree can hold equal nodes, so an occurrence of a node is told by its path, the numbers of the
children on the way from the root. `paths` has one path for each occurrence, and it comes before
those that lead further (`paths_apart`). The walk visits the nodes at these paths, one after the
other (`walk_visits_each_once`).
-/

namespace MarkdownTree.Node

variable {n m : Node} {stack stack' : List Node} {visited : List Node} {p : List Nat}

/-! ### Rounds of the loop -/

/-- One round: the last node of the stack is visited, and its children are put there in its place,
the first of them last. The loop ends when there is none. -/
def walkRound (stack : List Node) : Option (Node × List Node) :=
  stack.getLast?.map fun n => (n, stack.dropLast ++ n.childList.reverse)

theorem walkRound_concat (n : Node) (stack : List Node) :
    walkRound (stack ++ [n]) = some (n, stack ++ n.childList.reverse) := by
  rw [walkRound, List.getLast?_concat, Option.map_some, List.dropLast_concat]

theorem walkRound_eq_none : walkRound stack = none ↔ stack = [] := by
  rw [walkRound, Option.map_eq_none_iff, List.getLast?_eq_none_iff]

theorem walkRound_eq_some (round : walkRound stack = some (n, stack')) :
    ∃ waiting, stack = waiting ++ [n] ∧ stack' = waiting ++ n.childList.reverse := by
  rw [walkRound, Option.map_eq_some_iff] at round
  obtain ⟨last, top, result⟩ := round
  obtain ⟨rfl, rfl⟩ := Prod.mk.inj result
  exact ⟨stack.dropLast, (List.dropLast_append_getLast? last top).symm, rfl⟩

/-- Rounds that begin with a stack visit these nodes, in this order, and leave another stack. -/
inductive Visits : List Node → List Node → List Node → Prop
  | start (stack : List Node) : Visits stack [] stack
  | round {n : Node} {stack stack' visited rest : List Node}
      (first : walkRound stack = some (n, stack')) (others : Visits stack' visited rest) :
      Visits stack (n :: visited) rest

/-- From a stack whose top is its last node, the loop visits all and comes to its end. -/
theorem visits_walkFrom (waiting : List Node) : Visits waiting.reverse (walkFrom waiting) [] := by
  induction waiting using walkFrom.induct with
  | case1 =>
    rw [walkFrom]
    exact .start []
  | case2 n waiting ih =>
    rw [List.reverse_append] at ih
    rw [walkFrom, List.reverse_cons]
    exact .round (walkRound_concat n waiting.reverse) ih

/-! ### What a round keeps -/

/-- What is still to be visited, with `n` in front, is what was to be visited before the round. -/
theorem preorder_of_round (round : walkRound stack = some (n, stack')) :
    stack.reverse.flatMap preorder = n :: stack'.reverse.flatMap preorder := by
  obtain ⟨waiting, rfl, rfl⟩ := walkRound_eq_some round
  rw [List.reverse_concat, List.flatMap_cons, preorder_eq, List.reverse_append, List.reverse_reverse,
    List.flatMap_append, List.cons_append]

theorem Visits.flatMap_preorder (run : Visits stack visited stack') :
    stack.reverse.flatMap preorder = visited ++ stack'.reverse.flatMap preorder := by
  induction run with
  | start => rfl
  | round first _ ih => rw [preorder_of_round first, ih, List.cons_append]

/-- The measure of the loop: a round takes one node from the stack and leaves those below it. -/
theorem sizes_of_round (round : walkRound stack = some (n, stack')) :
    sizes stack = 1 + sizes stack' := by
  obtain ⟨waiting, rfl, rfl⟩ := walkRound_eq_some round
  rw [sizes_append, sizes_append, sizes_reverse, sizes_cons, sizes_nil, size_eq_sizes]
  omega

theorem Visits.length_add_sizes (run : Visits stack visited stack') :
    visited.length + sizes stack' = sizes stack := by
  induction run with
  | start => rw [List.length_nil, Nat.zero_add]
  | round first _ ih =>
    rw [sizes_of_round first, List.length_cons]
    omega

/-! ### Occurrences of nodes -/

/-- The node at the end of a path, which is given by the numbers of the children. -/
def nodeAt (n : Node) : List Nat → Option Node
  | [] => some n
  | i :: p => n.childList[i]?.bind fun c => c.nodeAt p

/-- The paths to all nodes of a tree, that of a node before those of its children. -/
def paths (n : Node) : List (List Nat) :=
  [] :: (n.childList.attach.mapIdx fun i c => (paths c.1).map (i :: ·)).flatten
termination_by sizeOf n
decreasing_by exact sizeOf_lt_of_mem c.2

theorem paths_eq (n : Node) :
    n.paths = [] :: (n.childList.mapIdx fun i c => c.paths.map (i :: ·)).flatten := by
  rw [paths]
  congr 2
  apply List.ext_getElem
  · simp
  · intro i h₁ h₂
    simp

theorem nil_mem_paths (n : Node) : [] ∈ n.paths := by
  rw [paths_eq]
  exact List.mem_cons_self

theorem cons_mem_paths {i : Nat} :
    i :: p ∈ n.paths ↔ ∃ c, n.childList[i]? = some c ∧ p ∈ c.paths := by
  rw [paths_eq]
  constructor
  · intro h
    obtain ⟨group, grouped, inside⟩ := List.mem_flatten.1 ((List.mem_cons.1 h).resolve_left nofun)
    obtain ⟨j, below, rfl⟩ := List.mem_mapIdx.1 grouped
    obtain ⟨q, member, same⟩ := List.mem_map.1 inside
    obtain ⟨rfl, rfl⟩ := List.cons.inj same
    exact ⟨_, List.getElem?_eq_getElem below, member⟩
  · rintro ⟨c, child, member⟩
    obtain ⟨below, rfl⟩ := List.getElem?_eq_some_iff.1 child
    apply List.mem_cons_of_mem
    apply List.mem_flatten.2
    exact ⟨_, List.mem_mapIdx.2 ⟨i, below, rfl⟩, List.mem_map_of_mem member⟩

/-- The paths are those that lead to a node. By induction on the path. -/
theorem mem_paths : p ∈ n.paths ↔ (n.nodeAt p).isSome := by
  induction p generalizing n with
  | nil => simp [nil_mem_paths, nodeAt]
  | cons i p ih =>
    rw [cons_mem_paths, nodeAt]
    cases n.childList[i]? with
    | none => simp
    | some c => simp [ih]

/-- No path is an initial part of one that comes earlier, nor is it the same path. -/
theorem paths_apart (n : Node) : n.paths.Pairwise fun p q => ¬ q <+: p := by
  induction n using induct with
  | step n ih =>
    rw [paths_eq, List.pairwise_cons]
    constructor
    · intro q member
      obtain ⟨group, grouped, inside⟩ := List.mem_flatten.1 member
      obtain ⟨i, below, rfl⟩ := List.mem_mapIdx.1 grouped
      obtain ⟨r, -, rfl⟩ := List.mem_map.1 inside
      simp
    · apply List.pairwise_flatten.2
      constructor
      · intro group grouped
        obtain ⟨i, below, rfl⟩ := List.mem_mapIdx.1 grouped
        rw [List.pairwise_map]
        refine (ih _ (List.getElem_mem below)).imp fun {p q} apart => ?_
        rwa [List.prefix_cons_inj]
      · -- Paths below different children differ in their first number.
        rw [List.pairwise_iff_getElem]
        intro i j hi hj before p inI q inJ
        rw [List.getElem_mapIdx] at inI inJ
        obtain ⟨p', -, rfl⟩ := List.mem_map.1 inI
        obtain ⟨q', -, rfl⟩ := List.mem_map.1 inJ
        rw [List.cons_prefix_cons]
        rintro ⟨same, -⟩
        omega

theorem nodup_paths (n : Node) : n.paths.Nodup :=
  (paths_apart n).imp fun {p q} (apart : ¬ q <+: p) (same : p = q) =>
    apart (same ▸ List.prefix_rfl)

/-- The path of a node comes before those of all nodes below it. -/
theorem lt_of_paths {i j : Nat} {q : List Nat} (below : q ≠ []) (above : n.paths[i]? = some p)
    (further : n.paths[j]? = some (p ++ q)) : i < j := by
  obtain ⟨hi, at_i⟩ := List.getElem?_eq_some_iff.1 above
  obtain ⟨hj, at_j⟩ := List.getElem?_eq_some_iff.1 further
  apply Nat.lt_of_not_le
  intro later
  rcases Nat.lt_or_eq_of_le later with before | same
  · apply List.pairwise_iff_getElem.1 (paths_apart n) j i hj hi before
    rw [at_i, at_j]
    exact List.prefix_append p q
  · subst same
    exact below (List.self_eq_append_right.1 (at_i.symm.trans at_j))

/-- The nodes at the paths, in their order. -/
theorem map_nodeAt_paths (n : Node) : n.paths.map n.nodeAt = n.preorder.map some := by
  induction n using induct with
  | step n ih =>
    have child (i : Nat) (below : i < n.childList.length) :
        (n.childList[i].paths.map (i :: ·)).map n.nodeAt = n.childList[i].preorder.map some := by
      rw [← ih _ (List.getElem_mem below), List.map_map]
      apply List.map_congr_left
      intro p _
      rw [Function.comp_apply, nodeAt, List.getElem?_eq_getElem below, Option.bind_some]
    rw [paths_eq, preorder_eq, List.map_cons, List.map_cons, nodeAt, List.map_flatten,
      List.map_flatMap, List.flatMap_def]
    congr 2
    apply List.ext_getElem
    · simp
    · intro i h₁ h₂
      rw [List.getElem_map, List.getElem_mapIdx, List.getElem_map]
      exact child i _

/-! ### The walk -/

theorem preorder_ne_nil (n : Node) : n.preorder ≠ [] := by
  rw [preorder_eq]
  exact List.cons_ne_nil _ _

/-- At every moment of a walk the nodes that were visited are an initial part of the order, and
those on the stack head the parts that follow. -/
theorem Visits.preorder_of_tree (run : Visits [n] visited stack) :
    n.preorder = visited ++ stack.reverse.flatMap preorder := by
  rw [← run.flatMap_preorder, List.reverse_singleton, List.flatMap_singleton]

/-- The loop ends when all nodes are visited and not before. -/
theorem Visits.ended_iff (run : Visits [n] visited stack) :
    walkRound stack = none ↔ visited = n.walk := by
  rw [walkRound_eq_none, walk_eq_preorder, run.preorder_of_tree]
  constructor
  · rintro rfl
    rw [List.reverse_nil, List.flatMap_nil, List.append_nil]
  · intro all
    have none_left : stack.reverse.flatMap preorder = [] := List.self_eq_append_right.1 all
    rw [List.flatMap_eq_nil_iff] at none_left
    rw [← List.reverse_eq_nil_iff]
    exact List.eq_nil_iff_forall_not_mem.2 fun m waits => preorder_ne_nil m (none_left m waits)

/-- The loop ends on every tree, and it visits the nodes in the order that recursion gives: a node
and then, from left to right, the trees of its children. Every round takes one of the nodes that
are still to come, until there is none. There is one path to each node of the tree, and the walk
visits the nodes at these paths one after the other: every occurrence once, and before all that
is below it. -/
theorem walk_visits_each_once (n : Node) :
    Visits [n] n.walk [] ∧
      (∀ visited stack, Visits [n] visited stack →
        n.preorder = visited ++ stack.reverse.flatMap preorder ∧
        visited.length + sizes stack = n.size ∧
        (walkRound stack = none ↔ visited = n.walk)) ∧
      n.walk = n.preorder ∧
      n.paths.map n.nodeAt = n.walk.map some ∧
      n.paths.Nodup ∧ (∀ p, p ∈ n.paths ↔ (n.nodeAt p).isSome) ∧
      ∀ (i j : Nat) p q, q ≠ [] → n.paths[i]? = some p → n.paths[j]? = some (p ++ q) → i < j := by
  have ends : Visits [n] n.walk [] := visits_walkFrom [n]
  refine ⟨ends, ?_, walk_eq_preorder n, ?_, nodup_paths n, fun p => mem_paths, ?_⟩
  · intro visited stack run
    have counted : visited.length + sizes stack = sizes [n] := run.length_add_sizes
    exact ⟨run.preorder_of_tree, counted, run.ended_iff⟩
  · rw [walk_eq_preorder, map_nodeAt_paths]
  · intro i j p q below above further
    exact lt_of_paths below above further

/-- A document in which an item stands twice. -/
def repeated : Node :=
  let item : Node := .branch "listItem" [.leaf "text" "a"]
  .branch "root" [.branch "list" [item, item], .leaf "code" "b"]

/-- One round has visited the root. The two items are equal, but each of them is visited. -/
theorem repeated_visited :
    (∃ stack, Visits [repeated] [repeated] stack ∧ stack.map kind = ["code", "list"] ∧
        1 + sizes stack = repeated.size) ∧
      repeated.walk.map kind =
        ["root", "list", "listItem", "text", "listItem", "text", "code"] ∧
      repeated.nodeAt [0, 0] = repeated.nodeAt [0, 1] ∧
      repeated.paths = [[], [0], [0, 0], [0, 0, 0], [0, 1], [0, 1, 0], [1]] ∧
      repeated.paths.Nodup := by
  obtain ⟨-, rounds, -, -, apart, -, -⟩ := walk_visits_each_once repeated
  have first : Visits [repeated] [repeated] repeated.childList.reverse := .round rfl (.start _)
  have counted : 1 + sizes repeated.childList.reverse = repeated.size := (rounds _ _ first).2.1
  refine ⟨⟨_, first, rfl, counted⟩, ?_, rfl, ?_, apart⟩
  · decide +kernel
  · decide +kernel

end MarkdownTree.Node
