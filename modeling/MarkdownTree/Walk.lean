import MarkdownTree.Node.Basic

/-!
# Walking over trees

`Node.walk` visits the nodes of a tree with a stack of those that wait. `Node.preorder` is the
order in which they are visited: a node before its children, and the children from left to right.
-/

namespace MarkdownTree.Node

/-- The nodes of a tree, each before its children. -/
def preorder (n : Node) : List Node := n :: n.childList.attach.flatMap fun c => preorder c.1
termination_by sizeOf n
decreasing_by exact sizeOf_lt_of_mem c.2

theorem preorder_eq (n : Node) : n.preorder = n :: n.childList.flatMap preorder := by
  rw [preorder, List.flatMap_def, List.attach_map_val, List.flatMap_def]

/-- What holds of all nodes of a tree holds of the node itself and in all its children. -/
theorem forall_mem_preorder_iff {P : Node → Prop} {n : Node} :
    (∀ m ∈ n.preorder, P m) ↔ P n ∧ ∀ c ∈ n.childList, ∀ m ∈ c.preorder, P m := by
  rw [preorder_eq, List.forall_mem_cons]
  refine and_congr_right fun _ => ⟨fun all c hc m hm => ?_, fun each m hm => ?_⟩
  · exact all m (List.mem_flatMap.2 ⟨c, hc, hm⟩)
  · obtain ⟨c, hc, hm⟩ := List.mem_flatMap.1 hm
    exact each c hc m hm

/-- The number of nodes of several trees. -/
def sizes (l : List Node) : Nat := total (l.map size)

@[simp] theorem sizes_nil : sizes [] = 0 := rfl

@[simp] theorem sizes_cons (n : Node) (l : List Node) : sizes (n :: l) = n.size + sizes l := rfl

@[simp] theorem sizes_append (l l' : List Node) : sizes (l ++ l') = sizes l + sizes l' := by
  rw [sizes, List.map_append, total_append, sizes, sizes]

@[simp] theorem sizes_reverse (l : List Node) : sizes l.reverse = sizes l := by
  induction l with
  | nil => rfl
  | cons n l ih =>
    rw [List.reverse_cons, sizes_append, ih, sizes_cons, sizes_cons, sizes_nil]
    omega

/-- A node counts one more than its children together. -/
theorem size_eq_sizes (n : Node) : n.size = 1 + sizes n.childList := size_eq n

theorem sizes_children (n : Node) (waiting : List Node) :
    sizes (n.childList ++ waiting) < sizes (n :: waiting) := by
  rw [sizes_append, sizes_cons, size_eq_sizes]
  omega

/-- The nodes visited when those of a stack are taken from its top and their children are put
there in their place. -/
def walkFrom : List Node → List Node
  | [] => []
  | n :: waiting => n :: walkFrom (n.childList ++ waiting)
termination_by waiting => sizes waiting
decreasing_by exact sizes_children n waiting

theorem walkFrom_eq_flatMap (waiting : List Node) : walkFrom waiting = waiting.flatMap preorder := by
  induction waiting using walkFrom.induct with
  | case1 => rw [walkFrom, List.flatMap_nil]
  | case2 n waiting ih =>
    rw [walkFrom, ih, List.flatMap_append, List.flatMap_cons, preorder_eq n, List.cons_append]

/-- The nodes of a tree as they are visited. -/
def walk (n : Node) : List Node := walkFrom [n]

theorem walk_eq_preorder (n : Node) : n.walk = n.preorder := by
  rw [walk, walkFrom_eq_flatMap, List.flatMap_singleton]

end MarkdownTree.Node
