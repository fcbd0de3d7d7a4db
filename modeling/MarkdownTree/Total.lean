/-!
# Totals and maxima

The size and the weight of a tree are totals over its children, and how deep it nests is the
greatest of what its children do. A member counts for no more than the total it is in, which is what
recursion over trees needs.
-/

namespace MarkdownTree

/-- The total of several counts. -/
def total : List Nat → Nat
  | [] => 0
  | n :: ns => n + total ns

@[simp] theorem total_nil : total [] = 0 := rfl

@[simp] theorem total_cons (n : Nat) (ns : List Nat) : total (n :: ns) = n + total ns := rfl

@[simp] theorem total_append (ns ms : List Nat) : total (ns ++ ms) = total ns + total ms := by
  induction ns with
  | nil => simp
  | cons n ns ih => simp [ih, Nat.add_assoc]

theorem le_total_of_mem {n : Nat} {ns : List Nat} (h : n ∈ ns) : n ≤ total ns := by
  induction ns with
  | nil => simp at h
  | cons m ns ih =>
    rw [total_cons]
    rcases List.mem_cons.1 h with rfl | h
    · omega
    · have := ih h
      omega

/-- The greatest of several numbers, zero if there is none. -/
def greatest (ns : List Nat) : Nat := ns.foldr max 0

@[simp] theorem greatest_nil : greatest [] = 0 := rfl

@[simp] theorem greatest_cons (n : Nat) (ns : List Nat) :
    greatest (n :: ns) = max n (greatest ns) := rfl

theorem greatest_le_iff {ns : List Nat} {k : Nat} : greatest ns ≤ k ↔ ∀ n ∈ ns, n ≤ k := by
  induction ns with
  | nil => simp
  | cons n ns ih => rw [greatest_cons, Nat.max_le, ih, List.forall_mem_cons]

end MarkdownTree
