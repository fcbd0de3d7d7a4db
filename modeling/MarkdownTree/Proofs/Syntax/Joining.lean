import MarkdownTree.Syntax.Document
import Mathlib.Data.List.Chain

/-!
# Joining texts

Wherever the builder puts nodes together it joins neighbouring texts: below a node, in the place of
an inline node, and once more around it. `joinTexts` puts one node after the other in front of
joined ones (`consText`), and because this is associative for texts, it makes no difference whether
a part of a list was joined before (`joinTexts_append`). What comes out is a normal form: no two
texts stand side by side (`isChain_joinTexts`).
-/

namespace MarkdownTree.Syntax

variable {n : Node} {ns : List Node}

/-- Puts a node in front of joined nodes. -/
def consText (n : Node) (ns : List Node) : List Node :=
  match ns with
  | [] => [n]
  | m :: ms =>
    if n.kind = "text" ∧ m.kind = "text" then
      { n with value := some (n.value.getD "" ++ m.value.getD "") } :: ms
    else n :: m :: ms

theorem joinTexts_cons (n : Node) (ns : List Node) :
    joinTexts (n :: ns) = consText n (joinTexts ns) := by
  rw [joinTexts]
  rfl

/-- Two texts in front of nodes. -/
theorem consText_of_both {m : Node} (both : n.kind = "text" ∧ m.kind = "text") :
    consText n (m :: ns) =
      { n with value := some (n.value.getD "" ++ m.value.getD "") } :: ns := if_pos both

/-- A text and another node in front of nodes. -/
theorem consText_of_not_both {m : Node} (apart : ¬(n.kind = "text" ∧ m.kind = "text")) :
    consText n (m :: ns) = n :: m :: ns := if_neg apart

/-- Two texts are joined before or after the second one is joined with what follows. -/
theorem consText_consText {m : Node} (text : n.kind = "text") (text' : m.kind = "text") :
    consText n (consText m ns) =
      consText { n with value := some (n.value.getD "" ++ m.value.getD "") } ns := by
  cases ns with
  | nil => exact if_pos ⟨text, text'⟩
  | cons l ls =>
    by_cases third : l.kind = "text"
    · simp [consText, text, text', third, String.append_assoc]
    · simp [consText, text, text', third]

/-- Joined texts join with what follows as if they were not joined yet. -/
theorem foldr_consText_joinTexts (as bs : List Node) :
    (joinTexts as).foldr consText bs = as.foldr consText bs := by
  induction as with
  | nil => rfl
  | cons a as ih =>
    rw [joinTexts_cons, List.foldr_cons, ← ih]
    cases joinTexts as with
    | nil => rfl
    | cons m ms =>
      by_cases both : a.kind = "text" ∧ m.kind = "text"
      · rw [consText_of_both both, List.foldr_cons, List.foldr_cons,
          consText_consText both.1 both.2]
      · rw [consText_of_not_both both, List.foldr_cons]

theorem joinTexts_eq_foldr (ns : List Node) : joinTexts ns = ns.foldr consText [] := by
  induction ns with
  | nil => rfl
  | cons n ns ih => rw [joinTexts_cons, ih, List.foldr_cons]

/-- Lists can be joined before they are put together. -/
theorem joinTexts_append (as bs : List Node) :
    joinTexts (joinTexts as ++ joinTexts bs) = joinTexts (as ++ bs) := by
  simp only [joinTexts_eq_foldr (_ ++ _), List.foldr_append, foldr_consText_joinTexts]

theorem joinTexts_cons_of_ne (text : n.kind ≠ "text") :
    joinTexts (n :: ns) = n :: joinTexts ns := by
  rw [joinTexts_cons]
  cases joinTexts ns with
  | nil => rfl
  | cons m ms => exact consText_of_not_both fun both => text both.1

/-- The first of joined nodes is of the kind of the first one. -/
theorem exists_head_joinTexts (n : Node) (ns : List Node) :
    ∃ m ms, joinTexts (n :: ns) = m :: ms ∧ m.kind = n.kind := by
  rw [joinTexts_cons]
  unfold consText
  split
  · exact ⟨n, [], rfl, rfl⟩
  · split <;> exact ⟨_, _, rfl, rfl⟩

/-- Joining changes the values of texts and nothing else. -/
theorem forall_mem_joinTexts {P : Node → Prop}
    (withValue : ∀ n value, n.kind = "text" → P n → P { n with value })
    (each : ∀ n ∈ ns, P n) : ∀ n ∈ joinTexts ns, P n := by
  induction ns with
  | nil => exact nofun
  | cons n ns ih =>
    rw [List.forall_mem_cons] at each
    have rest := ih each.2
    rw [joinTexts_cons]
    cases joined : joinTexts ns with
    | nil => exact List.forall_mem_singleton.2 each.1
    | cons m ms =>
      rw [joined, List.forall_mem_cons] at rest
      by_cases both : n.kind = "text" ∧ m.kind = "text"
      · rw [consText_of_both both]
        exact List.forall_mem_cons.2 ⟨withValue n _ both.1 each.1, rest.2⟩
      · rw [consText_of_not_both both]
        exact List.forall_mem_cons.2 ⟨each.1, List.forall_mem_cons.2 rest⟩

/-- Joining once is enough. -/
theorem joinTexts_joinTexts (ns : List Node) : joinTexts (joinTexts ns) = joinTexts ns := by
  simpa [joinTexts] using joinTexts_append ns []

/-- At most one of two nodes is a text. -/
def Apart (n m : Node) : Prop := ¬(n.kind = "text" ∧ m.kind = "text")

/-- A node that is joined with the first of several nodes takes its place. -/
theorem isChain_consText (chain : ns.IsChain Apart) : (consText n ns).IsChain Apart := by
  cases chain with
  | nil => exact .singleton n
  | singleton m =>
    by_cases both : n.kind = "text" ∧ m.kind = "text"
    · rw [consText_of_both both]
      exact .singleton _
    · rw [consText_of_not_both both]
      exact .cons_cons both (.singleton m)
  | @cons_cons m l ls apart rest =>
    by_cases both : n.kind = "text" ∧ m.kind = "text"
    · rw [consText_of_both both]
      exact .cons_cons (fun texts => apart ⟨both.2, texts.2⟩) rest
    · rw [consText_of_not_both both]
      exact .cons_cons both (.cons_cons apart rest)

/-- No two joined nodes that stand side by side are both texts. -/
theorem isChain_joinTexts (ns : List Node) : (joinTexts ns).IsChain Apart := by
  induction ns with
  | nil => exact .nil
  | cons n ns ih =>
    rw [joinTexts_cons]
    exact isChain_consText ih

end MarkdownTree.Syntax
