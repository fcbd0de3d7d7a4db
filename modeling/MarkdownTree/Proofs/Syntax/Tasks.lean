import MarkdownTree.Proofs.Syntax.Content

/-!
# The boxes of tasks

A list item is a task if its first paragraph begins with a text with a box in front. `Boxed` and
`BeginsWithBox` say so without the functions that look for a box and take it off. A list item
becomes a node with the nodes of its children, from which the box of a task is taken off and nothing
else (`takeTask_of_box`, `takeTask_of_no_box`).
-/

namespace MarkdownTree.Syntax

variable {position : Bool} {t : Tree} {ns : List Node} {c : Char} {s rest : String}

/-- The text has a box in front, with the character in it, and the rest of it follows behind one or
more blanks. -/
structure Boxed (s : String) (c : Char) (rest : String) : Prop where
  mark : c = ' ' ∨ c = 'x' ∨ c = 'X'
  text : ∃ blanks, s.toList = '[' :: c :: ']' :: (blanks ++ rest.toList) ∧ blanks ≠ [] ∧
    ∀ b ∈ blanks, Text.isBlank b = true
  start : ∀ b ∈ rest.toList.head?, Text.isBlank b = false

/-- The first of the nodes is the paragraph `p`, its first child is the text `m` with a box in
front, and `ms` and `later` are the other nodes. -/
structure BeginsWithBox (ns : List Node) (c : Char) (rest : String) (p m : Node)
    (ms later : List Node) : Prop where
  nodes : ns = p :: later
  paragraph : p.kind = "paragraph"
  children : p.childList = m :: ms
  text : m.kind = "text"
  box : ∃ s, m.value = some s ∧ Boxed s c rest

/-- The nodes of a task when its box is taken off: the first text has the value that is left. -/
def unboxed (rest : String) (p m : Node) (ms later : List Node) : List Node :=
  p.withChildren ({ m with value := some rest } :: ms) :: later

theorem taskMarker_of_boxed (h : Boxed s c rest) :
    taskMarker s = some (decide (c ≠ ' '), rest) := by
  obtain ⟨mark, ⟨blanks, text, nonempty, blank⟩, start⟩ := h
  have after := (takeWhile_dropWhile_of_span blank start).2
  have shorter : rest.toList.length < (blanks ++ rest.toList).length := by
    rw [List.length_append]
    have := List.length_pos_of_ne_nil nonempty
    omega
  simp only [taskMarker, text, after]
  rw [if_pos ⟨mark, shorter⟩, String.ofList_toList]

theorem boxed_of_taskMarker {done : Bool} (h : taskMarker s = some (done, rest)) :
    ∃ c, Boxed s c rest ∧ done = decide (c ≠ ' ') := by
  unfold taskMarker at h
  split at h
  · next c after text =>
    dsimp only at h
    split at h
    · next box =>
      cases h
      refine ⟨c, ⟨box.1, ⟨after.takeWhile Text.isBlank, ?_, ?_, ?_⟩, ?_⟩, rfl⟩
      · rw [text, String.toList_ofList, List.takeWhile_append_dropWhile]
      · exact List.ne_nil_of_length_pos ((length_dropWhile_lt_iff after).1 box.2)
      · exact fun b hb => List.mem_takeWhile_imp hb
      · rw [String.toList_ofList]
        exact head?_dropWhile_eq_false Text.isBlank after
    · cases h
  · cases h

/-- The box is taken off a task. -/
theorem takeTask_of_box {p m : Node} {ms later : List Node}
    (h : BeginsWithBox ns c rest p m ms later) :
    takeTask ns = (some (decide (c ≠ ' ')), unboxed rest p m ms later) := by
  obtain ⟨rfl, paragraph, children, text, s, value, boxed⟩ := h
  refine takeTask_of_marker paragraph children text ?_
  rw [value]
  exact taskMarker_of_boxed boxed

/-- Where there is no box, everything stays as it is. -/
theorem takeTask_of_no_box (h : ∀ c rest p m ms later, ¬BeginsWithBox ns c rest p m ms later) :
    takeTask ns = (none, ns) := by
  rcases takeTask_cases ns with ⟨same, _⟩ |
      ⟨p, later, m, ms, done, rest, rfl, paragraph, children, text, marker, _⟩
  · exact same
  · obtain ⟨c, boxed, _⟩ := boxed_of_taskMarker marker
    cases value : m.value with
    | none =>
      obtain ⟨_, ⟨blanks, empty, _⟩, _⟩ := boxed
      rw [value] at empty
      cases empty
    | some s =>
      rw [value] at boxed
      exact absurd ⟨rfl, paragraph, children, text, s, value, boxed⟩ (h c rest p m ms later)

/-- A list item becomes a node. -/
theorem build_item (item : t.kind = "list_item") :
    build position t = (do
      let children ← buildAll position t.children
      return [{ kind := "listItem", checked := (takeTask children).1,
                children := some (takeTask children).2,
                position := placeOf position t.lines }]) := by
  rw [build]
  simp only [item]
  rfl

end MarkdownTree.Syntax
