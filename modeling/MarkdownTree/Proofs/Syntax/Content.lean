import MarkdownTree.Proofs.Syntax.Footnotes
import MarkdownTree.Proofs.Syntax.Joining
import Mathlib.Data.List.Infix
import Mathlib.Data.List.TakeWhile

/-!
# The text of a syntax tree and of its document

Building a document loses no text and moves none: the values of its nodes, read in order, are the
text of the trees it is made of, followed by that of the inline footnotes (`fullText_of_document`).
The only exception is the box in front of a task.

Where a box stands is said of trees. The text at the beginning of a list item is that of the first
few texts of its first paragraph, wherever inline trees divide them (`Tree.spliced`), and the
builder looks at their joined text. So joining has to be compared with splicing first
(`forall₂_spliced`), and that comes down to joining lists that are joined already
(`joinTexts_append`). The rest is an induction on the tree along its parts, with one case for each
way the children of a node come about.
-/

namespace MarkdownTree

/-- The length of the box that a text begins with, along with the blanks behind it. A box without
blanks behind it is none. -/
def boxLength : List Char → Nat
  | '[' :: c :: ']' :: rest =>
    let blanks := (rest.takeWhile Text.isBlank).length
    if (c = ' ' ∨ c = 'x' ∨ c = 'X') ∧ 0 < blanks then 3 + blanks else 0
  | _ => 0

theorem boxLength_le (s : List Char) : boxLength s ≤ s.length := by
  unfold boxLength
  split
  · next c rest =>
    have blanks := (List.takeWhile_prefix Text.isBlank (l := rest)).length_le
    dsimp only
    split
    · simp only [List.length_cons]
      omega
    · exact Nat.zero_le _
  · exact Nat.zero_le _

theorem boxLength_of_ne {s : List Char} (other : ∀ c rest, s ≠ '[' :: c :: ']' :: rest) :
    boxLength s = 0 := by
  unfold boxLength
  split
  · next c rest => exact absurd rfl (other c rest)
  · rfl

namespace Node

/-- The text of a node and, after it, that of the nodes below it. -/
def fullText (n : Node) : List Char := n.preorder.flatMap ownText

theorem fullText_eq (n : Node) : n.fullText = n.ownText ++ n.childList.flatMap fullText := by
  rw [fullText, preorder_eq, List.flatMap_cons, List.flatMap_assoc]
  rfl

/-- The text that nodes begin with. -/
def leadingText : List Node → List Char
  | n :: _ => if n.kind = "text" then n.ownText else []
  | [] => []

/-- The text of a list item in which a box is looked for: what its first paragraph begins with. -/
def boxedText : List Node → List Char
  | p :: _ => if p.kind = "paragraph" then leadingText p.childList else []
  | [] => []

end Node

namespace Syntax

namespace Tree

/-- The trees that stand in the place of a tree: an inline tree gives way to what it holds. -/
def spliced (t : Tree) : List Tree :=
  if t.kind = "inline" then t.children.attach.flatMap fun c => spliced c.1 else [t]
termination_by sizeOf t
decreasing_by exact sizeOf_lt_of_mem c.2

/-- The kinds of trees that become texts. -/
def textKinds : List String := ["text", "softbreak"]

/-- The text that trees begin with. -/
def leadingText (ts : List Tree) : List Char :=
  ((ts.flatMap spliced).takeWhile (·.kind ∈ textKinds)).flatMap ownText

/-- The text of a list item in which a box is looked for: what its first paragraph begins with. -/
def boxedText (ts : List Tree) : List Char :=
  match ts.flatMap spliced with
  | p :: _ => if p.kind = "paragraph" then leadingText p.children else []
  | [] => []

/-- How much of the text of a tree is the box of a task. -/
def boxWidth (t : Tree) : Nat :=
  if t.kind = "list_item" then boxLength (boxedText t.children) else 0

/-- The text of a tree and, after it, that of its parts without the box of a task. Of a table only
what the cells hold counts. -/
def fullText (t : Tree) : List Char :=
  t.ownText ++ (t.parts.attach.flatMap fun u => fullText u.1).drop t.boxWidth
termination_by sizeOf t
decreasing_by exact sizeOf_lt_of_mem_parts u.2

theorem spliced_of_inline {t : Tree} (inline : t.kind = "inline") :
    t.spliced = t.children.flatMap spliced := by
  rw [spliced, if_pos inline, List.flatMap_def, List.attach_map_val, List.flatMap_def]

theorem spliced_of_ne {t : Tree} (inline : t.kind ≠ "inline") : t.spliced = [t] := by
  rw [spliced, if_neg inline]

theorem fullText_eq (t : Tree) :
    t.fullText = t.ownText ++ (t.parts.flatMap fullText).drop t.boxWidth := by
  rw [fullText, List.flatMap_def, List.attach_map_val, List.flatMap_def]

theorem boxWidth_of_ne {t : Tree} (item : t.kind ≠ "list_item") : t.boxWidth = 0 := if_neg item

/-- Inline trees and paragraphs have the text of their children. -/
theorem fullText_of_wrapper {t : Tree} (wrapper : t.kind ∈ ["inline", "paragraph"]) :
    t.fullText = t.children.flatMap fullText := by
  have table : ∀ kind ∈ ["inline", "paragraph"],
      kind ∉ "table" :: closedKinds ∧ kind ≠ "list_item" ∧ kind ∈ silentKinds := by decide
  obtain ⟨plain, item, silent⟩ := table _ wrapper
  rw [fullText_eq, ownText_of_silent silent, boxWidth_of_ne item, parts_of_kind rfl plain]
  rfl

end Tree

open Node

variable {position : Bool} {t : Tree} {ts : List Tree} {n : Node} {ns cs : List Node}

/-! ### Joining -/

theorem additive_fullText : Additive Node.fullText where
  joined {n m} _ closed _ closed' := by
    have joined : ({ n with value := some (n.value.getD "" ++ m.value.getD "") } : Node).ownText =
        n.ownText ++ m.ownText := String.toList_append
    rw [Node.fullText_eq n, Node.fullText_eq m, closed, closed', Node.fullText_eq, joined]
    simp [show ({ n with value := some (n.value.getD "" ++ m.value.getD "") } : Node).childList = []
      from closed]
  around _ value := by
    rw [Node.fullText_eq, Node.ownText, value]
    rfl

/-- The text that joined nodes begin with is that of all texts at their beginning. -/
theorem leadingText_joinTexts (ns : List Node) :
    Node.leadingText (joinTexts ns) = (ns.takeWhile (·.kind = "text")).flatMap Node.ownText := by
  induction ns with
  | nil => rfl
  | cons n ns ih =>
    rw [joinTexts_cons, List.takeWhile_cons]
    by_cases text : n.kind = "text"
    · simp only [text, decide_true, if_true, List.flatMap_cons, ← ih]
      cases joinTexts ns with
      | nil => simp [consText, Node.leadingText, text]
      | cons m ms =>
        by_cases text' : m.kind = "text"
        · simp [consText, Node.leadingText, Node.ownText, text, text', String.toList_append]
        · simp [consText, Node.leadingText, text, text']
    · simp only [text, decide_false, Bool.false_eq_true, if_false, List.flatMap_nil]
      cases joinTexts ns <;> simp [consText, Node.leadingText, text]

/-! ### Splicing -/

/-- The tree becomes the one node, and is not just replaced by what it holds. -/
def BecomesNode (position : Bool) (t : Tree) (n : Node) : Prop :=
  t.kind ≠ "inline" ∧ Becomes position t n

theorem BecomesNode.formed (h : BecomesNode position t n) :
    ∃ cs, buildEach position t.parts = .ok cs ∧ n.kind = t.nodeKind ∧ n.ownText = t.ownText ∧
      Below t cs n := by
  obtain ⟨cs, each, formed⟩ := formed_of_build h.2
  refine ⟨cs, each, ?_⟩
  generalize single : [n] = ns at formed
  cases formed with
  | spliced inline => exact absurd inline h.1
  | node _ kind text below =>
    cases single
    exact ⟨kind, text, below⟩

theorem forall₂_spliced_of_buildEach
    (each : ∀ t ∈ ts, ∀ ns, build position t = .ok ns →
      ∃ ds, List.Forall₂ (BecomesNode position) t.spliced ds ∧ joinTexts ds = joinTexts ns)
    (h : buildEach position ts = .ok cs) :
    ∃ ds, List.Forall₂ (BecomesNode position) (ts.flatMap Tree.spliced) ds ∧
      joinTexts ds = joinTexts cs := by
  induction ts generalizing cs with
  | nil =>
    rw [buildEach_nil.1 h]
    exact ⟨[], .nil, rfl⟩
  | cons t ts ih =>
    obtain ⟨as, bs, first, others, rfl⟩ := buildEach_cons.1 h
    obtain ⟨ds, made, joined⟩ := each t List.mem_cons_self as first
    obtain ⟨ds', made', joined'⟩ := ih (fun u hu => each u (List.mem_cons_of_mem t hu)) others
    refine ⟨ds ++ ds', List.rel_append made made', ?_⟩
    rw [← joinTexts_append, joined, joined', joinTexts_append]

/-- An inline tree gives way to what it holds, and its texts are joined with those around it. -/
theorem forall₂_spliced_of_build (h : build position t = .ok ns) :
    ∃ ds, List.Forall₂ (BecomesNode position) t.spliced ds ∧ joinTexts ds = joinTexts ns := by
  induction t using Tree.induct generalizing ns with
  | step t ih =>
    obtain ⟨cs, each, formed⟩ := formed_of_build h
    cases formed with
    | spliced inline =>
      rw [parts_of_kind inline (by decide)] at each
      obtain ⟨ds, made, joined⟩ := forall₂_spliced_of_buildEach
        (fun u hu ns built => ih u (Tree.sizeOf_lt_of_mem hu) built) each
      exact ⟨ds, Tree.spliced_of_inline inline ▸ made, joined.trans (joinTexts_joinTexts cs).symm⟩
    | @node n inline _ _ _ =>
      rw [Tree.spliced_of_ne inline]
      exact ⟨[n], .cons ⟨inline, h⟩ .nil, rfl⟩

theorem forall₂_spliced (h : buildEach position ts = .ok cs) :
    ∃ ds, List.Forall₂ (BecomesNode position) (ts.flatMap Tree.spliced) ds ∧
      joinTexts ds = joinTexts cs :=
  forall₂_spliced_of_buildEach (fun _ _ _ built => forall₂_spliced_of_build built) h

/-- A tree becomes a text if it is one. -/
theorem BecomesNode.kind_eq_text_iff (h : BecomesNode position t n) :
    n.kind = "text" ↔ t.kind ∈ Tree.textKinds := by
  obtain ⟨_, _, kind, _, _⟩ := h.formed
  rw [kind, nodeKind_eq_iff (by decide)]
  simp [Tree.nodeKinds, containerKinds, Tree.textKinds]

/-- A tree becomes a paragraph if it is one. -/
theorem BecomesNode.kind_eq_paragraph_iff (h : BecomesNode position t n) :
    n.kind = "paragraph" ↔ t.kind = "paragraph" := by
  obtain ⟨_, _, kind, _, _⟩ := h.formed
  rw [kind, nodeKind_eq_iff (by decide)]
  simp [Tree.nodeKinds, containerKinds]

theorem leadingText_of_forall₂ {us : List Tree} {ds : List Node}
    (made : List.Forall₂ (BecomesNode position) us ds) :
    (ds.takeWhile (·.kind = "text")).flatMap Node.ownText =
      (us.takeWhile (·.kind ∈ Tree.textKinds)).flatMap Tree.ownText := by
  induction made with
  | nil => rfl
  | @cons u d us ds head _ ih =>
    obtain ⟨_, _, _, own, _⟩ := head.formed
    rw [List.takeWhile_cons, List.takeWhile_cons]
    by_cases text : u.kind ∈ Tree.textKinds
    · simp only [text, head.kind_eq_text_iff.2 text, decide_true, if_true, List.flatMap_cons, own,
        ih]
    · have other : d.kind ≠ "text" := fun same => text (head.kind_eq_text_iff.1 same)
      simp [text, other]

/-- The text that nodes begin with is that of their trees. -/
theorem leadingText_of_buildEach (h : buildEach position ts = .ok cs) :
    Node.leadingText (joinTexts cs) = Tree.leadingText ts := by
  obtain ⟨ds, made, joined⟩ := forall₂_spliced h
  rw [← joined, leadingText_joinTexts, leadingText_of_forall₂ made, Tree.leadingText]

/-- The box of a task is looked for in the same text as in the trees, and the paragraph around it
has no text of its own. -/
theorem boxedText_of_buildEach (h : buildEach position ts = .ok cs) :
    Node.boxedText (joinTexts cs) = Tree.boxedText ts ∧
      ∀ p ∈ (joinTexts cs).head?, p.kind = "paragraph" → p.ownText = [] := by
  obtain ⟨ds, made, joined⟩ := forall₂_spliced h
  rw [← joined, Tree.boxedText]
  generalize ts.flatMap Tree.spliced = us at made
  cases made with
  | nil => exact ⟨rfl, nofun⟩
  | @cons u d us ds head _ =>
    by_cases paragraph : u.kind = "paragraph"
    · have isParagraph := head.kind_eq_paragraph_iff.2 paragraph
      obtain ⟨cs, each, _, own, below⟩ := head.formed
      rw [parts_of_kind paragraph (by decide)] at each
      have silent : d.ownText = [] :=
        own.trans (ownText_of_silent (by simp [paragraph, Tree.silentKinds]))
      rw [joinTexts_cons_of_ne (by simp [isParagraph])]
      refine ⟨?_, fun p first _ => ?_⟩
      · simp only [Node.boxedText, isParagraph, paragraph, if_true]
        rw [below.childList_eq (by simp [paragraph]), leadingText_of_buildEach each]
      · rw [← Option.mem_some_iff.1 first, silent]
    · obtain ⟨m, ms, first, kind⟩ := exists_head_joinTexts d ds
      have other : m.kind ≠ "paragraph" := by
        rw [kind]
        exact fun same => paragraph (head.kind_eq_paragraph_iff.1 same)
      rw [first]
      refine ⟨?_, fun p same isParagraph => ?_⟩
      · simp [Node.boxedText, other, paragraph]
      · exact absurd (Option.mem_some_iff.1 same ▸ isParagraph) other

/-! ### Boxes -/

/-- The members at the beginning that have a property, and the rest. -/
theorem takeWhile_dropWhile_of_span {p : α → Bool} {as bs : List α} (all : ∀ a ∈ as, p a = true)
    (stop : ∀ b ∈ bs.head?, p b = false) :
    (as ++ bs).takeWhile p = as ∧ (as ++ bs).dropWhile p = bs := by
  have rest : bs.takeWhile p = [] ∧ bs.dropWhile p = bs := by
    cases bs with
    | nil => exact ⟨rfl, rfl⟩
    | cons b bs =>
      have first : ¬p b = true := by simp [stop b rfl]
      exact ⟨List.takeWhile_cons_of_neg first, List.dropWhile_cons_of_neg first⟩
  rw [List.takeWhile_append_of_pos all, List.dropWhile_append_of_pos all, rest.1, rest.2,
    List.append_nil]
  exact ⟨rfl, rfl⟩

/-- What is left begins with a member that does not have the property. -/
theorem head?_dropWhile_eq_false (p : α → Bool) (l : List α) :
    ∀ b ∈ (l.dropWhile p).head?, p b = false := by
  intro b hb
  have stop := List.head?_dropWhile_not p l
  rw [Option.mem_def.1 hb] at stop
  simpa using stop

theorem drop_blanks (s : List Char) :
    s.drop (s.takeWhile Text.isBlank).length = s.dropWhile Text.isBlank := by
  have both : (s.takeWhile Text.isBlank ++ s.dropWhile Text.isBlank).drop
      (s.takeWhile Text.isBlank).length = s.dropWhile Text.isBlank := List.drop_left
  rwa [List.takeWhile_append_dropWhile] at both

theorem length_dropWhile_lt_iff (s : List Char) :
    (s.dropWhile Text.isBlank).length < s.length ↔ 0 < (s.takeWhile Text.isBlank).length := by
  rw [← drop_blanks, List.length_drop]
  have := (List.takeWhile_prefix Text.isBlank (l := s)).length_le
  omega

theorem boxLength_of_taskMarker_eq_none {s : String} (h : taskMarker s = none) :
    boxLength s.toList = 0 := by
  unfold taskMarker at h
  split at h
  · next c rest found =>
    dsimp only at h
    split at h
    · cases h
    · next box =>
      rw [length_dropWhile_lt_iff] at box
      rw [found, boxLength]
      exact if_neg box
  · next other => exact boxLength_of_ne fun c rest found => other c rest found

/-- A box is taken off along with the blanks behind it. -/
theorem boxLength_of_taskMarker_eq_some {s text : String} {done : Bool}
    (h : taskMarker s = some (done, text)) :
    0 < boxLength s.toList ∧ text.toList = s.toList.drop (boxLength s.toList) := by
  unfold taskMarker at h
  split at h
  · next c rest found =>
    dsimp only at h
    split at h
    · next box =>
      cases h
      rw [length_dropWhile_lt_iff] at box
      have width : boxLength s.toList = 3 + (rest.takeWhile Text.isBlank).length := by
        rw [found, boxLength]
        exact if_pos box
      refine ⟨by omega, ?_⟩
      rw [width, found, String.toList_ofList, ← drop_blanks, Nat.add_comm]
      rfl
    · cases h
  · cases h

theorem takeTask_of_marker {p m : Node} {rest ms : List Node} {done : Bool} {text : String}
    (paragraph : p.kind = "paragraph") (children : p.childList = m :: ms) (isText : m.kind = "text")
    (marker : taskMarker (m.value.getD "") = some (done, text)) :
    takeTask (p :: rest) =
      (some done, p.withChildren ({ m with value := some text } :: ms) :: rest) := by
  simp only [takeTask, paragraph, children, isText, marker]

/-- The nodes of an item stay as they are, or a box is taken off the text that they begin with. -/
theorem takeTask_cases (ns : List Node) :
    (takeTask ns = (none, ns) ∧ boxLength (Node.boxedText ns) = 0) ∨
      ∃ p rest m ms done text, ns = p :: rest ∧ p.kind = "paragraph" ∧ p.childList = m :: ms ∧
        m.kind = "text" ∧ taskMarker (m.value.getD "") = some (done, text) ∧
        takeTask ns =
          (some done, p.withChildren ({ m with value := some text } :: ms) :: rest) := by
  unfold takeTask
  split
  · next p rest =>
    split
    · next m ms paragraph children =>
      split
      · next done text isText marker =>
        exact .inr ⟨p, rest, m, ms, done, text, rfl, paragraph, children, isText, marker, rfl⟩
      · next unmarked =>
        refine .inl ⟨rfl, ?_⟩
        rw [Node.boxedText, if_pos paragraph, children, Node.leadingText]
        split
        · next isText =>
          cases marker : taskMarker (m.value.getD "") with
          | none => exact boxLength_of_taskMarker_eq_none marker
          | some found => exact absurd marker (unmarked found.1 found.2 isText)
        · rfl
    · next childless =>
      refine .inl ⟨rfl, ?_⟩
      rw [Node.boxedText]
      split
      · next paragraph =>
        cases children : p.childList with
        | nil => rfl
        | cons m ms => exact (childless m ms paragraph children).elim
      · rfl
  · exact .inl ⟨rfl, rfl⟩

theorem fullText_withValue {m : Node} {text : String}
    (left : text.toList = m.ownText.drop (boxLength m.ownText)) :
    Node.fullText { m with value := some text } = m.fullText.drop (boxLength m.ownText) := by
  rw [Node.fullText_eq m, List.drop_append_of_le_length (boxLength_le _), ← left, Node.fullText_eq]
  rfl

/-- Taking the box off a task takes it off the text, and nothing else. -/
theorem takeTask_eq (silent : ∀ p ∈ ns.head?, p.kind = "paragraph" → p.ownText = []) :
    ((takeTask ns).1.isSome ↔ 0 < boxLength (Node.boxedText ns)) ∧
      (takeTask ns).2.flatMap Node.fullText =
        (ns.flatMap Node.fullText).drop (boxLength (Node.boxedText ns)) := by
  rcases takeTask_cases ns with ⟨same, plain⟩ |
      ⟨p, rest, m, ms, done, text, rfl, paragraph, children, isText, marker, taken⟩
  · rw [same, plain]
    exact ⟨by simp, rfl⟩
  · have boxed : Node.boxedText (p :: rest) = m.ownText := by
      simp only [Node.boxedText, Node.leadingText, paragraph, children, isText, if_true]
    obtain ⟨box, left⟩ := boxLength_of_taskMarker_eq_some marker
    have within : boxLength m.ownText ≤ m.fullText.length := by
      rw [Node.fullText_eq, List.length_append]
      exact Nat.le_add_right_of_le (boxLength_le _)
    have before : p.fullText = m.fullText ++ ms.flatMap Node.fullText := by
      rw [Node.fullText_eq, silent p rfl paragraph, children, List.nil_append, List.flatMap_cons]
    have after : (p.withChildren ({ m with value := some text } :: ms)).fullText =
        m.fullText.drop (boxLength m.ownText) ++ ms.flatMap Node.fullText := by
      rw [Node.fullText_eq, Node.childList_withChildren, List.flatMap_cons, fullText_withValue left]
      exact congrArg (· ++ _) (silent p rfl paragraph)
    rw [taken, boxed]
    refine ⟨⟨fun _ => box, fun _ => rfl⟩, ?_⟩
    rw [List.flatMap_cons, List.flatMap_cons, before, after, List.append_assoc, List.append_assoc,
      List.drop_append_of_le_length within]

/-! ### Whole trees -/

theorem fullText_of_buildEach
    (each : ∀ t ∈ ts, ∀ ns, build position t = .ok ns → ns.flatMap Node.fullText = t.fullText)
    (h : buildEach position ts = .ok cs) :
    cs.flatMap Node.fullText = ts.flatMap Tree.fullText := by
  induction ts generalizing cs with
  | nil =>
    rw [buildEach_nil.1 h]
    rfl
  | cons t ts ih =>
    obtain ⟨as, bs, first, others, rfl⟩ := buildEach_cons.1 h
    rw [List.flatMap_append, List.flatMap_cons, each t List.mem_cons_self as first,
      ih (fun u hu => each u (List.mem_cons_of_mem t hu)) others]

/-- The nodes that a tree becomes have its text, but for the box of a task. -/
theorem fullText_of_build (h : build position t = .ok ns) :
    ns.flatMap Node.fullText = t.fullText := by
  induction t using Tree.induct generalizing ns with
  | step t ih =>
    obtain ⟨cs, each, formed⟩ := formed_of_build h
    have closed := closed_of_buildEach each
    have below : cs.flatMap Node.fullText = t.parts.flatMap Tree.fullText :=
      fullText_of_buildEach (fun u hu ns built => ih u (Tree.sizeOf_lt_of_mem_parts hu) built) each
    cases formed with
    | spliced inline =>
      rw [additive_fullText.flatMap_joinTexts closed, below, parts_of_kind inline (by decide),
        Tree.fullText_of_wrapper (by simp [inline])]
    | @node n _ _ text children =>
      rw [List.flatMap_singleton, Node.fullText_eq, Tree.fullText_eq, text, ← below]
      refine congrArg (t.ownText ++ ·) ?_
      cases children with
      | joined item _ children =>
        rw [children, additive_fullText.flatMap_joinTexts closed, Tree.boxWidth_of_ne item,
          List.drop_zero]
      | regrouped table groups =>
        rw [additive_fullText.flatMap_regroups groups closed,
          Tree.boxWidth_of_ne (by simp [table]), List.drop_zero]
      | task item _ children =>
        rw [parts_of_kind item (by decide)] at each
        obtain ⟨boxed, silent⟩ := boxedText_of_buildEach each
        rw [children, (takeTask_eq silent).2, additive_fullText.flatMap_joinTexts closed, boxed,
          Tree.boxWidth, if_pos item]

theorem fullText_of_buildAll (h : buildAll position ts = .ok ns) :
    ns.flatMap Node.fullText = ts.flatMap Tree.fullText := by
  obtain ⟨cs, each, rfl⟩ := buildAll_eq_ok.1 h
  have closed := closed_of_buildEach each
  rw [additive_fullText.flatMap_joinTexts closed]
  exact fullText_of_buildEach (fun _ _ _ built => fullText_of_build built) each

/-- A list item is a task if a box with blanks behind it is in front of its text. -/
theorem isTask_iff (item : t.kind = "list_item") (h : Becomes position t n) :
    n.checked.isSome ↔ 0 < t.boxWidth := by
  have made : BecomesNode position t n := ⟨by simp [item], h⟩
  obtain ⟨cs, each, _, _, below⟩ := made.formed
  rw [parts_of_kind item (by decide)] at each
  obtain ⟨boxed, silent⟩ := boxedText_of_buildEach each
  rw [Tree.boxWidth, if_pos item, ← boxed]
  cases below with
  | joined other _ _ => exact absurd item other
  | regrouped table _ => exact absurd (item.symm.trans table) (by decide)
  | task _ checked _ => rw [checked, (takeTask_eq silent).1]

/-- What is spliced into the place of a tree has its text. -/
theorem Tree.fullText_spliced (t : Tree) : t.spliced.flatMap Tree.fullText = t.fullText := by
  induction t using Tree.induct with
  | step t ih =>
    by_cases inline : t.kind = "inline"
    · have each : ∀ u ∈ t.children, u.spliced.flatMap Tree.fullText = u.fullText :=
        fun u hu => ih u (Tree.sizeOf_lt_of_mem hu)
      rw [Tree.spliced_of_inline inline, List.flatMap_assoc, List.flatMap_congr each,
        Tree.fullText_of_wrapper (by simp [inline])]
    · rw [Tree.spliced_of_ne inline, List.flatMap_singleton]

theorem Tree.fullText_of_text (text : t.kind ∈ Tree.textKinds) : t.fullText = t.ownText := by
  have closed : ∀ kind ∈ Tree.textKinds, kind ∈ Tree.closedKinds := by decide
  rw [Tree.fullText_eq, Tree.parts, if_pos (closed _ text), List.flatMap_nil, List.drop_nil,
    List.append_nil]

theorem Tree.flatMap_fullText_spliced (ts : List Tree) :
    (ts.flatMap Tree.spliced).flatMap Tree.fullText = ts.flatMap Tree.fullText := by
  rw [List.flatMap_assoc]
  exact List.flatMap_congr fun t _ => Tree.fullText_spliced t

/-- The text that trees begin with is at the beginning of their text. -/
theorem Tree.leadingText_isPrefix (ts : List Tree) :
    Tree.leadingText ts <+: ts.flatMap Tree.fullText := by
  have own : Tree.leadingText ts =
      ((ts.flatMap Tree.spliced).takeWhile (·.kind ∈ Tree.textKinds)).flatMap Tree.fullText := by
    refine List.flatMap_congr fun t ht => (Tree.fullText_of_text ?_).symm
    simpa using List.mem_takeWhile_imp ht
  rw [own, ← Tree.flatMap_fullText_spliced ts]
  exact List.IsPrefix.flatMap (List.takeWhile_prefix _) _

/-- The box of a task is looked for at the beginning of the text of its item. -/
theorem Tree.boxedText_isPrefix (ts : List Tree) :
    Tree.boxedText ts <+: ts.flatMap Tree.fullText := by
  rw [Tree.boxedText, ← Tree.flatMap_fullText_spliced]
  split
  · next p us first =>
    split
    · next paragraph =>
      rw [first, List.flatMap_cons, Tree.fullText_of_wrapper (by simp [paragraph])]
      exact List.prefix_append_of_prefix (Tree.leadingText_isPrefix p.children)
    · exact List.nil_prefix
  · exact List.nil_prefix

/-! ### Documents -/

variable {env : Environment} {doc : Node}

theorem fullText_of_inlineFootnote {number : Int} {tokens : List Token}
    (made : inlineFootnote position number tokens = .ok n) :
    n.fullText = (treesOf tokens).flatMap Tree.fullText := by
  obtain ⟨children, body, rfl⟩ := inlineFootnote_eq_ok made
  rw [← fullText_of_buildAll body, Node.fullText_eq]
  change [({ kind := "paragraph", children := some children } : Node)].flatMap _ = _
  rw [List.flatMap_singleton, Node.fullText_eq]
  rfl

theorem fullText_of_inlineNotes {fs : List (Int × List Token)} {notes : List Node}
    (made : List.Forall₂ (fun f n => inlineFootnote position f.1 f.2 = .ok n) fs notes) :
    notes.flatMap Node.fullText = fs.flatMap fun f => (treesOf f.2).flatMap Tree.fullText := by
  induction made with
  | nil => rfl
  | cons first _ ih =>
    rw [List.flatMap_cons, List.flatMap_cons, fullText_of_inlineFootnote first, ih]

theorem nest?_eq_treesOf {number : Int} {tokens : List Token}
    (made : inlineFootnote position number tokens = .ok n) :
    Tree.nest? tokens = some (treesOf tokens) := by
  unfold inlineFootnote at made
  split at made
  · contradiction
  · next trees nested =>
    rw [treesOf, nested]
    rfl

theorem inlineNotes_perm (env : Environment) :
    env.inlineNotes.Perm
      (env.footnotes.filterMap fun f => f.2.map fun tokens => (f.1, tokens)) :=
  List.mergeSort_perm ..

theorem inlineNotes_sorted (env : Environment) :
    env.inlineNotes.Pairwise fun f g => f.1 ≤ g.1 := by
  have transitive (a b c : Int × List Token) (first : decide (a.1 ≤ b.1) = true)
      (second : decide (b.1 ≤ c.1) = true) : decide (a.1 ≤ c.1) = true := by
    rw [decide_eq_true_eq] at *
    omega
  have total (a b : Int × List Token) : (decide (a.1 ≤ b.1) || decide (b.1 ≤ a.1)) = true := by
    rw [Bool.or_eq_true, decide_eq_true_eq, decide_eq_true_eq]
    omega
  exact (List.pairwise_mergeSort transitive total _).imp fun ordered => of_decide_eq_true ordered

/-- A document loses, doubles and moves no text. Its values in order are the text of its trees,
followed by that of the inline footnotes by their numbers, and from each of them nothing is missing
but the boxes of those list items that are tasks. -/
theorem fullText_of_document (built : buildDocument position ts env = .ok doc) :
    doc.fullText = ts.flatMap Tree.fullText ++
        env.inlineNotes.flatMap (fun f => (treesOf f.2).flatMap Tree.fullText) ∧
      (∀ f ∈ env.inlineNotes, Tree.nest? f.2 = some (treesOf f.2)) ∧
      env.inlineNotes.Perm
        (env.footnotes.filterMap fun f => f.2.map fun tokens => (f.1, tokens)) ∧
      (env.inlineNotes.Pairwise fun f g => f.1 ≤ g.1) ∧
      ∀ (t : Tree) (n : Node), t.kind = "list_item" → Becomes position t n →
        (n.checked.isSome ↔ 0 < t.boxWidth) ∧
          Tree.boxedText t.children <+: t.children.flatMap Tree.fullText := by
  obtain ⟨body, targets, notes, first, plain, third, rfl⟩ := buildDocument_eq_ok built
  refine ⟨?_, fun f hf => ?_, inlineNotes_perm env, inlineNotes_sorted env, fun t n item made =>
    ⟨isTask_iff item made, Tree.boxedText_isPrefix t.children⟩⟩
  · have empty : targets.flatMap Node.fullText = [] := by
      refine List.flatMap_eq_nil_iff.2 fun n hn => ?_
      rw [Node.fullText_eq, Node.ownText, (plain n hn).value, (plain n hn).childless]
      rfl
    rw [← fullText_of_buildAll first, ← fullText_of_inlineNotes third, Node.fullText_eq]
    change (body ++ targets ++ notes).flatMap Node.fullText = _
    rw [List.flatMap_append, List.flatMap_append, empty, List.append_nil]
  · obtain ⟨n, _, made⟩ := exists_of_forall₂ third.flip hf
    exact nest?_eq_treesOf made

/-- An item with a line break behind its box, one with code behind its box instead of blanks, a
table and an image. -/
def mixed : List Tree :=
  let text (s : String) : Tree := { kind := "text", content := some s }
  let paragraph (children : List Tree) : Tree :=
    { kind := "paragraph", children := [{ kind := "inline", children }] }
  let around (kind : String) (children : List Tree) : Tree := { kind, children }
  [around "bullet_list" [
      around "list_item" [paragraph [text "[x]", { kind := "softbreak" }, text " done",
        around "em" [text "!"]]],
      around "list_item" [paragraph [text "[x]",
        { kind := "code_inline", content := some "code" }]]],
    around "table" [around "thead" [around "tr" [around "th" [around "inline" [text "cell"]]]]],
    { kind := "image", content := some "picture" }]

/-- Two inline footnotes, the second one first. -/
def secondFirst : Environment :=
  { footnotes := [(1, some [{ kind := "text", content := some "second" }]),
      (0, some [{ kind := "text", content := some "first" }])] }

/-- The document of these trees and footnotes. -/
def mixedDocument : Node :=
  let footnote (id text : String) : Node :=
    { kind := "footnoteDefinition", identifier := some id, label := some id,
      children := some [.branch "paragraph" [.leaf "text" text]] }
  .branch "root" [
    { kind := "list", ordered := some false, children := some [
        { kind := "listItem", checked := some true, children := some [.branch "paragraph" [
            .leaf "text" "done", .branch "emphasis" [.leaf "text" "!"]]] },
        .branch "listItem" [.branch "paragraph" [
            .leaf "text" "[x]", .leaf "inlineCode" "code"]]] },
    { kind := "table", align := some (.columns [none]), children := some [
        .branch "tableHeader" [.branch "tableCell" [.leaf "text" "cell"]]] },
    { kind := "image", alt := some "picture" },
    footnote "1" "first", footnote "2" "second"]

/-- All text of the example is in its document, in order and without the one box. -/
theorem mixed_fullText :
    buildDocument false mixed secondFirst = .ok mixedDocument ∧
      mixed.flatMap Tree.fullText ++
          secondFirst.inlineNotes.flatMap (fun f => (treesOf f.2).flatMap Tree.fullText) =
        "done![x]codecellfirstsecond".toList ∧
      mixedDocument.fullText = "done![x]codecellfirstsecond".toList := by
  have built : buildDocument false mixed secondFirst = .ok mixedDocument := by cbv
  have text : mixed.flatMap Tree.fullText ++
      secondFirst.inlineNotes.flatMap (fun f => (treesOf f.2).flatMap Tree.fullText) =
        "done![x]codecellfirstsecond".toList := by cbv
  exact ⟨built, text, (fullText_of_document built).1.trans text⟩

end Syntax

end MarkdownTree
