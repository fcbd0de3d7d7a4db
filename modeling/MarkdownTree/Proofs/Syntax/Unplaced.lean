import MarkdownTree.Proofs.Decoration
import MarkdownTree.Proofs.Syntax.Content
import MarkdownTree.Proofs.Syntax.Tables

/-!
# Documents without places

Whether the builder notes places makes no difference to anything but the places: what it makes
without them is what it makes with them, once these are taken away (`buildDocument_unplaced`), and
this includes the faults. Every step is compared in this form, `f false = unplaced <$> f position`,
so that the steps compose: joining texts, taking the box off a task and grouping the cells of a
table all commute with taking places away, as none of them looks at a place.
-/

namespace MarkdownTree

namespace Node

/-- The tree without places in the source. -/
def unplaced (n : Node) : Node :=
  { n with
    children := n.children.map fun _ => n.childList.attach.map fun c => unplaced c.1
    position := none }
termination_by sizeOf n
decreasing_by exact sizeOf_lt_of_mem c.2

theorem unplaced_eq (n : Node) :
    n.unplaced = { n with children := n.children.map (List.map unplaced), position := none } := by
  rw [unplaced, map_children_attach]

/-- What is left of the decoration of a node without its place. -/
def Decoration.unplaced (d : Decoration) : Decoration := { d with position := none }

/-- Only decoration is changed. -/
theorem unplaced_eq_mapChildren (n : Node) :
    n.unplaced = (n.decorated n.decoration.unplaced).mapChildren Node.unplaced := by
  rw [unplaced_eq]
  rfl

theorem masking_unplaced : Masking Decoration.unplaced unplaced :=
  masking_of_eq unplaced_eq_mapChildren rfl

theorem position_of_mem_preorder_unplaced {n m : Node} (h : m ∈ n.unplaced.preorder) :
    m.position = none := by
  rw [masking_unplaced.preorder] at h
  obtain ⟨m, _, rfl⟩ := List.mem_map.1 h
  rw [unplaced_eq]

@[simp] theorem kind_unplaced (n : Node) : n.unplaced.kind = n.kind := by
  rw [unplaced_eq]

@[simp] theorem value_unplaced (n : Node) : n.unplaced.value = n.value := by
  rw [unplaced_eq]

theorem unplaced_withChildren (n : Node) (cs : List Node) :
    (n.withChildren cs).unplaced = n.unplaced.withChildren (cs.map unplaced) := by
  rw [unplaced_eq, unplaced_eq n]
  rfl

@[simp] theorem childList_unplaced (n : Node) :
    n.unplaced.childList = n.childList.map unplaced := masking_unplaced.childList n

theorem unplaced_withValue (n : Node) (value : Option String) :
    ({ n with value } : Node).unplaced = { n.unplaced with value } := by
  rw [unplaced_eq, unplaced_eq n]

end Node

namespace Syntax

open MarkdownTree.Syntax.Tree Node

variable {position : Bool} {t : Tree} {ts : List Tree}

/-- What a builder makes, without places. -/
def unplace (x : Build (List Node)) : Build (List Node) := List.map Node.unplaced <$> x

theorem unplaced_consText (n : Node) (ns : List Node) :
    (consText n ns).map unplaced = consText n.unplaced (ns.map unplaced) := by
  cases ns with
  | nil => rfl
  | cons m ms =>
    by_cases both : n.kind = "text" ∧ m.kind = "text"
    · rw [consText_of_both both, List.map_cons, List.map_cons,
        consText_of_both (by simpa using both), unplaced_withValue, value_unplaced, value_unplaced]
    · rw [consText_of_not_both both, List.map_cons, List.map_cons,
        consText_of_not_both (by simpa using both)]

theorem unplaced_joinTexts (ns : List Node) :
    (joinTexts ns).map unplaced = joinTexts (ns.map unplaced) := by
  induction ns with
  | nil => rfl
  | cons n ns ih => rw [joinTexts_cons, unplaced_consText, ih, List.map_cons, joinTexts_cons]

theorem takeTask_unplaced (ns : List Node) :
    takeTask (ns.map unplaced) = ((takeTask ns).1, (takeTask ns).2.map unplaced) := by
  cases ns with
  | nil => rfl
  | cons p rest =>
    by_cases paragraph : p.kind = "paragraph"
    · cases children : p.childList with
      | nil => simp [takeTask, children]
      | cons m ms =>
        by_cases text : m.kind = "text"
        · cases marker : taskMarker (m.value.getD "") with
          | none => simp [takeTask, paragraph, children, marker]
          | some found =>
            have below : p.unplaced.childList = m.unplaced :: ms.map Node.unplaced := by
              rw [childList_unplaced, children]
              rfl
            rw [takeTask_of_marker paragraph children text marker, List.map_cons,
              takeTask_of_marker (by simpa using paragraph) below (by simpa using text)
                (by simpa using marker),
              List.map_cons, unplaced_withChildren, List.map_cons, unplaced_withValue]
        · simp [takeTask, paragraph, children, text]
    · simp [takeTask, paragraph]

theorem withLabel_unplaced (label : Value) (n : Node) :
    withLabel label n.unplaced = unplaced <$> withLabel label n := by
  cases label with
  | string s =>
    rw [unplaced_eq n]
    refine congrArg Except.ok ?_
    rw [unplaced_eq]
  | _ => rfl

theorem withTarget_map (f : Node → Node) (field : String) (title target : Value)
    (make : Option String → Option String → Node) :
    withTarget field title target (fun title target => f (make title target)) =
      f <$> withTarget field title target make := by
  unfold withTarget
  rcases (Check.nullable Check.text title).within "title" with title | reasons <;>
    rcases (Check.nullable Check.text target).within field with target | reasons' <;> rfl

/-- A single node that is built without places. -/
theorem single_unplaced {x y : Build Node} (h : y = unplaced <$> x) :
    (fun n => [n]) <$> y = (fun n => [n.unplaced]) <$> x := by
  rw [h, Functor.map_map]

/-- By the kind of the tree, given that its children are built alike. -/
theorem build_unplaced_of_ne (table : t.kind ≠ "table")
    (ih : buildAll false t.children = unplace (buildAll position t.children)) :
    build false t = unplace (build position t) := by
  rw [build, build, ih]
  dsimp only
  cases Entries.get? containerKinds t.kind with
  | some kind => simp [unplace, unplaced_eq, placeOf]
  | none =>
    dsimp only
    split
    case h_11 => contradiction
    case h_13 =>
      simp only [unplace, map_bind, bind_map_left, bind_pure_comp, Functor.map_map,
        List.map_singleton]
      refine bind_congr fun label => bind_congr fun ns => single_unplaced ?_
      rw [← withLabel_unplaced, unplaced_eq]
      rfl
    case h_14 =>
      simp only [unplace, map_bind, bind_pure_comp, Functor.map_map, List.map_singleton]
      refine bind_congr fun label => single_unplaced ?_
      rw [← withLabel_unplaced, unplaced_eq]
      rfl
    case h_19 =>
      simp only [unplace, map_bind, bind_map_left, bind_pure_comp, Functor.map_map,
        List.map_singleton]
      refine bind_congr fun ns => single_unplaced ?_
      rw [← withTarget_map]
      simp [unplaced_eq]
    case h_20 =>
      simp only [unplace, bind_pure_comp, Functor.map_map, List.map_singleton]
      refine single_unplaced ?_
      rw [← withTarget_map]
      simp [unplaced_eq]
    case h_21 =>
      have present (ns : List Node) :
          (if ns = [] then none else some ns).map (List.map unplaced) =
            if ns = [] then none else some (ns.map unplaced) := by
        split <;> rfl
      simp [unplace, unplaced_eq, present, placeOf]
    all_goals simp [unplace, unplaced_eq, placeOf, takeTask_unplaced]

/-! ### Tables -/

/-- The content of a table, without places. -/
def TableContent.unplaced (content : TableContent) : TableContent :=
  { content with children := content.children.map Node.unplaced }

/-- The tree becomes the same nodes with and without places, up to these. -/
def PlacesOnly (position : Bool) (t : Tree) : Prop := build false t = unplace (build position t)

theorem buildAll_of_placesOnly (alike : ∀ u ∈ ts, PlacesOnly position u) :
    buildAll false ts = unplace (buildAll position ts) := by
  have each : buildEach false ts = unplace (buildEach position ts) := by
    induction ts with
    | nil =>
      rw [buildEach, buildEach]
      rfl
    | cons t ts ih =>
      rw [List.forall_mem_cons] at alike
      rw [buildEach, buildEach, show build false t = _ from alike.1, ih alike.2]
      simp [unplace]
  rw [buildAll, buildAll, each]
  simp [unplace, unplaced_joinTexts]

theorem buildCells_of_placesOnly
    (alike : ∀ cell ∈ ts, ∀ u ∈ cell.children, PlacesOnly position u) :
    buildCells false ts = unplace (buildCells position ts) := by
  induction ts with
  | nil =>
    rw [buildCells, buildCells]
    rfl
  | cons cell ts ih =>
    rw [List.forall_mem_cons] at alike
    rw [buildCells, buildCells, buildAll_of_placesOnly alike.1, ih alike.2]
    simp [unplace, unplaced_eq, placeOf]

theorem buildRows_of_placesOnly {kind : String} {lines : Option (Int × Int)}
    (content : TableContent)
    (alike : ∀ row ∈ ts, ∀ cell ∈ row.children, ∀ u ∈ cell.children, PlacesOnly position u) :
    buildRows false kind lines content.unplaced ts =
      TableContent.unplaced <$> buildRows position kind lines content ts := by
  induction ts generalizing content with
  | nil =>
    rw [buildRows, buildRows]
    rfl
  | cons row ts ih =>
    rw [List.forall_mem_cons] at alike
    rw [buildRows, buildRows, buildCells_of_placesOnly alike.1]
    simp only [unplace, bind_map_left, map_bind]
    refine bind_congr fun cells => ?_
    rw [← ih _ alike.2]
    congr 1
    split <;> simp [TableContent.unplaced, unplaced_eq, placeOf]

theorem buildSections_of_placesOnly (content : TableContent)
    (alike : ∀ section_ ∈ ts, ∀ row ∈ section_.children, ∀ cell ∈ row.children,
      ∀ u ∈ cell.children, PlacesOnly position u) :
    buildSections false content.unplaced ts =
      TableContent.unplaced <$> buildSections position content ts := by
  induction ts generalizing content with
  | nil =>
    rw [buildSections, buildSections]
    rfl
  | cons section_ ts ih =>
    rw [List.forall_mem_cons] at alike
    rw [buildSections, buildSections, buildRows_of_placesOnly content alike.1]
    simp only [bind_map_left, map_bind]
    exact bind_congr fun content => ih content alike.2

/-- A tree becomes the same nodes up to their places. By induction on the tree. -/
theorem build_unplaced (position : Bool) (t : Tree) : PlacesOnly position t := by
  induction t using Tree.induct with
  | step t ih =>
    by_cases table : t.kind = "table"
    · have alike : ∀ section_ ∈ t.children, ∀ row ∈ section_.children, ∀ cell ∈ row.children,
          ∀ u ∈ cell.children, PlacesOnly position u :=
        fun _ inTable _ inSection _ inRow u inCell =>
          ih u ((sizeOf_lt_of_mem inCell).trans ((sizeOf_lt_of_mem inRow).trans
            ((sizeOf_lt_of_mem inSection).trans (sizeOf_lt_of_mem inTable))))
      have sections : buildSections false {} t.children =
          TableContent.unplaced <$> buildSections position {} t.children :=
        buildSections_of_placesOnly {} alike
      rw [PlacesOnly, build_table table, build_table table, sections]
      simp [unplace, TableContent.unplaced, unplaced_eq, placeOf]
    · have alike : ∀ u ∈ t.children, PlacesOnly position u := fun u hu => ih u (sizeOf_lt_of_mem hu)
      exact build_unplaced_of_ne table (buildAll_of_placesOnly alike)

theorem buildAll_unplaced (position : Bool) (ts : List Tree) :
    buildAll false ts = unplace (buildAll position ts) :=
  buildAll_of_placesOnly fun t _ => build_unplaced position t

/-! ### Documents -/

theorem definitionNode_unplaced (label : String) (r : Reference) :
    unplaced <$> definitionNode label r = definitionNode label r := by
  rw [definitionNode, ← withTarget_map]
  simp [unplaced_eq]

theorem inlineFootnote_unplaced (number : Int) (tokens : List Token) :
    inlineFootnote false number tokens = unplaced <$> inlineFootnote position number tokens := by
  unfold inlineFootnote
  split
  · rfl
  · rw [buildAll_unplaced position]
    simp [unplace, unplaced_eq]

theorem mapM_unplaced {f g : α → Build Node} {as : List α}
    (each : ∀ a ∈ as, f a = unplaced <$> g a) : as.mapM f = unplace (as.mapM g) := by
  induction as with
  | nil => rfl
  | cons a as ih =>
    rw [List.forall_mem_cons] at each
    rw [List.mapM_cons, List.mapM_cons, each.1, ih each.2]
    simp [unplace]

/-- A document that is built without places is the one with them, without its places. -/
theorem buildDocument_unplaced (position : Bool) (ts : List Tree) (env : Environment) :
    buildDocument false ts env = unplaced <$> buildDocument position ts env := by
  have targets : env.references.mapM (fun r => definitionNode r.1 r.2) =
      unplace (env.references.mapM fun r => definitionNode r.1 r.2) :=
    mapM_unplaced fun r _ => (definitionNode_unplaced r.1 r.2).symm
  have notes : inlineFootnotes false env.footnotes =
      unplace (inlineFootnotes position env.footnotes) :=
    mapM_unplaced fun f _ => inlineFootnote_unplaced f.1 f.2
  rw [buildDocument, buildDocument, buildAll_unplaced position, notes]
  conv_lhs => rw [targets]
  simp [unplace, unplaced_eq]

theorem documentOfTokens_unplaced (position : Bool) (tokens : List Token) (env : Environment) :
    documentOfTokens false tokens env = unplaced <$> documentOfTokens position tokens env := by
  unfold documentOfTokens
  split
  · rfl
  · exact buildDocument_unplaced position _ env

end Syntax

end MarkdownTree
