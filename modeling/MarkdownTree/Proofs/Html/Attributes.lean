import MarkdownTree.Proofs.Conversion.Keys
import MarkdownTree.Proofs.Html.RoundTrip

/-!
# Attributes that stand twice in a start tag

The props of an element have distinct names, but two of them can become the same attribute: an
alignment is written as a style, also beside a prop that is called `style`. Of two attributes with
one name HTML takes the first, so the other prop has no effect. These are the only props that meet
(`nodup_attributeNames_iff`).

`Markup.pieces` is what the HTML of a tree is put together from, so that one can speak of the start
tags in it. That the props of a converted tree have distinct names is read off its outline.
-/

namespace MarkdownTree

namespace Html

/-- A prop that is written as an attribute. -/
def IsWritten (p : String × Value) : Prop :=
  p.1 ∉ Markup.reservedProps ∧ p.2 ≠ .null ∧ p.2 ≠ .bool false

/-- The element has a prop of this name that is written. -/
def HasAttribute (props : Fields) (name : String) : Prop :=
  ∃ v, (name, v) ∈ props ∧ IsWritten (name, v)

/-- The name of the attribute that a prop is written as. -/
def attributeName (p : String × Value) : String := if p.1 = "align" then "style" else p.1

/-- The names of the attributes that the props of an element are written as, in order. -/
def attributeNames (props : Fields) : List String := (props.filterMap ofProp).map Prod.fst

variable {p : String × Value} {props : Fields}

theorem isSome_ofProp : (ofProp p).isSome = true ↔ IsWritten p := by
  unfold ofProp IsWritten Markup.reservedProps
  grind

theorem fst_of_ofProp {a : String × Option String} (h : ofProp p = some a) :
    a.1 = attributeName p := by
  unfold ofProp at h
  unfold attributeName
  grind

theorem attributeNames_eq (props : Fields) :
    attributeNames props = (props.filter fun p => (ofProp p).isSome).map attributeName := by
  rw [attributeNames]
  induction props with
  | nil => rfl
  | cons p props ih =>
    cases h : ofProp p with
    | none => simp [h, ih]
    | some a => simp [h, ih, fst_of_ofProp h]

/-- Two props become one attribute if and only if they are an alignment and a style. -/
theorem nodup_attributeNames_iff (distinct : (Entries.keys props).Nodup) :
    (attributeNames props).Nodup ↔
      ¬ (HasAttribute props "align" ∧ HasAttribute props "style") := by
  have same {p q : String × Value} (hp : p ∈ props) (hq : q ∈ props) (h : p.1 = q.1) : p = q :=
    List.inj_on_of_nodup_map distinct hp hq h
  have written {p : String × Value} :
      p ∈ props.filter (fun p => (ofProp p).isSome) ↔ p ∈ props ∧ IsWritten p := by
    rw [List.mem_filter, isSome_ofProp]
  have all : (props.filter fun p => (ofProp p).isSome).Nodup := (distinct.of_map _).filter _
  rw [attributeNames_eq, List.nodup_map_iff_inj_on all]
  constructor
  · rintro apart ⟨⟨v, align, hv⟩, w, style, hw⟩
    have one := apart _ (written.2 ⟨align, hv⟩) _ (written.2 ⟨style, hw⟩) rfl
    exact absurd (show "align" = "style" from congrArg Prod.fst one) (by decide)
  · intro unmet p hp q hq alike
    obtain ⟨hp, wp⟩ := written.1 hp
    obtain ⟨hq, wq⟩ := written.1 hq
    refine same hp hq ?_
    unfold attributeName at alike
    split at alike <;> split at alike
    · next hp' hq' => exact hp'.trans hq'.symm
    · next aligned _ =>
      exact absurd ⟨⟨p.2, aligned ▸ hp, aligned ▸ wp⟩, q.2, alike ▸ hq, alike ▸ wq⟩ unmet
    · next _ aligned =>
      exact absurd ⟨⟨q.2, aligned ▸ hq, aligned ▸ wq⟩, p.2, alike ▸ hp, alike ▸ wp⟩ unmet
    · exact alike

/-- Where no name stands twice, every prop that is written is found under the name of its
attribute. -/
theorem get?_attributes (apart : (attributeNames props).Nodup) (member : p ∈ props)
    (written : IsWritten p) :
    ∃ value, ofProp p = some (attributeName p, value) ∧
      Entries.get? (props.filterMap ofProp) (attributeName p) = some value := by
  obtain ⟨⟨name, value⟩, made⟩ := Option.isSome_iff_exists.1 (isSome_ofProp.2 written)
  obtain rfl : name = attributeName p := fst_of_ofProp made
  refine ⟨value, made, Entries.get?_of_mem apart ?_⟩
  exact List.mem_filterMap.2 ⟨p, member, made⟩

end Html

/-- What the HTML of a tree is put together from. -/
inductive Piece where
  | start (tag : String) (props : Fields)
  | text (s : String)
  /-- The content that a prop holds, which is written as it is. -/
  | raw (s : String)
  | close (tag : String)

/-- A start tag in which an attribute stands twice. -/
def Piece.repeats : Piece → Bool
  | .start _ props => !decide (Html.attributeNames props).Nodup
  | _ => false

/-- A piece as it is written. -/
def Piece.written : Piece → List Char
  | .start tag props =>
    '<' :: tag.toList ++ (props.filterMap Html.ofProp).flatMap Html.written ++ ['>']
  | .text s => Text.escapeText s
  | .raw s => s.toList
  | .close tag => '<' :: '/' :: tag.toList ++ ['>']

namespace Markup

mutual

/-- The pieces of the HTML of a tree. -/
def pieces : Markup → List Piece
  | .text s => [.text s]
  | .element (.component _) _ _ => []
  | .element (.name tag) props children =>
    if tag ∈ voidTags then [.start tag props]
    else
      let content := match Entries.get? props "innerHTML" with
        | none => piecesOfAll children
        | some .null => piecesOfAll children
        | some v => [.raw v.text]
      .start tag props :: content ++ [.close tag]

/-- The pieces of the HTML of several trees. -/
def piecesOfAll : List Markup → List Piece
  | [] => []
  | m :: ms => pieces m ++ piecesOfAll ms

end

mutual

theorem html_eq_pieces (m : Markup) : html m = (pieces m).flatMap Piece.written := by
  match m with
  | .text s => simp [html, pieces, Piece.written]
  | .element (.component name) props children => rfl
  | .element (.name tag) props children =>
    rw [html, pieces]
    split
    · simp [Piece.written, Html.attributes_eq]
    · rw [htmlOfAll_eq_pieces children]
      rcases Entries.get? props "innerHTML" with _ | _ | _ <;>
        simp [Piece.written, Html.attributes_eq]

theorem htmlOfAll_eq_pieces (ms : List Markup) :
    htmlOfAll ms = (piecesOfAll ms).flatMap Piece.written := by
  match ms with
  | [] => rfl
  | m :: ms =>
    rw [htmlOfAll, piecesOfAll, List.flatMap_append, html_eq_pieces m, htmlOfAll_eq_pieces ms]

end

mutual

/-- No element of the tree is made by a component. -/
def isExpanded : Markup → Bool
  | .text _ => true
  | .element (.component _) _ _ => false
  | .element (.name _) _ children => areExpanded children

/-- No element of the trees is made by a component. -/
def areExpanded : List Markup → Bool
  | [] => true
  | m :: ms => isExpanded m && areExpanded ms

end

mutual

theorem expand_of_isExpanded (component? : String → Option Component) (fuel : Nat) (m : Markup)
    (h : m.isExpanded = true) : expand component? fuel m = some m := by
  match m with
  | .text s => rw [expand]
  | .element (.name tag) props children =>
    rw [expand, expandAll_of_areExpanded component? fuel children h]

theorem expandAll_of_areExpanded (component? : String → Option Component) (fuel : Nat)
    (ms : List Markup) (h : areExpanded ms = true) : expandAll component? fuel ms = ms := by
  match ms with
  | [] => rw [expandAll]
  | m :: ms =>
    rw [areExpanded, Bool.and_eq_true] at h
    rw [expandAll, expand_of_isExpanded component? fuel m h.1,
      expandAll_of_areExpanded component? fuel ms h.2]
    rfl

end

/-! ### Props with distinct names -/

/-- The props of every element in the tree have distinct names. -/
def DistinctProps (m : Markup) : Prop :=
  ∀ tag props children, .element tag props children ∈ m.trees → (Entries.keys props).Nodup

/-- A component that is given props with distinct names makes such props. -/
def Component.Orderly (make : Component) : Prop :=
  ∀ props children m, (Entries.keys props).Nodup → (∀ d ∈ children, d.DistinctProps) →
    make props children = some m → m.DistinctProps

variable {m : Markup} {tag : Tag} {props : Fields} {children : List Markup}

theorem distinctProps_text (s : String) : DistinctProps (.text s) := by
  intro tag props children there
  rw [trees, List.mem_singleton] at there
  cases there

theorem distinctProps_element_iff : DistinctProps (.element tag props children) ↔
    (Entries.keys props).Nodup ∧ ∀ d ∈ children, d.DistinctProps := by
  constructor
  · intro all
    refine ⟨all tag props children (by simp [trees]), fun d member => ?_⟩
    intro tag' props' children' there
    refine all tag' props' children' ?_
    rw [trees, List.mem_cons, mem_treesOfAll]
    exact .inr ⟨d, member, there⟩
  · rintro ⟨own, each⟩ tag' props' children' there
    rw [trees, List.mem_cons, mem_treesOfAll] at there
    rcases there with same | ⟨d, member, there⟩
    · cases same
      exact own
    · exact each d member tag' props' children' there

/-- Orderly components do not change that, by induction on how they are replaced. -/
theorem DistinctProps.expand {component? : String → Option Component}
    (orderly : ∀ name make, component? name = some make → make.Orderly) (fuel : Nat) (m : Markup) :
    m.DistinctProps → ∀ m', Markup.expand component? fuel m = some m' → m'.DistinctProps := by
  refine (expand.mutual_induct component?
    (fun fuel m => m.DistinctProps → ∀ m', Markup.expand component? fuel m = some m' →
      m'.DistinctProps)
    (fun fuel ms => (∀ d ∈ ms, d.DistinctProps) → ∀ d ∈ expandAll component? fuel ms,
      d.DistinctProps) ?_ ?_ ?_ ?_ ?_ ?_ ?_ ?_).1 fuel m
  · intro fuel s distinct m' made
    rw [Markup.expand] at made
    cases made
    exact distinct
  · intro fuel tag props children ih distinct m' made
    rw [Markup.expand] at made
    cases made
    obtain ⟨own, each⟩ := distinctProps_element_iff.1 distinct
    exact distinctProps_element_iff.2 ⟨own, ih each⟩
  · intro name props children distinct m' made
    rw [Markup.expand] at made
    cases made
  · intro fuel name props children unknown distinct m' made
    simp only [Markup.expand, unknown] at made
    cases made
  · intro fuel name props children make known nothing distinct m' made
    simp only [Markup.expand, known, nothing] at made
    cases made
  · intro fuel name props children make known m makes ih distinct m' made
    simp only [Markup.expand, known, makes] at made
    obtain ⟨own, each⟩ := distinctProps_element_iff.1 distinct
    exact ih (orderly name make known props children m own each makes) m' made
  · intro fuel distinct d member
    rw [expandAll] at member
    contradiction
  · intro fuel m ms first rest distinct d member
    rw [expandAll, List.mem_append, Option.mem_toList] at member
    rw [List.forall_mem_cons] at distinct
    rcases member with made | member
    · exact first distinct.1 d made
    · exact rest distinct.2 d member

mutual

/-- The props of a start tag are those of an element. -/
theorem nodup_of_mem_pieces (m : Markup) (distinct : m.DistinctProps) {tag : String}
    {props : Fields} (there : .start tag props ∈ pieces m) : (Entries.keys props).Nodup := by
  match m with
  | .text s => simp [pieces] at there
  | .element (.component name) _ _ => simp [pieces] at there
  | .element (.name name) own children =>
    obtain ⟨nodup, each⟩ := distinctProps_element_iff.1 distinct
    have inner : .start tag props ∈ piecesOfAll children → (Entries.keys props).Nodup :=
      nodup_of_mem_piecesOfAll children each
    rw [pieces] at there
    split at there
    · rw [List.mem_singleton] at there
      cases there
      exact nodup
    · rw [List.mem_append, List.mem_cons, List.mem_singleton] at there
      rcases there with (same | held) | closing
      · cases same
        exact nodup
      · split at held
        · exact inner held
        · exact inner held
        · cases List.mem_singleton.1 held
      · cases closing

theorem nodup_of_mem_piecesOfAll (ms : List Markup) (distinct : ∀ d ∈ ms, d.DistinctProps)
    {tag : String} {props : Fields} (there : .start tag props ∈ piecesOfAll ms) :
    (Entries.keys props).Nodup := by
  match ms with
  | [] => simp [piecesOfAll] at there
  | m :: ms =>
    rw [List.forall_mem_cons] at distinct
    rw [piecesOfAll, List.mem_append] at there
    rcases there with there | there
    · exact nodup_of_mem_pieces m distinct.1 there
    · exact nodup_of_mem_piecesOfAll ms distinct.2 there

end

end Markup

namespace Conversion

open Outline Markup

variable {c : Context} {n : Node} {key : String}

theorem distinctProps_innerCode (n : Node) : n.innerCode.DistinctProps := by
  refine distinctProps_element_iff.2 ⟨?_, fun d member => ?_⟩
  · split
    · exact List.nodup_nil
    · exact List.nodup_nil
    · exact List.nodup_singleton _
  · exact List.mem_singleton.1 member ▸ distinctProps_text _

theorem distinctProps_checkbox (done : Bool) : (checkbox done).DistinctProps :=
  distinctProps_element_iff.2
    ⟨by simp [Entries.keys], fun _ member => absurd member List.not_mem_nil⟩

/-- By induction on the weight, as the children of a rewritten node weigh less than the node. -/
theorem distinctProps_outline (c : Context) (n : Node) (key : String) {o : Outline}
    (made : n.outline key = some o) : (dress c o).DistinctProps := by
  induction hw : n.weight using Nat.strongRecOn generalizing n key o with
  | ind w ih =>
    rcases outline_cases made with ⟨s, rfl⟩ | rfl
    · exact distinctProps_text s
    · rw [Node.ownOutline, dress_element]
      refine distinctProps_element_iff.2 ⟨Entries.nodup_keys_ofList _, fun d member => ?_⟩
      obtain ⟨o, there, rfl⟩ := List.mem_map.1 member
      rcases mem_outlineBody there with ⟨_, rfl⟩ | ⟨done, rfl⟩ | ⟨s, rfl⟩ | child
      · exact distinctProps_innerCode _
      · exact distinctProps_checkbox done
      · exact distinctProps_text s
      · obtain ⟨d, below, key, made⟩ := mem_outlines child
        exact ih d.weight (hw ▸ Node.weight_lt_of_mem_rewritten below) d key made rfl

theorem distinctProps_of_convert {converter : Converter} {key : Option String} {m : Markup}
    (run : (converter.convert n key).1.1 = .ok (some m)) : m.DistinctProps := by
  have outlined := ensures_outline converter.context 0 n (key.getD "0")
  have same := outlined _ _ _ (show convert converter.context 0 n (key.getD "0") _ = _ from
    Prod.ext run rfl)
  obtain ⟨o, made, rfl⟩ := Option.map_eq_some_iff.1 same.symm
  exact distinctProps_outline converter.context n _ made

end Conversion

namespace Markup

/-- The pieces of the HTML of a tree that may hold components. -/
def writtenPieces (component? : String → Option Component) (m : Markup) : List Piece :=
  ((m.expand component? 1000).map pieces).getD []

theorem htmlText_eq (component? : String → Option Component) (m : Markup) :
    htmlText component? (some m) =
      String.ofList ((writtenPieces component? m).flatMap Piece.written) := by
  rw [htmlText, writtenPieces, Option.bind_some]
  cases m.expand component? 1000 with
  | none => rfl
  | some m => exact congrArg String.ofList (html_eq_pieces m)

end Markup

namespace Conversion

open Markup

/-- The HTML of a converted tree, put together from its pieces: in a start tag no attribute stands
twice if and only if the element does not have both an alignment and a style, and then every prop
that is written is the one that its attribute has the value of. -/
theorem attribute_repeats_iff {converter : Converter} {component? : String → Option Component}
    (orderly : ∀ name make, component? name = some make → make.Orderly) {n : Node}
    {key : Option String} {m : Markup} (run : (converter.convert n key).1.1 = .ok (some m)) :
    htmlText component? (some m) =
        String.ofList ((writtenPieces component? m).flatMap Piece.written) ∧
      ∀ tag props, .start tag props ∈ writtenPieces component? m →
        ((Html.attributeNames props).Nodup ↔
          ¬ (Html.HasAttribute props "align" ∧ Html.HasAttribute props "style")) ∧
        ((Html.attributeNames props).Nodup → ∀ p ∈ props, Html.IsWritten p →
          ∃ value, Html.ofProp p = some (Html.attributeName p, value) ∧
            Entries.get? (props.filterMap Html.ofProp) (Html.attributeName p) = some value) := by
  refine ⟨htmlText_eq component? m, fun tag props there => ?_⟩
  have distinct : (Entries.keys props).Nodup := by
    rw [writtenPieces] at there
    cases made : m.expand component? 1000 with
    | none => simp [made] at there
    | some m' =>
      rw [made] at there
      have kept := DistinctProps.expand orderly 1000 m (distinctProps_of_convert run) m' made
      exact nodup_of_mem_pieces m' kept there
  exact ⟨Html.nodup_attributeNames_iff distinct, fun apart p member written =>
    Html.get?_attributes apart member written⟩

/-- A converter that gives all cells of tables the same override. -/
def cellConverter (o : Override) : Converter := .new [] [("tableCell", o)] default

/-- The component that makes a cell of the props and children that it is given. -/
def cellComponent (name : String) : Option Component :=
  if name = "Cell" then some fun props children => some (.element (.name "td") props children)
  else none

theorem orderly_cellComponent (name : String) (make : Component)
    (known : cellComponent name = some make) : make.Orderly := by
  unfold cellComponent at known
  split at known
  · cases known
    intro props children m own each made
    cases made
    exact distinctProps_element_iff.2 ⟨own, each⟩
  · cases known

/-- A cell that is made by a component, with an alignment and a title. -/
theorem titledCell_attributes :
    let cell : Node := { Node.leaf "tableCell" "x" with align := some (.single "left") }
    let converter := cellConverter
      { component := some (.component "Cell"), props := [("title", .string "t")] }
    let props : Fields :=
      [("key", .string "0"), ("align", .string "left"), ("title", .string "t")]
    let m : Markup := .element (.component "Cell") props [.text "x"]
    (∀ name make, cellComponent name = some make → make.Orderly) ∧
      (converter.convert cell none).1.1 = .ok (some m) ∧
      .start "td" props ∈ writtenPieces cellComponent m ∧
      ((Html.attributeNames props).Nodup ↔
        ¬ (Html.HasAttribute props "align" ∧ Html.HasAttribute props "style")) ∧
      htmlText cellComponent (some m) = "<td style=\"text-align:left\" title=\"t\">x</td>" := by
  intro cell converter props m
  have run : (converter.convert cell none).1.1 = .ok (some m) := by
    rw [Converter.convert, convertNode, convert_eq]
    rfl
  have expanded : m.expand cellComponent 1000 = some (.element (.name "td") props [.text "x"]) := by
    simp only [m, Markup.expand, cellComponent, if_true, expandAll, Option.toList_some,
      List.append_nil]
  have there : .start "td" props ∈ writtenPieces cellComponent m := by
    rw [writtenPieces, expanded]
    exact List.mem_cons_self
  obtain ⟨-, tags⟩ := attribute_repeats_iff orderly_cellComponent run
  refine ⟨orderly_cellComponent, run, there, (tags "td" props there).1, ?_⟩
  rw [htmlText, Option.bind_some, expanded]
  decide +kernel

/-- An override gives the aligned cell of a table another style, which comes second in the start tag
of the cell and has no effect. -/
theorem styledCell_repeats :
    let table : Node :=
      { Node.branch "table" [.branch "tableRow" [.leaf "tableCell" "x"]] with
        align := some (.columns [some "left"]) }
    let converter := cellConverter { props := [("style", .string "color:red")] }
    ∃ m, (converter.convert table none).1.1 = .ok (some m) ∧
      htmlText cellComponent (some m) = "<table><tbody><tr>" ++
        "<td style=\"text-align:left\" style=\"color:red\">x</td></tr></tbody></table>" ∧
      ∃ tag props, .start tag props ∈ writtenPieces cellComponent m ∧
        ¬ (Html.attributeNames props).Nodup := by
  intro table converter
  have shown : (converter.convert table none).1.1.toOption.join.map (fun m => (m.isExpanded,
      String.ofList m.html, m.pieces.any Piece.repeats)) = some (true, "<table><tbody><tr>" ++
        "<td style=\"text-align:left\" style=\"color:red\">x</td></tr></tbody></table>", true) := by
    decide +kernel
  obtain ⟨m, made, same⟩ := Option.map_eq_some_iff.1 shown
  obtain ⟨expanded, html, repeats⟩ : m.isExpanded = true ∧ String.ofList m.html = _ ∧
      m.pieces.any Piece.repeats = true := by
    simpa only [Prod.mk.injEq] using same
  have whole : m.expand cellComponent 1000 = some m := expand_of_isExpanded _ _ m expanded
  obtain ⟨piece, there, twice⟩ := List.any_eq_true.1 repeats
  refine ⟨m, eq_ok_of_join made, ?_, ?_⟩
  · rw [htmlText, Option.bind_some, whole, ← html]
  · cases piece with
    | start tag props =>
      refine ⟨tag, props, ?_, by simpa [Piece.repeats] using twice⟩
      rwa [writtenPieces, whole]
    | _ => cases twice

end Conversion

end MarkdownTree
