import MarkdownTree.Markup.Html
import MarkdownTree.Proofs.Html.Decoder

/-!
# Markup can be read back

Decoding the HTML of markup gives the markup itself in a normal form: adjacent texts are one,
empty texts are gone, elements that are empty by their name have no children, and a prop is the
attribute it is written as or nothing. So no text and no value of a prop opens, closes or changes
a tag, whatever characters it has.

`Reader.run_html` says where reading the HTML of one tree leads: back to the content of the same
element, with one child more. It is an induction on the tree. Escaped characters, names and
attributes are read by the lemmas before it, each for any reader.
-/

namespace MarkdownTree

namespace Html

/-- The children `ms` after a text `s`, adjacent texts as one and no empty text. -/
def mergedAfter (s : String) : List Html → List Html
  | [] => ofText s
  | .text t :: ms => mergedAfter (s ++ t) ms
  | .element tag attributes children :: ms =>
    ofText s ++ .element tag attributes children :: mergedAfter "" ms

/-- Adjacent texts as one and no empty text. -/
def merged (ms : List Html) : List Html := mergedAfter "" ms

/-- The attribute of a prop: none if the prop is null or false or has a name of its own meaning, a
bare one if it is true, else one with the text of the prop. An alignment is a style. -/
def ofProp (p : String × Value) : Option (String × Option String) :=
  if p.1 = "key" ∨ p.1 = "innerHTML" then none
  else match p.2 with
    | .null => none
    | .bool false => none
    | v =>
      if p.1 = "align" then some ("style", some ("text-align:" ++ v.text))
      else match v with
        | .bool true => some (p.1, none)
        | _ => some (p.1, some v.text)

mutual

/-- The normal form of a tree. -/
def ofMarkup : Markup → Html
  | .text s => .text s
  | .element tag props children =>
    .element tag.label (props.filterMap ofProp)
      (if tag.label ∈ emptyElements then [] else merged (ofMarkups children))

/-- The normal forms of several trees. -/
def ofMarkups : List Markup → List Html
  | [] => []
  | m :: ms => ofMarkup m :: ofMarkups ms

end

/-- An attribute as it stands in a start tag. -/
def written : String × Option String → List Char
  | (name, none) => ' ' :: name.toList
  | (name, some v) =>
    ' ' :: name.toList ++ (['=', '"'] ++ (Text.escapeAttribute v ++ ['"']))

/-- A name of a tag or an attribute: not empty, without whitespace and without the characters that
HTML writes tags with. -/
def IsName (s : String) : Prop := s ≠ "" ∧ ∀ c ∈ s.toList, isNameChar c

instance : DecidablePred IsName :=
  fun s => decidable_of_iff (s ≠ "" ∧ s.toList.all isNameChar) (by simp [IsName])

theorem ofMarkups_eq_map (ms : List Markup) : ofMarkups ms = ms.map ofMarkup := by
  induction ms with
  | nil => rfl
  | cons m ms ih => rw [ofMarkups, ih, List.map_cons]

theorem propAttribute_eq (p : String × Value) :
    Markup.propAttribute p.1 p.2 = (ofProp p).toList.flatMap written := by
  obtain ⟨name, v⟩ := p
  simp only [Markup.propAttribute, Markup.reservedProps, ofProp, List.mem_cons, List.not_mem_nil,
    or_false]
  split
  · rfl
  · split
    · rfl
    · rfl
    · split
      · simp [written]
      · split <;> simp [written]

theorem attributes_eq (props : Fields) :
    Markup.attributes props = (props.filterMap ofProp).flatMap written := by
  induction props with
  | nil => rfl
  | cons p props ih =>
    have split : Markup.attributes (p :: props) =
      Markup.propAttribute p.1 p.2 ++ Markup.attributes props := rfl
    rw [split, ih, propAttribute_eq]
    cases h : ofProp p <;> simp [h]

/-- An attribute has the name of its prop, or it is a style. -/
theorem name_of_ofProp {p : String × Value} {a : String × Option String} (h : ofProp p = some a) :
    a.1 = p.1 ∨ a.1 = "style" := by
  unfold ofProp at h
  grind

theorem forall_isName_of_filterMap {props : Fields} (named : ∀ p ∈ props, IsName p.1) :
    ∀ a ∈ props.filterMap ofProp, IsName a.1 := by
  intro a ha
  obtain ⟨p, hp, made⟩ := List.mem_filterMap.1 ha
  rcases name_of_ofProp made with same | style
  · exact same ▸ named p hp
  · rw [style]
    decide

theorem IsName.exists_cons {s : String} (h : IsName s) :
    ∃ c cs, s.toList = c :: cs ∧ isNameChar c ∧ ∀ c' ∈ cs, isNameChar c' := by
  obtain ⟨nonempty, chars⟩ := h
  cases e : s.toList with
  | nil => exact absurd (String.toList_eq_nil_iff.1 e) nonempty
  | cons c cs =>
    rw [e] at chars
    exact ⟨c, cs, rfl, chars c List.mem_cons_self, fun c' h => chars c' (List.mem_cons_of_mem c h)⟩

end Html

namespace Markup

/-- Every tag is a name, every prop has a name, and no prop takes the place of children. Texts and
the values of props are arbitrary. -/
inductive Writable : Markup → Prop
  | text (s : String) : Writable (.text s)
  | element {tag : String} {props : Fields} {children : List Markup} (named : Html.IsName tag)
      (propsNamed : ∀ p ∈ props, Html.IsName p.1)
      (noContent : ∀ p ∈ props, p.1 = "innerHTML" → p.2 = .null)
      (each : ∀ m ∈ children, Writable m) : Writable (.element (.name tag) props children)

theorem htmlOfAll_eq_flatMap (ms : List Markup) : htmlOfAll ms = ms.flatMap html := by
  induction ms with
  | nil => rfl
  | cons m ms ih => rw [htmlOfAll, ih, List.flatMap_cons]

theorem expandAll_of_forall {component? : String → Option Component} {fuel : Nat}
    {ms : List Markup} (h : ∀ m ∈ ms, expand component? fuel m = some m) :
    expandAll component? fuel ms = ms := by
  induction ms with
  | nil => rw [expandAll]
  | cons m ms ih =>
    rw [expandAll, h m List.mem_cons_self, ih fun m' hm' => h m' (List.mem_cons_of_mem m hm')]
    rfl

/-- There is nothing to expand where no tag is a component. -/
theorem Writable.expand_eq {m : Markup} (h : Writable m) (component? : String → Option Component)
    (fuel : Nat) : expand component? fuel m = some m := by
  induction h with
  | text s => rw [expand]
  | element _ _ _ _ ih => rw [expand, expandAll_of_forall ih]

theorem get?_innerHTML {props : Fields}
    (noContent : ∀ p ∈ props, p.1 = "innerHTML" → p.2 = .null) :
    Entries.get? props "innerHTML" = none ∨ Entries.get? props "innerHTML" = some .null := by
  induction props with
  | nil => exact .inl rfl
  | cons p props ih =>
    rw [Entries.get?_cons]
    split
    · exact .inr (congrArg some (noContent p List.mem_cons_self ‹_›))
    · exact ih fun q hq => noContent q (List.mem_cons_of_mem p hq)

/-- The HTML of an element whose children are its content. -/
theorem html_element {tag : String} {props : Fields} {children : List Markup}
    (noContent : ∀ p ∈ props, p.1 = "innerHTML" → p.2 = .null) :
    html (.element (.name tag) props children) =
      '<' :: (tag.toList ++ (attributes props ++ '>' ::
        if tag ∈ voidTags then []
        else children.flatMap html ++ '<' :: '/' :: (tag.toList ++ ['>']))) := by
  rw [html]
  by_cases void : tag ∈ voidTags
  · simp [void]
  · rcases get?_innerHTML noContent with h | h <;> simp [void, h, htmlOfAll_eq_flatMap]

end Markup

namespace Html

namespace Siblings

@[simp] theorem add_text_empty (ns : Siblings) : ns.add (.text "") = ns := by
  simp [add]

@[simp] theorem add_text_add_text (ns : Siblings) (s t : String) :
    (ns.add (.text s)).add (.text t) = ns.add (.text (s ++ t)) := by
  simp [add, String.append_assoc]

/-- Children that are read one after the other are merged. -/
theorem toList_foldl_add (ms : List Html) (ns : Siblings) :
    (ms.foldl add ns).toList = ns.before.reverse ++ mergedAfter ns.pending ms := by
  induction ms generalizing ns with
  | nil => simp [toList, mergedAfter]
  | cons m ms ih =>
    rw [List.foldl_cons, ih]
    cases m with
    | text s => rfl
    | element tag attributes children => simp [add, mergedAfter]

end Siblings

namespace Reader

variable {ns : Siblings} {parents : List (StartTag × Siblings)}

/-- Reading what is written character by character: if each character leads on by one, all of them
do. -/
theorem run_flatMap (state : List Char → Reader) (write : Char → List Char) (cs : List Char)
    (one : ∀ read, ∀ c ∈ cs, run (state read) (write c) = some (state (read ++ [c])))
    (read : List Char) : run (state read) (cs.flatMap write) = some (state (read ++ cs)) := by
  induction cs generalizing read with
  | nil => simp
  | cons c cs ih =>
    rw [List.flatMap_cons, run_append_of (one read c List.mem_cons_self),
      ih fun read c' h => one read c' (List.mem_cons_of_mem c h)]
    simp

/-- A name is read where each of its characters goes on. -/
theorem run_name (state : List Char → Reader)
    (one : ∀ read c, isNameChar c → (state read).step c = some (state (read ++ [c])))
    {cs : List Char} (named : ∀ c ∈ cs, isNameChar c) (read : List Char) :
    run (state read) cs = some (state (read ++ cs)) := by
  have h := run_flatMap state (fun c => [c]) cs
    (fun read c h => by rw [run_cons_of (one read c (named c h)), run_nil]) read
  rwa [List.flatMap_singleton'] at h

theorem run_escapeTextChar (c : Char) :
    run ⟨ns, parents, .content⟩ (Text.escapeTextChar c) = some ⟨ns.push c, parents, .content⟩ := by
  unfold Text.escapeTextChar
  split
  · subst c; rfl
  split
  · subst c; rfl
  split
  · subst c; rfl
  · simp [step, *]

/-- An escaped text is one more text. -/
theorem run_escapeText (s : String) :
    run ⟨ns, parents, .content⟩ (Text.escapeText s) =
      some ⟨ns.add (.text s), parents, .content⟩ := by
  have h := run_flatMap
    (fun read => ⟨ns.add (.text (String.ofList read)), parents, .content⟩) Text.escapeTextChar
    s.toList (fun read c _ => ?_) []
  · simpa [Text.escapeText] using h
  · rw [run_escapeTextChar, Siblings.push, Siblings.add_text_add_text, String.ofList_append]
    rfl

theorem run_escapeAttributeChar (t : StartTag) (name v : List Char) (c : Char) :
    run ⟨ns, parents, .value t name v⟩ (Text.escapeAttributeChar c) =
      some ⟨ns, parents, .value t name (v ++ [c])⟩ := by
  unfold Text.escapeAttributeChar Text.escapeTextChar
  split
  · subst c; rfl
  split
  · subst c; rfl
  split
  · subst c; rfl
  split
  · subst c; rfl
  split
  · subst c; rfl
  · simp [step, *]

/-- An escaped value is read as the value it was. -/
theorem run_escapeAttribute (t : StartTag) (name : List Char) (v : String) :
    run ⟨ns, parents, .value t name []⟩ (Text.escapeAttribute v) =
      some ⟨ns, parents, .value t name v.toList⟩ :=
  run_flatMap (fun read => ⟨ns, parents, .value t name read⟩) Text.escapeAttributeChar v.toList
    (fun read c _ => run_escapeAttributeChar t name read c) []

/-- Where a start tag may end, a blank or an angle bracket follows its last name or value. -/
theorem step_of_startTag? {place : Place} {t : StartTag} (h : place.startTag? = some t)
    {c : Char} (end' : c = ' ' ∨ c = '>') :
    step ⟨ns, parents, place⟩ c = stepTag ⟨ns, parents, place⟩ t c := by
  cases place <;> simp only [Place.startTag?, reduceCtorEq, Option.some.injEq] at h <;> subst h <;>
    rcases end' with rfl | rfl <;> rfl

/-- The name of an attribute, after a blank. -/
theorem run_attributeName {place : Place} {t : StartTag} (h : place.startTag? = some t)
    {name : String} (named : IsName name) :
    run ⟨ns, parents, place⟩ (' ' :: name.toList) =
      some ⟨ns, parents, .attributeName t name.toList⟩ := by
  obtain ⟨c, cs, chars, first, others⟩ := named.exists_cons
  have begins : step ⟨ns, parents, .blank t⟩ c = some ⟨ns, parents, .attributeName t [c]⟩ :=
    if_pos first
  rw [chars, run_cons_of (step_of_startTag? h (.inl rfl)), run_cons_of begins]
  exact run_name (fun read => ⟨ns, parents, .attributeName t read⟩)
    (fun read c h => if_pos h) others [c]

/-- An attribute is read as it was written, and the start tag may end behind it. -/
theorem run_written (ns : Siblings) (parents : List (StartTag × Siblings)) {place : Place}
    {t : StartTag} (h : place.startTag? = some t) {a : String × Option String}
    (named : IsName a.1) :
    ∃ place', run ⟨ns, parents, place⟩ (written a) = some ⟨ns, parents, place'⟩ ∧
      place'.startTag? = some (t.add a.1 a.2) := by
  obtain ⟨name, value⟩ := a
  cases value with
  | none => exact ⟨_, run_attributeName h named, by simp [Place.startTag?]⟩
  | some v =>
    have opens : run ⟨ns, parents, .attributeName t name.toList⟩ ['=', '"'] =
        some ⟨ns, parents, .value t name.toList []⟩ := rfl
    have closes : run ⟨ns, parents, .value t name.toList v.toList⟩ ['"'] =
        some ⟨ns, parents, .valueEnd (t.add name (some v))⟩ := by
      simp [step]
    refine ⟨.valueEnd (t.add name (some v)), ?_, rfl⟩
    rw [written, run_append_of (run_attributeName h named), run_append_of opens,
      run_append_of (run_escapeAttribute t name.toList v), closes]

theorem run_attributes (ns : Siblings) (parents : List (StartTag × Siblings)) {place : Place}
    {t : StartTag} (h : place.startTag? = some t) {as : List (String × Option String)}
    (named : ∀ a ∈ as, IsName a.1) :
    ∃ place', run ⟨ns, parents, place⟩ (as.flatMap written) = some ⟨ns, parents, place'⟩ ∧
      place'.startTag? = some { t with attributes := t.attributes ++ as } := by
  induction as generalizing place t with
  | nil => exact ⟨place, run_nil _, by simpa using h⟩
  | cons a as ih =>
    rw [List.forall_mem_cons] at named
    obtain ⟨place₁, first, h₁⟩ := run_written ns parents h named.1
    obtain ⟨place₂, others, h₂⟩ := ih h₁ named.2
    refine ⟨place₂, ?_, ?_⟩
    · rw [List.flatMap_cons, run_append_of first, others]
    · simpa [StartTag.add] using h₂

/-- A start tag begins an element, or is one that is empty by its name. -/
theorem run_startTag {tag : String} (named : IsName tag) {as : List (String × Option String)}
    (attributesNamed : ∀ a ∈ as, IsName a.1) (rest : List Char) :
    run ⟨ns, parents, .content⟩ ('<' :: (tag.toList ++ (as.flatMap written ++ '>' :: rest))) =
      run (openElement ⟨ns, parents, .content⟩ ⟨tag, as⟩) rest := by
  obtain ⟨c, cs, chars, first, others⟩ := named.exists_cons
  have begins : step ⟨ns, parents, .tagOpen⟩ c = some ⟨ns, parents, .startName [c]⟩ := by
    have notSlash : c ≠ '/' := by
      rintro rfl
      exact absurd first (by decide)
    simp [step, notSlash, first]
  have name : run ⟨ns, parents, .startName [c]⟩ cs =
      some ⟨ns, parents, .startName tag.toList⟩ := by
    rw [chars]
    exact run_name (fun read => ⟨ns, parents, .startName read⟩) (fun read c h => if_pos h)
      others [c]
  have read : Place.startTag? (.startName tag.toList) = some ⟨tag, []⟩ := by
    simp [Place.startTag?]
  obtain ⟨place, attributes, ends⟩ := run_attributes ns parents read attributesNamed
  rw [run_cons_of rfl, chars, List.cons_append, run_cons_of begins, run_append_of name,
    run_append_of attributes, run_cons_of (step_of_startTag? ends (.inr rfl))]
  rfl

/-- An end tag ends the element of its name. -/
theorem run_endTag {tag : String} (named : IsName tag) (as : List (String × Option String))
    (before : Siblings) :
    run ⟨ns, (⟨tag, as⟩, before) :: parents, .content⟩ ('<' :: '/' :: (tag.toList ++ ['>'])) =
      some ⟨before.add (.element tag as ns.toList), parents, .content⟩ := by
  have name : run ⟨ns, (⟨tag, as⟩, before) :: parents, .endName []⟩ tag.toList =
      some ⟨ns, (⟨tag, as⟩, before) :: parents, .endName tag.toList⟩ :=
    run_name (fun read => ⟨ns, (⟨tag, as⟩, before) :: parents, .endName read⟩)
      (fun read c h => if_pos h) named.2 []
  have ends : step ⟨ns, (⟨tag, as⟩, before) :: parents, .endName tag.toList⟩ '>' =
      closeElement ⟨ns, (⟨tag, as⟩, before) :: parents, .endName tag.toList⟩ tag := by
    simp [step, isNameChar]
  rw [run_cons_of rfl, run_cons_of rfl, run_append_of name, run_cons, ends]
  simp [closeElement]

/-- Reading several trees, if reading one adds it to the children before. -/
theorem run_flatMap_html (ms : List Markup)
    (each : ∀ m ∈ ms, ∀ ns parents, run ⟨ns, parents, .content⟩ (Markup.html m) =
      some ⟨ns.add (ofMarkup m), parents, .content⟩)
    (ns : Siblings) (parents : List (StartTag × Siblings)) :
    run ⟨ns, parents, .content⟩ (ms.flatMap Markup.html) =
      some ⟨(ms.map ofMarkup).foldl Siblings.add ns, parents, .content⟩ := by
  induction ms generalizing ns with
  | nil => rfl
  | cons m ms ih =>
    rw [List.flatMap_cons, run_append_of (each m List.mem_cons_self ns parents),
      ih fun m' hm' => each m' (List.mem_cons_of_mem m hm')]
    rfl

/-- Reading the HTML of a tree adds the tree to the children of the element it stands in. -/
theorem run_html {m : Markup} (h : m.Writable) (ns : Siblings)
    (parents : List (StartTag × Siblings)) :
    run ⟨ns, parents, .content⟩ (Markup.html m) =
      some ⟨ns.add (ofMarkup m), parents, .content⟩ := by
  induction h generalizing ns parents with
  | text s => exact run_escapeText s
  | @element tag props children named propsNamed noContent _ ih =>
    rw [Markup.html_element noContent, attributes_eq,
      run_startTag named (forall_isName_of_filterMap propsNamed), ofMarkup, ofMarkups_eq_map]
    by_cases void : tag ∈ emptyElements
    · have voidTag : tag ∈ Markup.voidTags := void
      simp [void, voidTag, openElement, Tag.label]
    · have noVoidTag : tag ∉ Markup.voidTags := void
      have opened : openElement ⟨ns, parents, .content⟩ ⟨tag, props.filterMap ofProp⟩ =
          ⟨{}, (⟨tag, props.filterMap ofProp⟩, ns) :: parents, .content⟩ := if_neg void
      have content :=
        run_flatMap_html children ih {} ((⟨tag, props.filterMap ofProp⟩, ns) :: parents)
      rw [if_neg noVoidTag, opened, run_append_of content, run_endTag named,
        Siblings.toList_foldl_add]
      simp [void, merged, Tag.label]

end Reader

/-- What is written of markup is read back as its normal form. -/
theorem decode_htmlText (component? : String → Option Markup.Component) (m : Option Markup)
    (h : ∀ t ∈ m, t.Writable) :
    decode (Markup.htmlText component? m) = some (merged (m.toList.map ofMarkup)) := by
  have text : (Markup.htmlText component? m).toList = m.toList.flatMap Markup.html := by
    cases m with
    | none => rfl
    | some t => simp [Markup.htmlText, (h t rfl).expand_eq]
  have read := Reader.run_flatMap_html m.toList
    (fun t ht => Reader.run_html (h t (Option.mem_toList.1 ht))) {} []
  rw [decode, text, read, Option.bind_some]
  exact congrArg some (Siblings.toList_foldl_add _ _)

/-- A paragraph with characters of tags in its texts and values, empty and adjacent texts, an
alignment, bare and unwritten props, and a line break that is given a child. -/
def tricky : Markup :=
  .element (.name "p")
    [("key", .string "0"), ("align", .string "left\" onload=\""), ("hidden", .bool true),
      ("title", .string "</p>&quot;<b a='"), ("open", .bool false), ("data-n", .int (-3)),
      ("innerHTML", .null)]
    [.text "<b>&lt;", .text "", .text "b>", .element (.name "br") [] [.text "gone"],
      .text "", .element (.name "em") [("class", .null)] [.text ""]]

theorem tricky_decoded :
    tricky.Writable ∧ decode (Markup.htmlText (fun _ => none) (some tricky)) = some
      [.element "p"
        [("style", some "text-align:left\" onload=\""), ("hidden", none),
          ("title", some "</p>&quot;<b a='"), ("data-n", some "-3")]
        [.text "<b>&lt;b>", .element "br" [] [], .element "em" [] []]] := by
  have lineBreak : (Markup.element (.name "br") [] [.text "gone"]).Writable :=
    .element (by decide) (by decide) (by simp) (by simp [Markup.Writable.text])
  have emphasis : (Markup.element (.name "em") [("class", .null)] [.text ""]).Writable :=
    .element (by decide) (by decide) (by simp) (by simp [Markup.Writable.text])
  have writable : tricky.Writable :=
    .element (by decide) (by decide) (by simp)
      (by simp [Markup.Writable.text, lineBreak, emphasis])
  refine ⟨writable, ?_⟩
  rw [decode_htmlText _ _ fun t ht => Option.mem_some.1 ht ▸ writable]
  rfl

end Html

end MarkdownTree
