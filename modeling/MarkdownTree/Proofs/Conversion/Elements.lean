import MarkdownTree.Conversion.Basic
import MarkdownTree.Proofs.Conversion.Steps
import MarkdownTree.Proofs.Entries

/-!
# The elements that nodes are converted to

Most nodes become an element in the generic way, some of them after they were rewritten. What
such an element is made of is read off its conversion: its tag and props belong to the rewritten
node, and its children are the results for the children of that node. `Gives` forgets at what
depth and after which warnings a result was made, so these facts compose down the tree.

Without overrides the props are the key and what the kind of the node asks for.
-/

namespace MarkdownTree

namespace Node

/-- A node that becomes an element in the generic way, perhaps after it was rewritten. -/
structure IsGeneric (n : Node) : Prop where
  text : n.isText = false
  unrendered : n.isUnrendered = false
  code : n.handling ≠ .code
  html : n.handling ≠ .html
  listItem : n.handling ≠ .listItem

/-- Rewriting replaces the children of a node and nothing else. -/
theorem rewritten_eq (n : Node) : n.rewritten = n ∨ ∃ cs, n.rewritten = n.withChildren cs := by
  unfold rewritten
  split
  · exact .inr ⟨_, rfl⟩
  · exact .inr ⟨_, rfl⟩
  · unfold footerRows
    split
    · exact .inl rfl
    · exact .inr ⟨_, rfl⟩
  · exact .inr ⟨_, rfl⟩
  · exact .inl rfl

theorem kind_rewritten (n : Node) : n.rewritten.kind = n.kind := by
  rcases n.rewritten_eq with h | ⟨cs, h⟩ <;> rw [h]
  rfl

theorem value_rewritten (n : Node) : n.rewritten.value = n.value := by
  rcases n.rewritten_eq with h | ⟨cs, h⟩ <;> rw [h]
  rfl

theorem defaultTag_rewritten (n : Node) : n.rewritten.defaultTag = n.defaultTag := by
  rcases n.rewritten_eq with h | ⟨cs, h⟩ <;> rw [h]
  rfl

theorem rewritten_of_generic {n : Node} (h : n.handling = .generic) : n.rewritten = n := by
  simp only [rewritten, h]

/-- A known kind has its tag from the table, whatever else the node holds. -/
theorem defaultTag_of_get? {n : Node} {tag : String}
    (h : Entries.get? defaultTags n.kind = some tag) : n.defaultTag = tag := by
  have heading : n.kind ≠ "heading" := by
    intro kind
    simp [kind, defaultTags, Entries.get?] at h
  have list : n.kind ≠ "list" := by
    intro kind
    simp [kind, defaultTags, Entries.get?] at h
  rw [defaultTag, if_neg heading, if_neg list, h, Option.getD_some]

/-- The kinds of the nodes of a table that are no cells. -/
def tableParts : List String := ["table", "tableHeader", "tableBody", "tableFooter", "tableRow"]

theorem isGeneric_of_tablePart {n : Node} (h : n.kind ∈ tableParts) : n.IsGeneric := by
  simp only [tableParts, List.mem_cons, List.not_mem_nil, or_false] at h
  rcases h with h | h | h | h | h <;>
    constructor <;> simp [isText, isUnrendered, handling, Handling.ofKind, h]

theorem handling_of_isCell {c : Node} (h : c.isCell = true) : c.handling = .generic := by
  simp only [isCell, Bool.or_eq_true, decide_eq_true_eq] at h
  rcases h with h | h <;> simp [handling, Handling.ofKind, h]

theorem isGeneric_of_isCell {c : Node} (h : c.isCell = true) : c.IsGeneric := by
  simp only [isCell, Bool.or_eq_true, decide_eq_true_eq] at h
  rcases h with h | h <;>
    constructor <;> simp [isText, isUnrendered, handling, Handling.ofKind, h]

theorem IsGeneric.rewritten_unrendered {n : Node} (h : n.IsGeneric) :
    n.rewritten.isUnrendered = false := by
  have := h.unrendered
  simpa only [isUnrendered, kind_rewritten] using this

end Node

namespace Conversion

variable {c : Context} {n : Node} {key : String} {m : Option Markup} {props : Fields}

/-- The node with the given key can be converted with the given result. -/
def Gives (c : Context) (key : String) (n : Node) (m : Option Markup) : Prop :=
  ∃ frames, Yields (convert c frames n key) m

/-- The node at the given position can be converted to the given markup. -/
def MadeAt (c : Context) (i : Nat) (n : Node) (m : Markup) : Prop :=
  Gives c (toString i) n (some m)

/-- The parts of an element: tag and props of the rewritten node, and its content. -/
def Assembled (c : Context) (n : Node) (key : String) (m : Option Markup) : Prop :=
  ∃ props body, m = some (.element (.name n.defaultTag) props body) ∧
    Yields (propsOf c n key) props ∧
    ∃ frames, Yields (content n (convertEach c frames n.childList)) body

theorem ensures_assembled_generic (ho : c.overrides = []) (h : n.isUnrendered = false)
    (frames frames' : Nat) :
    Ensures (generic c frames' n key (convertEach c frames n.childList)) (Assembled c n key) := by
  have tag : n.tag? c.overrides = some (.name n.defaultTag) := by
    rw [ho, Node.tag?, h]
    rfl
  unfold generic
  refine .seq fun _ => ?_
  rw [tag]
  refine .bind (.yields _) fun body hb => .bind (.yields _) fun props hp => .pure ?_
  exact ⟨props, body, rfl, hp, frames, hb⟩

theorem ensures_assembled (ho : c.overrides = []) (h : n.IsGeneric) (frames : Nat) :
    Ensures (convert c frames n key) (Assembled c n.rewritten key) := by
  have made (frames frames' : Nat) : Ensures
      (generic c frames' n.rewritten key (convertEach c frames n.rewritten.childList))
      (Assembled c n.rewritten key) :=
    ensures_assembled_generic ho h.rewritten_unrendered frames frames'
  rw [convert_eq]
  refine .seq fun _ => ?_
  rw [if_neg (by simp [h.text])]
  refine .within _ ?_
  unfold render
  refine .seq fun _ => ?_
  split
  · next way =>
    simpa only [Node.rewritten_of_generic way] using made _ _
  · next way => exact absurd way h.code
  · next way => exact absurd way h.html
  · next way => exact absurd way h.listItem
  · exact .seq fun _ => made _ _

/-- If all children of a rewritten node are generic, the children of its element are one for
each of them, in order. -/
theorem element_of_gives (ho : c.overrides = []) (h : n.IsGeneric) (hm : Gives c key n m)
    (value : n.value = none) (kids : ∀ d ∈ n.rewritten.childList, d.IsGeneric) :
    ∃ props body, m = some (.element (.name n.defaultTag) props body) ∧
      Yields (propsOf c n.rewritten key) props ∧ Each (MadeAt c) 0 n.rewritten.childList body := by
  obtain ⟨frames, hm⟩ := hm
  obtain ⟨props, body, rfl, hp, frames', hb⟩ := (ensures_assembled ho h frames).of_yields hm
  refine ⟨props, body, by rw [n.defaultTag_rewritten], hp, ?_⟩
  have all : Yields (convertEach c frames' n.rewritten.childList) body := by
    unfold content at hb
    rw [n.value_rewritten, value] at hb
    split at hb
    · contradiction
    · next d _ single =>
      have text := (kids d (by rw [single]; exact List.mem_singleton_self d)).text
      simpa only [text, Bool.false_eq_true, if_false] using hb
    · exact hb
  have results := (Ensures.collectEach fun j d _ =>
    Ensures.yields (convert c frames' d (toString j))).of_yields all
  obtain ⟨found, each, rfl⟩ := results
  refine (each.mono fun j d m? member given => ?_).of_some
  obtain ⟨_, _, rfl, _⟩ := (ensures_assembled ho (kids d member) frames').of_yields given
  exact ⟨_, rfl, frames', given⟩

/-! ### Props without overrides -/

theorem props_eq_merge (ho : c.overrides = []) (h : Yields (propsOf c n key) props) :
    ∃ computed, Yields (computedProps c n) computed ∧
      props = Entries.merge [("key", .string key)] computed := by
  unfold propsOf at h
  obtain ⟨computed, hc, h⟩ := yields_of_bind h
  rw [ho] at h
  exact ⟨computed, hc, eq_of_yields_pure h⟩

/-- No kind of node asks for a key of its own. -/
theorem key_not_mem_computedProps :
    Ensures (computedProps c n) fun computed => "key" ∉ Entries.keys computed := by
  unfold computedProps
  split
  · exact .pure (by simp)
  split
  · exact .pure (by simp)
  split
  · exact .seq fun _ => .pure (by simp)
  split
  · exact .pure (by simp)
  split
  · exact .seq fun _ => .pure (by simp)
  split
  · exact .pure (by simp)
  split
  · exact .pure (by simp)
  · exact .pure (by simp)

theorem key_of_props (ho : c.overrides = []) (h : Yields (propsOf c n key) props) :
    Entries.get? props "key" = some (.string key) := by
  obtain ⟨computed, hc, rfl⟩ := props_eq_merge ho h
  rw [Entries.get?_merge_of_not_mem (key_not_mem_computedProps.of_yields hc)]
  rfl

/-- The parts of a table other than its cells have a key and nothing else. -/
theorem props_of_tablePart (ho : c.overrides = []) (h : Yields (propsOf c n key) props)
    (part : n.kind ∈ Node.tableParts) : props = [("key", .string key)] := by
  obtain ⟨computed, hc, rfl⟩ := props_eq_merge ho h
  have none : computedProps c n = pure [] := by
    simp only [Node.tableParts, List.mem_cons, List.not_mem_nil, or_false] at part
    rcases part with kind | kind | kind | kind | kind <;>
      simp [computedProps, Node.isCell, kind]
  rw [none] at hc
  rw [eq_of_yields_pure hc]
  rfl

theorem part_of_gives (ho : c.overrides = []) (part : n.kind ∈ Node.tableParts)
    (value : n.value = none) (kids : ∀ d ∈ n.rewritten.childList, d.IsGeneric)
    (hm : Gives c key n m) :
    ∃ body, m = some (.element (.name n.defaultTag) [("key", .string key)] body) ∧
      Each (MadeAt c) 0 n.rewritten.childList body := by
  obtain ⟨props, body, rfl, hp, each⟩ :=
    element_of_gives ho (Node.isGeneric_of_tablePart part) hm value kids
  refine ⟨body, ?_, each⟩
  rw [props_of_tablePart ho hp (by rwa [Node.kind_rewritten])]

theorem props_of_cell (ho : c.overrides = []) (h : Yields (propsOf c n key) props)
    (cell : n.isCell = true) :
    props = [("key", .string key), ("align", (n.align.map Alignment.toValue).getD .null)] := by
  obtain ⟨computed, hc, rfl⟩ := props_eq_merge ho h
  have align : computedProps c n =
      pure [("align", (n.align.map Alignment.toValue).getD .null)] := by
    simp only [Node.isCell, Bool.or_eq_true, decide_eq_true_eq] at cell
    rcases cell with kind | kind <;> simp [computedProps, Node.isCell, kind]
  rw [align] at hc
  rw [eq_of_yields_pure hc]
  rfl

end Conversion

end MarkdownTree
