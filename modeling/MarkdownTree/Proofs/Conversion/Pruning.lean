import MarkdownTree.Proofs.Conversion.Exhaustion
import MarkdownTree.Proofs.Conversion.Masking
import MarkdownTree.Proofs.Conversion.Quotes
import MarkdownTree.Proofs.Node.Pruning

/-!
# Children that are never rendered

A conversion does not enter the children that a node hides, so a node is converted like its pruned
tree (`convert_pruned`). The one step that sees them is the search of a table for its cells, which
goes down to them with one call after the other. On a limited stack they can therefore make a
conversion fail, and in no other way: `tablesFit` says that the stack has room for the search in
every table that is rendered, and then they make no difference at all.
-/

namespace MarkdownTree.Conversion

variable {c : Context} {frames : Nat} {n n' : Node} {key : String}
  {children children' : Conversion (List Markup)}

/-- The stack has room for the search for cells in every table that is rendered in the node. -/
def tablesFit (c : Context) (frames : Nat) (n : Node) : Bool :=
  (n.handling ≠ .table || c.stackLimit.all (frames + 1 + callsOfRewriting n ≤ ·)) &&
    (n.hidesChildren ||
      n.rewritten.childList.attach.all fun d => tablesFit c (frames + callsBetween n) d.1)
termination_by n.weight
decreasing_by exact Node.weight_lt_of_mem_rewritten d.2

theorem tablesFit_iff : tablesFit c frames n = true ↔
    (n.handling = .table → ∀ limit ∈ c.stackLimit, frames + 1 + callsOfRewriting n ≤ limit) ∧
      (n.hidesChildren = false →
        ∀ d ∈ n.rewritten.childList, tablesFit c (frames + callsBetween n) d = true) := by
  rw [tablesFit]
  simp [or_iff_not_imp_left, Option.all_eq_true]

/-- On a stack without an end every table fits. -/
theorem tablesFit_unlimited (unlimited : c.stackLimit = none) (frames : Nat) (n : Node) :
    tablesFit c frames n = true := by
  induction hw : n.weight using Nat.strongRecOn generalizing frames n with
  | ind w ih =>
    rw [tablesFit_iff, unlimited]
    refine ⟨nofun, fun _ d member => ?_⟩
    exact ih d.weight (hw ▸ Node.weight_lt_of_mem_rewritten member) _ d rfl

/-! ### One node -/

/-- The search takes no more calls in the pruned tree. -/
theorem callsOfRewriting_pruned_le (n : Node) :
    callsOfRewriting n.pruned ≤ callsOfRewriting n := by
  unfold callsOfRewriting
  rw [Node.handling_pruned]
  split
  · rw [foldl_max_eq_greatest, foldl_max_eq_greatest]
    have depths : greatest (n.pruned.childList.map Node.groupingDepth) ≤
        greatest (n.childList.map Node.groupingDepth) := by
      cases h : n.hidesChildren with
      | true =>
        rw [Node.pruned_of_hides h]
        exact Nat.zero_le _
      | false =>
        rw [Node.childList_pruned h, List.map_map]
        exact greatest_map_mono fun d _ => d.groupingDepth_pruned_le
    omega
  · exact Nat.le_refl 1

theorem exists_rewritten_pruned_eq (n : Node) :
    ∃ cs, n.pruned.rewritten = n.rewritten.redone n.rewritten.decoration cs := by
  obtain ⟨cs, pruned⟩ := n.exists_pruned_eq
  rcases n.pruned.rewritten_eq with same | ⟨ds, same⟩ <;>
    rcases n.rewritten_eq with same' | ⟨ds', same'⟩ <;>
    rw [same, same', pruned] <;> exact ⟨_, rfl⟩

theorem generic_pruned (static : c.overrides.Static)
    (same : content n.pruned.rewritten children' = content n.rewritten children) :
    generic c frames n.pruned.rewritten key children' =
      generic c frames n.rewritten key children := by
  obtain ⟨cs, other⟩ := exists_rewritten_pruned_eq n
  rw [other] at same ⊢
  exact generic_redone static _ _ same

/-- A node that is not rendered has no content. -/
theorem generic_of_isUnrendered (h : n.isUnrendered = true) :
    generic c frames n key children = call c (frames + 1) >>= fun _ => pure none := by
  rw [generic, Node.tag?_eq_none.2 h]

/-- A node that is rendered by its content and hides its children shows its value, unless it is a
footnote reference, which gets other children. -/
theorem content_pruned (code : n.kind ≠ "code") (html : n.kind ≠ "html") (text : n.isText = false)
    (rendered : n.isUnrendered = false)
    (same : n.hidesChildren = false ∨ n.kind = "footnoteReference" → children' = children) :
    content n.pruned.rewritten children' = content n.rewritten children := by
  have value : n.pruned.rewritten.value = n.rewritten.value := by
    rw [Node.value_rewritten, Node.value_rewritten, Node.value_pruned]
  cases shown : n.value with
  | some v =>
    have own : n.rewritten.value = some v := n.value_rewritten.trans shown
    unfold content
    rw [value, own]
  | none =>
    by_cases reference : n.kind = "footnoteReference"
    · rw [same (.inr reference), Node.rewritten_pruned_of_reference reference]
    · have shows : n.hidesChildren = false := by
        simp [Node.hidesChildren, code, html, text, rendered, reference, shown]
      rw [same (.inl shows)]
      exact content_map value (Node.childList_rewritten_pruned shows) Node.isText_pruned
        fun d _ => Node.value_pruned d

/-- One case for each way of rendering. -/
theorem render_pruned (static : c.overrides.Static) (text : n.isText = false)
    (room : n.handling = .table → ∀ limit ∈ c.stackLimit, frames + 1 + callsOfRewriting n ≤ limit)
    (same : n.hidesChildren = false ∨ n.kind = "footnoteReference" → children' = children) :
    render c frames n.pruned key children' = render c frames n key children := by
  have kind := n.kind_of_handling
  have called {m m' : Conversion (Option Markup)} (frames : Nat) (h : m = m') :
      (call c frames >>= fun _ => m) = call c frames >>= fun _ => m' := by rw [h]
  have regrouped (frames : Nat) (code : n.kind ≠ "code") (html : n.kind ≠ "html")
      (rendered : n.isUnrendered = false) :
      generic c frames n.pruned.rewritten key children' =
        generic c frames n.rewritten key children :=
    generic_pruned static (content_pruned code html text rendered same)
  obtain ⟨cs, own⟩ := n.exists_pruned_eq
  rw [render, render, Node.handling_pruned]
  apply called
  cases handled : n.handling with
  | generic =>
    simp only [handled] at kind
    cases unrendered : n.isUnrendered with
    | true =>
      have hidden : n.pruned.isUnrendered = true := by
        rwa [Node.isUnrendered, Node.kind_pruned]
      exact (generic_of_isUnrendered hidden).trans (generic_of_isUnrendered unrendered).symm
    | false =>
      have alike := regrouped (frames + 1) kind.1 kind.2.2.1 unrendered
      rwa [Node.rewritten_of_generic handled,
        Node.rewritten_of_generic ((Node.handling_pruned n).trans handled)] at alike
  | code => exact called _ (own ▸ code_redone static _ _)
  | html => exact called _ (own ▸ rawHtml_redone static _ _)
  | listItem =>
    simp only [handled] at kind
    apply called
    rw [Node.checked_pruned]
    cases checked : n.checked with
    | none =>
      have plain (m : Node) (h : m.handling = .listItem) : m.rewritten = m := by
        rw [Node.rewritten, h]
      have alike := regrouped (frames + 2) (by simp [kind]) (by simp [kind])
        (by simp [Node.isUnrendered, kind])
      rwa [plain n handled, plain n.pruned ((Node.handling_pruned n).trans handled)] at alike
    | some done =>
      have shows : n.hidesChildren = false := by
        simp [Node.hidesChildren, Node.isText, Node.isUnrendered, kind, checked]
      rw [same (.inl shows), own]
      exact task_redone static _ _ done
  | table =>
    simp only [handled] at kind
    have fits : ∀ limit ∈ c.stackLimit, frames + 1 + callsOfRewriting n.pruned ≤ limit := by
      intro limit has
      have := room handled limit has
      have := callsOfRewriting_pruned_le n
      omega
    rw [call_of_room (room handled), call_of_room fits, pure_bind, pure_bind]
    exact regrouped _ (by simp [kind]) (by simp [kind]) (by simp [Node.isUnrendered, kind])
  | _ =>
    simp only [handled] at kind
    have calls : callsOfRewriting n.pruned = callsOfRewriting n := by
      rw [callsOfRewriting, callsOfRewriting, Node.handling_pruned, handled]
    rw [calls]
    exact called _ (regrouped _ (by simp [kind]) (by simp [kind])
      (by simp [Node.isUnrendered, kind]))

/-! ### Whole trees -/

/-- Where every table fits, a node is converted like its pruned tree. By induction on the weight, as
the children of a rewritten node weigh less than the node. -/
theorem convert_pruned (static : c.overrides.Static) {frames : Nat} {n : Node}
    (fits : tablesFit c frames n = true) (key : String) :
    convert c frames n.pruned key = convert c frames n key := by
  induction hw : n.weight using Nat.strongRecOn generalizing frames n key with
  | ind w ih =>
    obtain ⟨room, below⟩ := tablesFit_iff.1 fits
    have calls : callsBetween n.pruned = callsBetween n := by
      rw [callsBetween, callsBetween, Node.handling_pruned]
    rw [convert_eq, convert_eq, Node.isText_pruned, Node.value_pruned, calls]
    cases text : n.isText with
    | true => rfl
    | false =>
      have inside : render c frames n.pruned key (convertEach c (frames + callsBetween n)
            n.pruned.rewritten.childList) =
          render c frames n key (convertEach c (frames + callsBetween n)
            n.rewritten.childList) := by
        refine render_pruned static text room fun rendered => ?_
        rcases rendered with shows | reference
        · rw [Node.childList_rewritten_pruned shows]
          refine convertEach_map fun key d member => ?_
          exact ih d.weight (hw ▸ Node.weight_lt_of_mem_rewritten member) (below shows d member)
            key rfl
        · rw [Node.rewritten_pruned_of_reference reference]
      rw [inside]

section converters

variable {converter : Converter} (static : converter.context.overrides.Static)
  (alike : n'.pruned = n.pruned) (key : Option String)

include static alike

/-- Where all tables of both fit, trees that differ in nothing but what is never rendered are
converted alike. -/
theorem convert_eq_of_fits (fits' : tablesFit converter.context 0 n' = true)
    (fits : tablesFit converter.context 0 n = true) :
    converter.convert n' key = converter.convert n key := by
  have same : convertNode converter.context n' (key.getD "0") =
      convertNode converter.context n (key.getD "0") := by
    rw [convertNode, convertNode, ← convert_pruned static fits', alike, convert_pruned static fits]
  rw [Converter.convert, Converter.convert, same]

theorem convert_eq_of_unlimited (unlimited : converter.context.stackLimit = none) :
    converter.convert n' key = converter.convert n key :=
  convert_eq_of_fits static alike key (tablesFit_unlimited unlimited 0 n')
    (tablesFit_unlimited unlimited 0 n)

/-- On a limited stack both conversions end as they do without a limit, where they are alike, or
with the report that nodes nest too deep. -/
theorem outcome_eq_or_tooDeep (idle : converter.Idle) :
    let tooDeep : Except Failure (Option Markup) :=
      .error (.tooDeep converter.context.settings.maxDepth)
    (converter.convert n' key).1 = (converter.convert n key).1 ∨
      (converter.convert n' key).1.1 = tooDeep ∨ (converter.convert n key).1.1 = tooDeep := by
  intro tooDeep
  cases stack : converter.context.stackLimit with
  | none => exact .inl (congrArg Prod.fst (convert_eq_of_unlimited static alike key stack))
  | some limit =>
    have limited : converter = converter.withStack (some limit) := by
      rw [Converter.withStack, Context.withStack, ← stack]
    have ends (m : Node) : EndsReported converter.context.settings.maxDepth
        ((converter.withStack none).convert m key) (converter.convert m key) := by
      rw [limited]
      exact endsReported_of_reports idle (reports_convert converter.context limit m _) none _
    have static' : (converter.withStack none).context.overrides.Static := static
    have free := convert_eq_of_unlimited static' alike key rfl
    rcases (ends n').outcome with same' | failed
    · rcases (ends n).outcome with same | failed
      · rw [same', same, free]
        exact .inl rfl
      · exact .inr (.inr failed)
    · exact .inr (.inl failed)

end converters

theorem pruned_branch {kind : String} {cs : List Node}
    (h : (Node.branch kind cs).hidesChildren = false) :
    (Node.branch kind cs).pruned = .branch kind (cs.map Node.pruned) :=
  Node.pruned_of_shows h

theorem pruned_quoted (k : Nat) (n : Node) : (Node.quoted k n).pruned = .quoted k n.pruned := by
  induction k with
  | zero => rfl
  | succ k ih =>
    rw [Node.quoted, pruned_branch rfl, List.map_singleton, ih]
    rfl

/-- The search for cells goes down all quotes. -/
theorem le_groupingDepth_quoted (k : Nat) (n : Node) :
    k + 1 ≤ (Node.quoted (k + 1) n).groupingDepth := by
  induction k with
  | zero =>
    rw [Node.groupingDepth_eq]
    exact Nat.le_add_right 1 _
  | succ k ih =>
    have inner : (Node.quoted (k + 1) n).childList ≠ [] := List.cons_ne_nil _ _
    have below := Node.groupingDepth_lt_of_mem (n := .quoted (k + 1 + 1) n)
      (List.mem_singleton_self _) rfl inner
    omega

/-- A table is not converted if the search for its cells does not fit. -/
theorem ensures_false_of_table {limit : Nat} (table : n.handling = .table)
    (limited : c.stackLimit = some limit) (full : limit < frames + 1 + callsOfRewriting n) :
    Ensures (convert c frames n key) fun _ => False := by
  have kind := n.kind_of_handling
  simp only [table] at kind
  have refused : call c (frames + 1 + callsOfRewriting n) = throw .stackExhausted := by
    rw [call, limited]
    exact if_pos full
  rw [convert_eq, if_neg (by simp [Node.isText, kind])]
  refine .seq fun _ => .within _ ?_
  rw [render, table]
  refine .seq fun _ => ?_
  dsimp only
  rw [refused]
  exact .bind (P := fun _ => False) (.throw _) fun _ impossible => impossible.elim

/-- A table with a row in which a note shows its value in the place of what it holds. -/
def notedTable (held : List Node) : Node :=
  .branch "table" [.branch "tableRow" [{ Node.leaf "note" "x" with children := some held }]]

theorem pruned_notedTable (held : List Node) : (notedTable held).pruned = notedTable [] := by
  rw [notedTable, pruned_branch rfl, List.map_singleton, pruned_branch rfl, List.map_singleton,
    Node.pruned_of_hides rfl]
  rfl

/-- The row and the note are searched before what the note holds. -/
theorem lt_callsOfRewriting_notedTable (k : Nat) (n : Node) :
    2 * (k + 3) < callsOfRewriting (notedTable [Node.quoted (k + 1) n]) := by
  let quotes := Node.quoted (k + 1) n
  let note : Node := { Node.leaf "note" "x" with children := some [quotes] }
  let row : Node := .branch "tableRow" [note]
  have calls : callsOfRewriting (notedTable [quotes]) = 1 + 2 * max 0 row.groupingDepth := rfl
  have inNote : quotes.groupingDepth < note.groupingDepth :=
    Node.groupingDepth_lt_of_mem (List.mem_singleton_self _) rfl (List.cons_ne_nil _ _)
  have inRow : note.groupingDepth < row.groupingDepth :=
    Node.groupingDepth_lt_of_mem (List.mem_singleton_self _) rfl (List.cons_ne_nil _ _)
  have deep : k + 1 ≤ quotes.groupingDepth := le_groupingDepth_quoted k n
  rw [calls]
  omega

end MarkdownTree.Conversion
