import MarkdownTree.Proofs.Conversion.Elements
import MarkdownTree.Proofs.Node.Depth
import MarkdownTree.Proofs.References
import MarkdownTree.Rendering

/-!
# The limit of nesting

A conversion that warns about references and whose overrides do not fail can only fail because its
nodes nest too deep. `Needs` says of the runs of one conversion under all limits that they have the
same result and the same warnings wherever the limit leaves room for a given depth, and that they
fail everywhere else. It composes along the steps of a conversion: two steps one after the other
need the greater of what they need, and the entering of a node needs one more than what happens
inside of it.

What a node needs is `Node.need`, which does not mention conversion. A document needs what its tree
needs and what the children of its footnotes need, which are converted outside of all nodes.
-/

namespace MarkdownTree

namespace Node

/-- A node that is rendered by its content needs one more than the content of the node that is
rendered in its place. -/
theorem need_of_content {n : Node} (text : n.isText = false) (code : n.kind ≠ "code")
    (html : n.kind ≠ "html") (shown : n.isUnrendered = false)
    (task : n.kind = "listItem" → n.checked = none) :
    n.need = 1 + n.rewritten.contentNeed := by
  have item : ¬ (n.kind = "listItem" && n.checked.isSome) = true := by
    simp only [Bool.and_eq_true, decide_eq_true_eq, not_and]
    intro kind
    simp [task kind]
  rw [need_eq, if_neg (by simp [text]), if_neg (by simp [code, html, shown]), if_neg item,
    contentNeed, value_rewritten]
  split
  · rfl
  · split
    · next kind =>
      have marked : n.rewritten.childList = [n.footnoteMark] := by
        simp only [rewritten, handling, kind]
        rfl
      rw [marked, needOfAll_cons, need_footnoteMark, needOfAll_nil]
      rfl
    · rfl

end Node

/-- A limit of nesting. -/
abbrev Limit := { limit : Nat // 0 < limit }

/-- The settings with another limit of nesting. -/
def Settings.withLimit (s : Settings) (limit : Limit) : Settings :=
  { s with maxDepth := limit.1, maxDepth_pos := limit.2 }

/-- The context with another limit of nesting. -/
def Context.withLimit (c : Context) (limit : Limit) : Context :=
  { c with settings := c.settings.withLimit limit }

@[simp] theorem Context.overrides_withLimit (c : Context) (limit : Limit) :
    (c.withLimit limit).overrides = c.overrides := rfl

@[simp] theorem Context.stackLimit_withLimit (c : Context) (limit : Limit) :
    (c.withLimit limit).stackLimit = c.stackLimit := rfl

@[simp] theorem Context.strictReferences_withLimit (c : Context) (limit : Limit) :
    (c.withLimit limit).settings.strictReferences = c.settings.strictReferences := rfl

/-- No override computes props that fail. -/
def NeverFail (overrides : Overrides) : Prop :=
  ∀ kind o f, Entries.get? overrides kind = some o → o.dynamicProps = some f →
    ∀ n, ∃ fields, f n = .ok fields

/-- Under the context nothing but the depth of the nodes makes a conversion fail. -/
structure Context.Tolerant (c : Context) : Prop where
  unlimited : c.stackLimit = none
  lenient : c.settings.strictReferences = false
  computes : NeverFail c.overrides

namespace Conversion

/-- Under every limit that leaves room for `k` more nodes the conversion gives the same result and
the same warnings; under every other limit the nodes nest too deep. -/
def Needs (k : Nat) (m : Limit → Conversion α) : Prop :=
  ∃ a added, ∀ (limit : Limit) (depth : Nat) (before : List Warning), depth ≤ limit →
    (depth + k ≤ limit → m limit ⟨depth, before⟩ = (.ok a, ⟨depth, before ++ added⟩)) ∧
      (limit < depth + k → ∃ q, m limit ⟨depth, before⟩ = (.error (.tooDeep limit), q))

namespace Needs

variable {k k' : Nat} {m : Limit → Conversion α} {f : Limit → α → Conversion β}

theorem of_succeeds (a : α) (added : List Warning)
    (run : ∀ limit depth before, m limit ⟨depth, before⟩ = (.ok a, ⟨depth, before ++ added⟩)) :
    Needs 0 m := by
  refine ⟨a, added, fun limit depth before room => ⟨fun _ => run limit depth before, ?_⟩⟩
  intro deep
  omega

theorem pure (a : α) : Needs 0 fun _ => (pure a : Conversion α) :=
  of_succeeds a [] fun _ _ before => by rw [List.append_nil]; rfl

/-- Two steps need the greater of what they need. -/
theorem bind (hm : Needs k m) (hf : ∀ a, Needs k' fun limit => f limit a) :
    Needs (max k k') fun limit => m limit >>= f limit := by
  obtain ⟨a, added, run⟩ := hm
  obtain ⟨b, added', run'⟩ := hf a
  refine ⟨b, added ++ added', fun limit depth before room => ?_⟩
  obtain ⟨first, deep⟩ := run limit depth before room
  obtain ⟨second, deep'⟩ := run' limit depth (before ++ added) room
  constructor
  · intro enough
    rw [← List.append_assoc]
    exact (bind_of_ok (first (by omega))).trans (second (by omega))
  · intro short
    by_cases enough : depth + k ≤ limit
    · obtain ⟨q, failed⟩ := deep' (by omega)
      exact ⟨q, (bind_of_ok (first enough)).trans failed⟩
    · obtain ⟨q, failed⟩ := deep (by omega)
      exact ⟨q, bind_of_error failed⟩

/-- A second step that needs nothing. -/
theorem andThen (hm : Needs k m) (hf : ∀ a, Needs 0 fun limit => f limit a) :
    Needs k fun limit => m limit >>= f limit := by
  simpa only [Nat.max_zero] using hm.bind hf

/-- A first step that needs nothing. -/
theorem afterwards (hm : Needs 0 m) (hf : ∀ a, Needs k fun limit => f limit a) :
    Needs k fun limit => m limit >>= f limit := by
  simpa only [Nat.zero_max] using hm.bind hf

/-- The entering of a node needs one more than what happens inside of it. -/
theorem within (hm : Needs k m) : Needs (1 + k) fun limit => within limit (m limit) := by
  obtain ⟨a, added, run⟩ := hm
  refine ⟨a, added, fun limit depth before room => ⟨fun enough => ?_, fun short => ?_⟩⟩
  · obtain ⟨inside, -⟩ := run limit (depth + 1) before (by omega)
    have outside : ¬ limit.1 < depth + 1 := by omega
    exact within_of_not_lt (p := ⟨depth, before⟩) outside (inside (by omega))
  · by_cases outside : limit.1 < depth + 1
    · exact ⟨_, within_of_lt (p := ⟨depth, before⟩) outside⟩
    · obtain ⟨-, deep⟩ := run limit (depth + 1) before (by omega)
      obtain ⟨q, inside⟩ := deep (by omega)
      exact ⟨_, within_of_not_lt (p := ⟨depth, before⟩) outside inside⟩

end Needs

/-! ### The steps of a conversion -/

section steps

variable {c : Context} (tolerant : c.Tolerant)

include tolerant

theorem needs_call (frames : Nat) : Needs 0 fun limit => call (c.withLimit limit) frames := by
  have room (limit : Limit) : call (c.withLimit limit) frames = pure () := by
    simp only [call, Context.stackLimit_withLimit, tolerant.unlimited]
  simp only [room]
  exact .pure ()

theorem needs_resolve (n : Node) : Needs 0 fun limit => resolve (c.withLimit limit) n := by
  cases found : Entries.get? c.definitions n.identifier with
  | some d =>
      have run (limit : Limit) : resolve (c.withLimit limit) n = pure d := resolve_of_some found
      simp only [run]
      exact .pure d
  | none =>
      refine .of_succeeds {} [⟨n.kind, n.identifier⟩] fun limit depth before => ?_
      rw [resolve_of_none (c := c.withLimit limit) found, if_neg (by simp [tolerant.lenient])]
      rfl

theorem needs_computedProps (n : Node) :
    Needs 0 fun limit => computedProps (c.withLimit limit) n := by
  have reference (make : Definition → Fields) :
      Needs 0 fun limit => resolve (c.withLimit limit) n >>= fun d => pure (make d) :=
    (needs_resolve tolerant n).andThen fun _ => .pure _
  unfold computedProps
  split
  · exact .pure _
  split
  · exact .pure _
  split
  · exact reference _
  split
  · exact .pure _
  split
  · exact reference _
  split
  · exact .pure _
  split
  · exact .pure _
  · exact .pure _

theorem needs_dynamicProps {n : Node} {o : Override}
    (own : Entries.get? c.overrides n.kind = some o) :
    Needs 0 fun _ => dynamicProps o n := by
  rcases dynamicProps_eq o n with ⟨fields, h⟩ | ⟨f, message, has, failed, _⟩
  · simp only [h]
    exact .pure fields
  · obtain ⟨fields, ok⟩ := tolerant.computes n.kind o f own has n
    rw [failed] at ok
    cases ok

theorem needs_propsOf (n : Node) (key : String) :
    Needs 0 fun limit => propsOf (c.withLimit limit) n key := by
  unfold propsOf
  refine (needs_computedProps tolerant n).afterwards fun computed => ?_
  simp only [Context.overrides_withLimit]
  cases own : Entries.get? c.overrides n.kind with
  | none => exact .pure _
  | some o => exact (needs_dynamicProps tolerant own).andThen fun _ => .pure _

variable {n : Node} {key : String} {frames : Nat} {children : Limit → Conversion (List Markup)}

omit tolerant in
theorem needs_content (h : Needs (Node.needOfAll n.childList) children) :
    Needs n.contentNeed fun limit => content n (children limit) := by
  unfold content Node.contentNeed
  cases hv : n.value with
  | some value => exact .pure _
  | none =>
      rw [if_neg (by simp)]
      split
      · contradiction
      · next d _ single =>
        split
        · next text =>
          rw [single, Node.needOfAll_cons, Node.need_of_isText text]
          exact .pure _
        · exact h
      · exact h

theorem needs_generic (shown : n.isUnrendered = false)
    (h : Needs (Node.needOfAll n.childList) children) :
    Needs n.contentNeed fun limit =>
      generic (c.withLimit limit) frames n key (children limit) := by
  obtain ⟨tag, rendered⟩ : ∃ tag, n.tag? c.overrides = some tag :=
    Option.ne_none_iff_exists'.1 (Node.tag?_ne_none shown)
  unfold generic
  refine (needs_call tolerant _).afterwards fun _ => ?_
  simp only [Context.overrides_withLimit, rendered]
  refine (needs_content h).andThen fun body => ?_
  exact (needs_propsOf tolerant n key).andThen fun _ => .pure _

theorem needs_generic_of_isUnrendered (hidden : n.isUnrendered = true) :
    Needs 0 fun limit => generic (c.withLimit limit) frames n key (children limit) := by
  unfold generic
  refine (needs_call tolerant _).afterwards fun _ => ?_
  simp only [Context.overrides_withLimit, Node.tag?_eq_none.2 hidden]
  exact .pure _

theorem needs_code : Needs 0 fun limit => code (c.withLimit limit) n key := by
  unfold code
  simp only [Context.overrides_withLimit]
  exact (needs_propsOf tolerant n key).andThen fun _ => .pure _

theorem needs_rawHtml : Needs 0 fun limit => rawHtml (c.withLimit limit) n key := by
  unfold rawHtml
  simp only [Context.overrides_withLimit]
  exact (needs_propsOf tolerant n key).andThen fun _ => .pure _

theorem needs_task {done : Bool} (h : Needs (Node.needOfAll n.childList) children) :
    Needs (Node.needOfAll n.childList) fun limit =>
      task (c.withLimit limit) n key done (children limit) := by
  unfold task
  simp only [Context.overrides_withLimit]
  refine (needs_propsOf tolerant n key).afterwards fun _ => ?_
  exact h.andThen fun _ => .pure _

/-- One case for each way of rendering: what happens inside of a node needs one less than the node
itself. -/
theorem needs_render (text : n.isText = false)
    (h : Needs (Node.needOfAll n.rewritten.childList) children) :
    ∃ k, n.need = 1 + k ∧
      Needs k fun limit => render (c.withLimit limit) frames n key (children limit) := by
  have kind := n.kind_of_handling
  have called {m : Limit → Conversion (Option Markup)} {k frames : Nat} (hm : Needs k m) :
      Needs k fun limit => call (c.withLimit limit) frames >>= fun _ => m limit :=
    (needs_call tolerant frames).afterwards fun _ => hm
  have regrouped (frames : Nat) (shown : n.isUnrendered = false) :
      Needs n.rewritten.contentNeed fun limit =>
        generic (c.withLimit limit) frames n.rewritten key (children limit) :=
    needs_generic tolerant (by simpa only [Node.isUnrendered, Node.kind_rewritten] using shown) h
  unfold render
  cases hh : n.handling with
  | generic =>
      simp only [hh] at kind
      have plain := Node.rewritten_of_generic hh
      cases shown : n.isUnrendered with
      | true =>
          refine ⟨0, Node.need_of_hidden text (.inr (.inr shown)), called ?_⟩
          exact needs_generic_of_isUnrendered tolerant shown
      | false =>
          refine ⟨n.rewritten.contentNeed, ?_, called ?_⟩
          · exact Node.need_of_content text kind.1 kind.2.2.1 shown (absurd · kind.2.1)
          · simpa only [plain] using regrouped _ shown
  | code =>
      simp only [hh] at kind
      exact ⟨0, Node.need_of_hidden text (.inl kind), called (called (needs_code tolerant))⟩
  | html =>
      simp only [hh] at kind
      refine ⟨0, Node.need_of_hidden text (.inr (.inl kind)), ?_⟩
      exact called (called (needs_rawHtml tolerant))
  | listItem =>
      simp only [hh] at kind
      have plain : n.rewritten = n := by simp only [Node.rewritten, hh]
      have shown : n.isUnrendered = false := by simp [Node.isUnrendered, kind]
      cases checked : n.checked with
      | none =>
          refine ⟨n.rewritten.contentNeed, ?_, called (called ?_)⟩
          · exact Node.need_of_content text (by simp [kind]) (by simp [kind]) shown fun _ => checked
          · simpa only [plain] using regrouped _ shown
      | some done =>
          refine ⟨_, Node.need_of_task kind (by simp [checked]), called (called ?_)⟩
          exact needs_task tolerant (by simpa only [plain] using h)
  | _ =>
      simp only [hh] at kind
      have shown : n.isUnrendered = false := by simp [Node.isUnrendered, kind]
      refine ⟨n.rewritten.contentNeed, ?_, called (called (regrouped _ shown))⟩
      exact Node.need_of_content text (by simp [kind]) (by simp [kind]) shown (by simp [kind])

/-! ### Whole trees -/

omit tolerant in
theorem needs_convertEach {nodes : List Node}
    (h : ∀ frames key, ∀ d ∈ nodes,
      Needs d.need fun limit => convert (c.withLimit limit) frames d key) :
    Needs (Node.needOfAll nodes) fun limit => convertEach (c.withLimit limit) frames nodes := by
  have each (i : Nat) : Needs (Node.needOfAll nodes) fun limit =>
      collectEach (fun i d => convert (c.withLimit limit) frames d (toString i)) i nodes := by
    induction nodes generalizing i with
    | nil => exact .pure []
    | cons d nodes ih =>
        have rest := ih (fun frames key d' member => h frames key d' (by simp [member])) (i + 1)
        refine (h frames (toString i) d (by simp)).bind fun _ => ?_
        exact rest.andThen fun _ => .pure _
  exact each 0

/-- By induction on the weight: the children of a rewritten node weigh less than the node. -/
theorem needs_convert (frames : Nat) (n : Node) (key : String) :
    Needs n.need fun limit => convert (c.withLimit limit) frames n key := by
  induction hw : n.weight using Nat.strongRecOn generalizing frames n key with
  | ind w ih =>
      simp only [convert_eq]
      refine (needs_call tolerant _).afterwards fun _ => ?_
      cases text : n.isText with
      | true =>
          rw [Node.need_of_isText text]
          exact .pure _
      | false =>
          have below (frames : Nat) : Needs (Node.needOfAll n.rewritten.childList) fun limit =>
              convertEach (c.withLimit limit) frames n.rewritten.childList :=
            needs_convertEach fun frames key d member =>
              ih d.weight (hw ▸ Node.weight_lt_of_mem_rewritten member) frames d key rfl
          have rendered : ∃ k, n.need = 1 + k ∧ Needs k fun limit =>
              render (c.withLimit limit) frames n key (convertEach (c.withLimit limit)
                (frames + callsBetween n) n.rewritten.childList) :=
            needs_render tolerant text (below (frames + callsBetween n))
          obtain ⟨k, same, inside⟩ := rendered
          rw [same]
          exact inside.within

/-- The children of a footnote are converted outside of all nodes, unless it has a value. -/
theorem needs_renderFootnote (f : Node) :
    Needs f.contentNeed fun limit => References.renderFootnote (c.withLimit limit) f := by
  have body : Needs f.contentNeed fun limit => References.footnoteBody (c.withLimit limit) f := by
    unfold References.footnoteBody Node.contentNeed
    cases f.value with
    | some value => exact .pure _
    | none => exact needs_convertEach fun frames key d _ => needs_convert tolerant frames d key
  exact body.andThen fun _ => .pure _

theorem needs_renderFootnotes (fs : List Node) :
    Needs (greatest (fs.map Node.contentNeed)) fun limit =>
      References.renderFootnotes (c.withLimit limit) fs := by
  induction fs with
  | nil => exact .pure []
  | cons f fs ih =>
      exact (needs_renderFootnote tolerant f).bind fun _ => ih.andThen fun _ => .pure _

end steps

theorem needs_collect {overrides : Overrides} {settings : Settings}
    (lenient : settings.strictReferences = false) (computes : NeverFail overrides) (n : Node) :
    Needs (greatest ((n.shownFootnotes.map Gathered.labelled).map Node.contentNeed)) fun limit =>
      References.collect n overrides (settings.withLimit limit) none := by
  let c : Context := { definitions := (Gathered.ofTree n).definitions, overrides, settings,
                       stackLimit := none }
  simp only [References.collect_eq]
  exact (needs_renderFootnotes (c := c) ⟨rfl, lenient, computes⟩ _).andThen fun _ => .pure _

/-- The depth that a document needs: that of its footnotes and that of its tree. -/
def documentNeed (n : Node) : Nat :=
  max (greatest ((n.shownFootnotes.map Gathered.labelled).map Node.contentNeed)) n.need

theorem needs_renderTree {overrides : Overrides} {settings : Settings}
    (lenient : settings.strictReferences = false) (computes : NeverFail overrides) (n : Node) :
    Needs (documentNeed n) fun limit =>
      Rendering.renderTree n overrides (settings.withLimit limit) none := by
  refine (needs_collect lenient computes n).bind fun references => ?_
  let c : Context := { definitions := references.definitions, overrides, settings,
                       stackLimit := none }
  refine (needs_convert (c := c) ⟨rfl, lenient, computes⟩ 0 n "0").andThen fun root => ?_
  exact .pure (Rendering.withFootnotes settings references.footnotes root)

theorem contentNeed_labelled_le_iff {f : Node} {k : Nat} :
    (Gathered.labelled f).contentNeed ≤ k ↔
      (f.value = none → ∀ d ∈ (Gathered.labelled f).childList, d.need ≤ k) := by
  rw [Node.contentNeed, Gathered.value_labelled]
  cases f.value with
  | some value => simp
  | none => simp [Node.needOfAll_le_iff]

theorem documentNeed_le_iff {n : Node} {k : Nat} :
    documentNeed n ≤ k ↔ n.need ≤ k ∧ ∀ f ∈ n.shownFootnotes, f.value = none →
      ∀ d ∈ (Gathered.labelled f).childList, d.need ≤ k := by
  rw [documentNeed, Nat.max_le, greatest_le_iff, List.forall_mem_map, List.forall_mem_map, and_comm]
  simp only [contentNeed_labelled_le_iff]

/-- Below what it needs the run fails for this reason, and from there on it is always the same. -/
theorem runs_of_needs {k : Nat} {m : Limit → Conversion α} (h : Needs k m) :
    ∃ a warnings, ∀ limit : Limit,
      ((start (m limit)).1 = .error (.tooDeep limit) ↔ limit < k) ∧
        (k ≤ limit → start (m limit) = (.ok a, warnings)) := by
  obtain ⟨a, warnings, run⟩ := h
  refine ⟨a, warnings, fun limit => ?_⟩
  obtain ⟨enough, deep⟩ := run limit 0 [] (Nat.zero_le _)
  have result (room : k ≤ limit) : start (m limit) = (.ok a, warnings) := by
    change ((m limit ⟨0, []⟩).1, (m limit ⟨0, []⟩).2.warnings) = _
    rw [enough (by omega), List.nil_append]
  refine ⟨⟨fun failed => Nat.lt_of_not_le fun room => ?_, fun short => ?_⟩, result⟩
  · rw [result room] at failed
    cases failed
  · obtain ⟨q, failed⟩ := deep (by omega)
    exact start_fst_eq.2 ⟨q, failed⟩

/-- If references without a definition are warned about and no override fails, the conversion of a
node fails exactly under the limits below the depth that it needs, as too deep, and has one result
with the same warnings under all others. A document is rendered under the same limits, as long as
they leave room for the children of its footnotes as well. -/
theorem depth_limit_exact {overrides : Overrides} {settings : Settings}
    (lenient : settings.strictReferences = false) (computes : NeverFail overrides) (n : Node) :
    (∀ (definitions : Entries (Option String) Definition) (key : Option String),
      ∃ m warnings, ∀ limit : Limit,
        let c : Context := { definitions, overrides, settings := settings.withLimit limit,
                             stackLimit := none }
        let run := (Converter.convert { context := c } n key).1
        (run.1 = .error (.tooDeep limit) ↔ limit < n.need) ∧
          (n.need ≤ limit → run = (.ok m, warnings))) ∧
      ∃ m warnings, ∀ limit : Limit,
        let run := start (Rendering.renderTree n overrides (settings.withLimit limit) none)
        let tooLow : Prop := limit < n.need ∨
          ∃ f ∈ n.shownFootnotes, f.value = none ∧
            ∃ d ∈ (Gathered.labelled f).childList, limit < d.need
        (run.1 = .error (.tooDeep limit) ↔ tooLow) ∧ (¬ tooLow → run = (.ok m, warnings)) := by
  constructor
  · intro definitions key
    let c : Context := { definitions, overrides, settings, stackLimit := none }
    exact runs_of_needs (needs_convert (c := c) ⟨rfl, lenient, computes⟩ 0 n (key.getD "0"))
  · obtain ⟨m, warnings, run⟩ := runs_of_needs (needs_renderTree lenient computes n)
    refine ⟨m, warnings, fun limit => ?_⟩
    have room : limit < documentNeed n ↔ limit < n.need ∨ ∃ f ∈ n.shownFootnotes,
        f.value = none ∧ ∃ d ∈ (Gathered.labelled f).childList, limit < d.need := by
      rw [← Nat.not_le, documentNeed_le_iff]
      grind
    obtain ⟨fails, result⟩ := run limit
    refine ⟨fails.trans room, fun enough => result ?_⟩
    exact Nat.not_lt.1 (mt room.1 enough)

/-- Paragraphs are numbered by their children. -/
def countingParagraphs : Overrides :=
  [("paragraph", { dynamicProps := some fun n => .ok [("n", .int n.childList.length)] })]

theorem neverFail_countingParagraphs : NeverFail countingParagraphs := by
  intro kind o f own has n
  simp only [countingParagraphs, Entries.get?] at own
  split at own
  · cases own
    cases has
    exact ⟨_, rfl⟩
  · cases own

/-- A footnote reference in a table, which nests deeper once the table is regrouped, and a footnote
that nests deeper still. -/
def deepFootnote : Node :=
  let quoted (n : Node) : Node := .branch "blockquote" [n]
  let reference : Node := { kind := "footnoteReference", identifier := some "n" }
  .branch "root" [
    .branch "table" [
      .branch "tableRow" [.branch "tableCell" [.branch "paragraph" [reference, .leaf "text" "!"]]]],
    { Node.branch "footnoteDefinition"
        [quoted (quoted (quoted (quoted (quoted (quoted (quoted (quoted
            (.branch "paragraph" [])))))))),
          .branch "paragraph" []] with
      identifier := some "n" }]

/-- The tree needs eight levels and its footnote nine. -/
theorem deepFootnote_limits :
    (∀ limit : Limit, (Converter.convert
        { context := { overrides := countingParagraphs,
                       settings := Settings.withLimit {} limit, stackLimit := none } }
        deepFootnote none).1.1 = .error (.tooDeep limit) ↔ limit.1 < 8) ∧
      ∀ limit : Limit, (start (Rendering.renderTree deepFootnote countingParagraphs
        (Settings.withLimit {} limit) none)).1 = .error (.tooDeep limit) ↔ limit.1 < 9 := by
  have lenient : Settings.strictReferences {} = false := rfl
  obtain ⟨converted, rendered⟩ :=
    depth_limit_exact lenient neverFail_countingParagraphs deepFootnote
  have need : deepFootnote.need = 8 := by decide +kernel
  have shown : deepFootnote.shownFootnotes.map (fun f => (f.value,
      (Gathered.labelled f).childList.map Node.need)) = [(none, [9, 1])] := by
    decide +kernel
  constructor
  · intro limit
    obtain ⟨m, warnings, run⟩ := converted [] none
    rw [← need]
    exact (run limit).1
  · intro limit
    obtain ⟨m, warnings, run⟩ := rendered
    obtain ⟨f, only, same⟩ := List.map_eq_singleton_iff.1 shown
    obtain ⟨value, needs⟩ := Prod.mk.inj same
    have below : (∃ d ∈ (Gathered.labelled f).childList, limit.1 < d.need) ↔ limit.1 < 9 := by
      constructor
      · rintro ⟨d, member, low⟩
        have one : d.need ∈ [9, 1] := needs ▸ List.mem_map_of_mem member
        grind
      · intro low
        have deepest : 9 ∈ (Gathered.labelled f).childList.map Node.need := by simp [needs]
        obtain ⟨d, member, nine⟩ := List.mem_map.1 deepest
        exact ⟨d, member, by omega⟩
    refine (run limit).1.trans ?_
    rw [need, only]
    simp only [List.mem_singleton, exists_eq_left, value, true_and, below]
    omega

end Conversion

end MarkdownTree
