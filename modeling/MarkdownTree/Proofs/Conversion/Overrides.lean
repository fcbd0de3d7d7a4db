import MarkdownTree.Conversion.Session
import MarkdownTree.Proofs.Conversion.DepthLimit
import MarkdownTree.Proofs.Conversion.Outline

/-!
# What overrides change

Two tables of overrides that do not fail take the conversion of a node through the same steps:
`SameFate` says that both runs fail with the same failure or both succeed, and that they leave the
same progress. It composes along the steps whatever the results are, because no later step looks at
an earlier result.

Where both succeed, both results are one outline, dressed twice. So the tables can differ in the
tags and props of the elements only, and only where they differ for the kind of the node.
-/

namespace MarkdownTree

namespace Markup

mutual

/-- The tree without tags and props. -/
def bare : Markup → Markup
  | .text s => .text s
  | .element _ _ children => .element (.name "") [] (bareAll children)

/-- Several trees without tags and props. -/
def bareAll : List Markup → List Markup
  | [] => []
  | m :: ms => bare m :: bareAll ms

end

end Markup

namespace Outline

mutual

/-- The shape of what an outline becomes does not depend on the context. -/
theorem bare_dress (c c' : Context) : (o : Outline) → (dress c o).bare = (dress c' o).bare
  | .fixed _ => rfl
  | .element n key body => by
    rw [dress, dress, Markup.bare, Markup.bare, bareAll_dressAll c c' body]

theorem bareAll_dressAll (c c' : Context) :
    (os : List Outline) → Markup.bareAll (dressAll c os) = Markup.bareAll (dressAll c' os)
  | [] => rfl
  | o :: os => by
    rw [dressAll, dressAll, Markup.bareAll, Markup.bareAll, bare_dress c c' o,
      bareAll_dressAll c c' os]

end

end Outline

namespace Node

/-- Where the tag and the props of an element come from. Only the inner text of raw HTML cannot be
replaced by an override. -/
structure Dressed (c : Context) (n : Node) (key : String) (tag : Tag) (props : Fields) : Prop where
  component : ∀ o t, Entries.get? c.overrides n.kind = some o → o.component = some t →
    t ≠ .name "" → tag = t
  builtIn : (∀ o t, Entries.get? c.overrides n.kind = some o → o.component = some t →
    t = .name "") → tag = .name n.defaultTag
  innerHtml : n.kind = "html" →
    Entries.get? props "innerHTML" = some (.string (n.value.getD ""))
  others : ∀ name, (n.kind = "html" → name ≠ "innerHTML") →
    Entries.get? props name = (Entries.get? (.ofList (n.dynamicFields c.overrides)) name).or
      ((Entries.get? (.ofList (n.staticFields c.overrides)) name).or
        ((Entries.get? (.ofList (n.computedFields c.definitions)) name).or
          (Entries.get? [("key", .string key)] name)))
  order : Entries.keys props = Entries.distinct ("key" ::
    Entries.keys (n.computedFields c.definitions) ++ Entries.keys (n.staticFields c.overrides) ++
      Entries.keys (n.dynamicFields c.overrides) ++ if n.kind = "html" then ["innerHTML"] else [])

variable (c : Context) (n : Node) (key : String)

theorem tagUnder_of_component {overrides : Overrides} {o : Override} {t : Tag}
    (own : Entries.get? overrides n.kind = some o) (given : o.component = some t)
    (named : t ≠ .name "") : n.tagUnder overrides = t := by
  have asked : o.tag? = some t := by
    unfold Override.tag?
    split
    · next empty =>
      rw [given] at empty
      exact absurd (Option.some_inj.1 empty) named
    · exact given
  rw [tagUnder, own, Option.bind_some, asked, Option.getD_some]

theorem tagUnder_of_builtIn {overrides : Overrides}
    (h : ∀ o t, Entries.get? overrides n.kind = some o → o.component = some t → t = .name "") :
    n.tagUnder overrides = .name n.defaultTag := by
  rw [tagUnder]
  cases own : Entries.get? overrides n.kind with
  | none => rfl
  | some o =>
    rw [Option.bind_some, Override.tag?]
    cases given : o.component with
    | none => rfl
    | some t =>
      obtain rfl := h o t own given
      rfl

theorem get?_propsUnder (name : String) :
    Entries.get? (n.propsUnder c key) name = (Entries.get? (.ofList n.finalFields) name).or
      ((Entries.get? (.ofList (n.dynamicFields c.overrides)) name).or
        ((Entries.get? (.ofList (n.staticFields c.overrides)) name).or
          ((Entries.get? (.ofList (n.computedFields c.definitions)) name).or
            (Entries.get? [("key", .string key)] name)))) := by
  rw [propsUnder, givenFields, ← List.singleton_append]
  simp only [Entries.get?_ofList_append]
  rfl

theorem keys_propsUnder :
    Entries.keys (n.propsUnder c key) = Entries.distinct ("key" ::
      Entries.keys (n.computedFields c.definitions) ++ Entries.keys (n.staticFields c.overrides) ++
        Entries.keys (n.dynamicFields c.overrides) ++
          if n.kind = "html" then ["innerHTML"] else []) := by
  have last : n.finalFields.map Prod.fst = if n.kind = "html" then ["innerHTML"] else [] := by
    unfold finalFields
    split <;> rfl
  rw [propsUnder, Entries.keys_ofList, givenFields]
  simp only [List.map_append, List.map_cons, last]
  rfl

theorem dressed_under :
    n.Dressed c key (n.tagUnder c.overrides) (n.propsUnder c key) where
  component o t := n.tagUnder_of_component
  builtIn := n.tagUnder_of_builtIn
  innerHtml kind := by
    rw [get?_propsUnder, finalFields, if_pos kind]
    rfl
  others name other := by
    have none : Entries.get? (.ofList n.finalFields) name = none := by
      unfold finalFields
      split
      · next kind => exact if_neg (Ne.symm (other kind))
      · rfl
    rw [get?_propsUnder, none, Option.none_or]
  order := n.keys_propsUnder c key

/-- Only the override of the kind of a node has a say in its tag and props. -/
theorem tagUnder_congr {O P : Overrides} (same : Entries.get? O n.kind = Entries.get? P n.kind) :
    n.tagUnder O = n.tagUnder P := by
  rw [tagUnder, tagUnder, same]

theorem propsUnder_congr {c' : Context} (definitions : c.definitions = c'.definitions)
    (same : Entries.get? c.overrides n.kind = Entries.get? c'.overrides n.kind) :
    n.propsUnder c key = n.propsUnder c' key := by
  rw [propsUnder, propsUnder, givenFields, givenFields, staticFields, staticFields, dynamicFields,
    dynamicFields, definitions, same]

end Node

namespace Conversion

/-- Both conversions fail with the same failure or both succeed, and the progress that they leave
is the same. -/
def SameFate (m : Conversion α) (m' : Conversion β) : Prop :=
  ∀ p, (∃ e q, m p = (.error e, q) ∧ m' p = (.error e, q)) ∨
    ∃ a a' q, m p = (.ok a, q) ∧ m' p = (.ok a', q)

theorem reported_error (limit depth : Nat) (e : Failure) :
    ∃ e', ∀ α : Type, (reported limit depth (.error e) : Except Failure α) = .error e' := by
  by_cases caught : e = .stackExhausted ∧ depth = 0
  · obtain ⟨rfl, rfl⟩ := caught
    exact ⟨.tooDeep limit, fun _ => rfl⟩
  · refine ⟨e, fun _ => ?_⟩
    cases e with
    | stackExhausted => exact if_neg fun outermost => caught ⟨rfl, outermost⟩
    | _ => rfl

namespace SameFate

variable {m : Conversion α} {m' : Conversion α'} {f : α → Conversion β} {f' : α' → Conversion β'}

theorem refl (m : Conversion α) : SameFate m m := by
  intro p
  rcases run : m p with ⟨e | a, q⟩
  · exact .inl ⟨e, q, rfl, rfl⟩
  · exact .inr ⟨a, a, q, rfl, rfl⟩

theorem pure (a : α) (a' : α') : SameFate (pure a) (pure a') :=
  fun p => .inr ⟨a, a', p, rfl, rfl⟩

theorem bind (first : SameFate m m') (second : ∀ a a', SameFate (f a) (f' a')) :
    SameFate (m >>= f) (m' >>= f') := by
  intro p
  rcases first p with ⟨e, q, run, run'⟩ | ⟨a, a', q, run, run'⟩
  · exact .inl ⟨e, q, bind_of_error run, bind_of_error run'⟩
  · rw [bind_of_ok run, bind_of_ok run']
    exact second a a' q

theorem within (limit : Nat) (h : SameFate m m') : SameFate (within limit m) (within limit m') := by
  intro p
  by_cases deep : limit < p.depth + 1
  · exact .inl ⟨_, p, within_of_lt deep, within_of_lt deep⟩
  · rcases h { p with depth := p.depth + 1 } with ⟨e, q, run, run'⟩ | ⟨a, a', q, run, run'⟩
    · obtain ⟨e', same⟩ := reported_error limit p.depth e
      rw [within_of_not_lt deep run, within_of_not_lt deep run', same, same]
      exact .inl ⟨e', _, rfl, rfl⟩
    · rw [within_of_not_lt deep run, within_of_not_lt deep run']
      exact .inr ⟨_, _, _, rfl, rfl⟩

theorem collectEach {α β β' : Type} {f : Nat → α → Conversion (Option β)}
    {f' : Nat → α → Conversion (Option β')} {l : List α}
    (step : ∀ i, ∀ a ∈ l, SameFate (f i a) (f' i a)) (i : Nat) :
    SameFate (collectEach f i l) (collectEach f' i l) := by
  induction l generalizing i with
  | nil => exact pure [] []
  | cons a l ih =>
      refine bind (step i a (by simp)) fun _ _ => ?_
      refine bind (ih (fun j a' member => step j a' (by simp [member])) (i + 1)) fun _ _ => ?_
      exact pure _ _

end SameFate

/-! ### Overrides and the steps of a conversion -/

variable {O P : Overrides} {c : Context} {n : Node} {key : String}
variable {children children' : Conversion (List Markup)}

/-- The context with other overrides. -/
abbrev withOverrides (c : Context) (overrides : Overrides) : Context :=
  { c with overrides }

/-- Props that do not fail are a function of the computed ones. -/
theorem propsOf_eq (h : NeverFail O) (c : Context) (n : Node) (key : String) :
    ∃ f : Fields → Fields, propsOf (withOverrides c O) n key =
      computedProps c n >>= fun computed => pure (f computed) := by
  cases own : Entries.get? O n.kind with
  | none =>
    refine ⟨fun computed => Entries.merge [("key", .string key)] computed, ?_⟩
    simp only [propsOf, own]
    rfl
  | some o =>
    obtain ⟨fields, same⟩ : ∃ fields, dynamicProps o n = pure fields := by
      rcases dynamicProps_eq o n with made | ⟨f, message, given, failed, -⟩
      · exact made
      · obtain ⟨fields, made⟩ := h n.kind o f own given n
        rw [failed] at made
        cases made
    refine ⟨fun computed => Entries.merge (Entries.merge
      (Entries.merge [("key", .string key)] computed) o.props) fields, ?_⟩
    simp only [propsOf, own, same, pure_bind]
    rfl

section steps

variable (hO : NeverFail O) (hP : NeverFail P)

include hO hP

theorem sameFate_propsOf (c : Context) (n : Node) (key : String) :
    SameFate (propsOf (withOverrides c O) n key) (propsOf (withOverrides c P) n key) := by
  obtain ⟨f, hf⟩ := propsOf_eq hO c n key
  obtain ⟨g, hg⟩ := propsOf_eq hP c n key
  rw [hf, hg]
  exact .bind (.refl _) fun _ _ => .pure _ _

omit hO hP in
theorem sameFate_content (n : Node) (h : SameFate children children') :
    SameFate (content n children) (content n children') := by
  unfold content
  split
  · exact .pure _ _
  · split
    · exact .pure _ _
    · exact h
  · exact h

/-- Whether a node is rendered does not depend on the overrides. -/
theorem sameFate_generic (frames : Nat) (n : Node) (key : String)
    (h : SameFate children children') :
    SameFate (generic (withOverrides c O) frames n key children)
      (generic (withOverrides c P) frames n key children') := by
  unfold generic
  refine .bind (.refl _) fun _ _ => ?_
  cases hidden : n.isUnrendered with
  | true =>
    rw [Node.tag?_eq_none.2 hidden, Node.tag?_eq_none.2 hidden]
    exact .pure _ _
  | false =>
    rw [tag?_eq_tagUnder hidden, tag?_eq_tagUnder hidden]
    refine .bind (sameFate_content n h) fun _ _ => ?_
    exact .bind (sameFate_propsOf hO hP c n key) fun _ _ => .pure _ _

theorem sameFate_render (frames : Nat) (n : Node) (key : String)
    (h : SameFate children children') :
    SameFate (render (withOverrides c O) frames n key children)
      (render (withOverrides c P) frames n key children') := by
  unfold render
  refine .bind (.refl _) fun _ _ => ?_
  split
  · exact sameFate_generic hO hP _ n key h
  · refine .bind (.refl _) fun _ _ => ?_
    exact .bind (sameFate_propsOf hO hP c n key) fun _ _ => .pure _ _
  · refine .bind (.refl _) fun _ _ => ?_
    exact .bind (sameFate_propsOf hO hP c n key) fun _ _ => .pure _ _
  · refine .bind (.refl _) fun _ _ => ?_
    split
    · exact sameFate_generic hO hP _ n key h
    · refine .bind (sameFate_propsOf hO hP c n key) fun _ _ => ?_
      exact .bind h fun _ _ => .pure _ _
  · exact .bind (.refl _) fun _ _ => sameFate_generic hO hP _ _ key h

theorem sameFate_convert (c : Context) (frames : Nat) (n : Node) (key : String) :
    SameFate (convert (withOverrides c O) frames n key)
      (convert (withOverrides c P) frames n key) := by
  induction hw : n.weight using Nat.strongRecOn generalizing frames n key with
  | ind w ih =>
      rw [convert_eq, convert_eq]
      refine .bind (.refl _) fun _ _ => ?_
      split
      · exact .refl _
      · refine .within _ (sameFate_render hO hP frames n key (.collectEach ?_ 0))
        intro i d member
        exact ih d.weight (hw ▸ Node.weight_lt_of_mem_rewritten member) _ d _ rfl

end steps

/-- Two tables of overrides that do not fail give the same warnings, and the same failure or results
of the same shape: one outline that each of them dresses. A node whose kind has the same override in
both has the same tag and props under both. -/
theorem overrides_keep_shape (hO : NeverFail O) (hP : NeverFail P) (n : Node)
    (definitions : Entries (Option String) Definition) (settings : Settings)
    (stackLimit : Option Nat) (key : Option String) :
    let under (overrides : Overrides) : Context := { definitions, overrides, settings, stackLimit }
    let run (overrides : Overrides) := (Converter.convert { context := under overrides } n key).1
    let outline := n.outline (key.getD "0")
    (run O).2 = (run P).2 ∧
      ((∃ e, (run O).1 = .error e ∧ (run P).1 = .error e) ∨
        ∃ m m', (run O).1 = .ok m ∧ (run P).1 = .ok m' ∧ m.map Markup.bare = m'.map Markup.bare ∧
          m = outline.map (Outline.dress (under O)) ∧
          m' = outline.map (Outline.dress (under P))) ∧
      ∀ (a : Node) (k : String),
        a.Dressed (under O) k (a.tagUnder O) (a.propsUnder (under O) k) ∧
          (Entries.get? O a.kind = Entries.get? P a.kind →
            a.tagUnder O = a.tagUnder P ∧
              a.propsUnder (under O) k = a.propsUnder (under P) k) := by
  intro under run outline
  let c : Context := { definitions, settings, stackLimit }
  have ends (overrides : Overrides) {r : Except Failure (Option Markup)} {q : Progress}
      (ran : convert (withOverrides c overrides) 0 n (key.getD "0") {} = (r, q)) :
      run overrides = (r, q.warnings) := by
    change ((convert (withOverrides c overrides) 0 n (key.getD "0") {}).1,
      (convert (withOverrides c overrides) 0 n (key.getD "0") {}).2.warnings) = _
    rw [ran]
  refine ⟨?_, ?_, fun a k => ⟨a.dressed_under (under O) k, fun same => ⟨?_, ?_⟩⟩⟩
  · rcases sameFate_convert hO hP c 0 n (key.getD "0") {} with
      ⟨e, q, ran, ran'⟩ | ⟨m, m', q, ran, ran'⟩
    · rw [ends O ran, ends P ran']
    · rw [ends O ran, ends P ran']
  · rcases sameFate_convert hO hP c 0 n (key.getD "0") {} with
      ⟨e, q, ran, ran'⟩ | ⟨m, m', q, ran, ran'⟩
    · exact .inl ⟨e, by rw [ends O ran], by rw [ends P ran']⟩
    · have made := ensures_outline (under O) 0 n (key.getD "0") {} m q ran
      have made' := ensures_outline (under P) 0 n (key.getD "0") {} m' q ran'
      refine .inr ⟨m, m', by rw [ends O ran], by rw [ends P ran'], ?_, made, made'⟩
      rw [made, made', Option.map_map, Option.map_map]
      exact Option.map_congr fun o _ => Outline.bare_dress (under O) (under P) o
  · exact a.tagUnder_congr same
  · exact a.propsUnder_congr (under O) k rfl same

/-- Overrides of a mark, of the target of a reference, of raw HTML and of paragraphs. -/
def marking : Overrides :=
  [("sup", { component := some (.name "small") }),
    ("imageReference", { props := [("src", .string "/none")] }),
    ("html", { props := [("innerHTML", .string "lost"), ("id", .string "raw")] }),
    ("paragraph", { dynamicProps := some fun n => .ok [("n", .int n.childList.length)] })]

/-- Overrides of the body of a table, of definitions and, as in `marking`, of raw HTML. -/
def boxing : Overrides :=
  [("tableBody", { component := some (.component "Box") }),
    ("definition", { component := some (.name "span") }),
    ("html", { props := [("innerHTML", .string "lost"), ("id", .string "raw")] })]

theorem neverFail_marking : NeverFail marking := by
  intro kind o f own has n
  have member := Entries.mem_of_get? own
  simp only [marking, List.mem_cons, Prod.mk.injEq, List.not_mem_nil, or_false] at member
  rcases member with ⟨-, rfl⟩ | ⟨-, rfl⟩ | ⟨-, rfl⟩ | ⟨-, rfl⟩
  · cases has
  · cases has
  · cases has
  · cases has
    exact ⟨_, rfl⟩

theorem neverFail_boxing : NeverFail boxing := by
  intro kind o f own has n
  have member := Entries.mem_of_get? own
  simp only [boxing, List.mem_cons, Prod.mk.injEq, List.not_mem_nil, or_false] at member
  rcases member with ⟨-, rfl⟩ | ⟨-, rfl⟩ | ⟨-, rfl⟩ <;> cases has

/-- A reference that leads nowhere, a footnote reference in a table, raw HTML, and a definition. -/
def furnished : Node :=
  .branch "root" [
    { kind := "imageReference", identifier := some "missing" },
    .branch "table" [.branch "tableRow" [
      .branch "tableCell" [{ kind := "footnoteReference", identifier := some "n" }]]],
    .leaf "html" "<b>",
    { kind := "definition", identifier := some "a" },
    .branch "paragraph" [.leaf "text" "end"]]

theorem furnished_keeps_shape :
    let under (overrides : Overrides) : Context := { overrides }
    let run (overrides : Overrides) :=
      (Converter.convert { context := under overrides } furnished none).1
    NeverFail marking ∧ NeverFail boxing ∧ (run marking).2 = (run boxing).2 ∧
      (run boxing).2 = [⟨"imageReference", some "missing"⟩] ∧
      (∃ m m', (run marking).1 = .ok m ∧ (run boxing).1 = .ok m' ∧
        m.map Markup.bare = m'.map Markup.bare) ∧
      ∀ k, (Node.leaf "html" "<b>").propsUnder (under marking) k =
        (Node.leaf "html" "<b>").propsUnder (under boxing) k := by
  intro under run
  obtain ⟨warned, results, dressed⟩ := overrides_keep_shape neverFail_marking neverFail_boxing
    furnished [] {} usualStackLimit none
  refine ⟨neverFail_marking, neverFail_boxing, warned, ?_, ?_, fun k => ?_⟩
  · decide +kernel
  · have ok : (run marking).1.isOk = true := by decide +kernel
    obtain ⟨m, given⟩ := exists_of_isOk ok
    rcases results with ⟨e, fails, -⟩ | ⟨m, m', gives, gives', same, -⟩
    · cases given.symm.trans fails
    · exact ⟨m, m', gives, gives', same⟩
  · exact ((dressed (.leaf "html" "<b>") k).2 rfl).2

end Conversion

end MarkdownTree
