import MarkdownTree.Proofs.Conversion.DepthLimit
import MarkdownTree.Proofs.Conversion.Failures
import MarkdownTree.Proofs.Conversion.Outline

/-!
# Results of conversions

What several nodes are converted to depends on the context alone, not on how deep they stand or
what was converted before. `ConvertTo` is this relation between nodes and markup. What the element
of a node holds is what its children are converted to, also where a single text is taken as it is
(`convertTo_of_content`).
-/

namespace MarkdownTree.Conversion

variable {c : Context} {n : Node} {ns : List Node} {key : String} {ms body : List Markup}
  {frames : Nat}

/-- The nodes can be converted to the markup, and to nothing else, wherever they stand. -/
structure ConvertTo (c : Context) (ns : List Node) (ms : List Markup) : Prop where
  made : ∃ frames, Yields (convertEach c frames ns) ms
  only : ∀ frames, Ensures (convertEach c frames ns) (· = ms)

theorem convertTo_of_yields (h : Yields (convertEach c frames ns) ms) : ConvertTo c ns ms := by
  have outlines (frames : Nat) : Ensures (convertEach c frames ns) _ :=
    ensures_outlines fun frames key d _ => ensures_outline c frames d key
  have same := (outlines frames).of_yields h
  exact ⟨⟨frames, h⟩, fun frames => same ▸ outlines frames⟩

theorem ConvertTo.unique {ms' : List Markup} (h : ConvertTo c ns ms) (h' : ConvertTo c ns ms') :
    ms' = ms := by
  obtain ⟨frames, made⟩ := h'.made
  exact (h.only frames).of_yields made

/-- Where there is room for a call, a single text is converted to itself. -/
theorem convertEach_text (room : call c frames = pure ()) (text : n.isText = true) :
    convertEach c frames [n] = pure (n.value.map Markup.text).toList := by
  have converted (key : String) : convert c frames n key = pure (n.value.map Markup.text) := by
    rw [convert_eq, room, pure_bind, if_pos text]
  simp only [convertEach, collectEach, converted, pure_bind, List.append_nil]

/-- So taking a single text as it is makes no difference there. -/
theorem content_eq_children (room : ∀ limit ∈ c.stackLimit, frames ≤ limit)
    (value : n.value = none) :
    content n (convertEach c frames n.childList) = convertEach c frames n.childList := by
  unfold content
  rw [value]
  split
  · contradiction
  · next d _ single =>
    split
    · next text => rw [single, convertEach_text (call_of_room room) text]
    · rfl
  · rfl

/-- A text that is taken as it is could have been converted as well. -/
theorem convertTo_of_content (value : n.value = none)
    (h : Yields (content n (convertEach c frames n.childList)) body) :
    ConvertTo c n.childList body := by
  unfold content at h
  rw [value] at h
  split at h
  · contradiction
  · next d _ single =>
    split at h
    · next text =>
      rw [single]
      exact convertTo_of_yields (convertEach_text (call_zero c) text ▸ h)
    · exact convertTo_of_yields h
  · exact convertTo_of_yields h

/-- A node that fits into the limit is converted, if nothing else can fail. -/
theorem exists_ok_of_tolerant (tolerant : c.Tolerant) (room : n.need ≤ c.settings.maxDepth)
    (key : Option String) : ∃ m?, (Converter.convert { context := c } n key).1.1 = .ok m? := by
  obtain ⟨m?, warnings, run⟩ := runs_of_needs (needs_convert tolerant 0 n (key.getD "0"))
  have result := (run ⟨c.settings.maxDepth, c.settings.maxDepth_pos⟩).2 room
  exact ⟨m?, congrArg Prod.fst result⟩

/-- Without overrides, on a stack without an end, nothing but the nesting of nodes can fail. -/
theorem tolerant_unlimited : Context.Tolerant { stackLimit := none } := ⟨rfl, rfl, nofun⟩

end MarkdownTree.Conversion
