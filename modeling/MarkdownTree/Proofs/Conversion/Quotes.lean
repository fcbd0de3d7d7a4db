import MarkdownTree.Conversion.Session
import MarkdownTree.Proofs.Conversion.Comparison
import MarkdownTree.Proofs.Conversion.Elements

/-!
# Nested block quotes

A node in `k` block quotes is the simplest tree of its depth: without overrides it is converted with
two more calls and one more level of nesting for each quote. `Makes` says that there is room for a
conversion and how deep its markup nests, and `makes_quoted` adds the quotes one by one. If the
node inside cannot be converted, neither can the quotes (`ensures_false_quoted`), and a failure that
is not for want of stack gets out of all of them (`failsAt_quoted`).
-/

namespace MarkdownTree

namespace Node

/-- A node in block quotes, one inside of the other. -/
def quoted : Nat → Node → Node
  | 0, n => n
  | k + 1, n => .branch "blockquote" [quoted k n]

variable {n : Node}

theorem isText_quoted (text : n.isText = false) (k : Nat) : (quoted k n).isText = false := by
  cases k with
  | zero => exact text
  | succ k => rfl

end Node

namespace Conversion

variable {c : Context} {frames depth h : Nat} {n : Node}

/-- Without overrides a quote is an element with what its only child is converted to. -/
theorem convert_quote (plain : c.overrides = []) (text : n.isText = false) (frames : Nat)
    (key : String) :
    convert c frames (.branch "blockquote" [n]) key = (do
      call c frames
      within c.settings.maxDepth (do
        call c (frames + 1)
        call c (frames + 2)
        let m? ← convert c (frames + 2) n "0"
        return some (.element (.name "blockquote") [("key", .string key)] m?.toList))) := by
  let quote : Node := .branch "blockquote" [n]
  have handled : quote.handling = .generic := rfl
  have tag : quote.tag? c.overrides = some (.name "blockquote") := by
    rw [plain]
    rfl
  have props : propsOf c quote key = pure [("key", .string key)] := by
    unfold propsOf
    rw [plain]
    rfl
  have body (children : Conversion (List Markup)) : content quote children = children := by
    unfold content
    exact if_neg (by simp [text])
  change convert c frames quote key = _
  rw [convert_eq]
  congr 1
  funext _
  change within _ _ = within _ _
  rw [render, handled]
  dsimp only
  rw [generic, tag]
  dsimp only
  rw [body, props, callsBetween, handled, Node.rewritten_of_generic handled]
  simp only [convertEach, collectEach, quote, Node.branch, Node.childList, Option.getD_some,
    bind_assoc, pure_bind, List.append_nil]
  rfl

/-- A node that is the first of its siblings is made markup of the given height at the given
depth. -/
def Makes (c : Context) (frames depth : Nat) (n : Node) (h : Nat) : Prop :=
  ∀ before, ∃ m q, convert c frames n "0" ⟨depth, before⟩ = (.ok (some m), q) ∧ m.height = h

/-- What was recorded before makes no difference. -/
theorem makes_of_run
    (run : (convert c frames n "0" ⟨depth, []⟩).1.toOption.join.map Markup.height = some h) :
    Makes c frames depth n h := by
  intro before
  obtain ⟨x, added, same⟩ := Framed.convert c frames n "0" depth
  rw [same []] at run
  obtain ⟨m, made, height⟩ := Option.map_eq_some_iff.1 run
  obtain rfl : x = .ok (some m) := eq_ok_of_join made
  exact ⟨m, _, same before, height⟩

theorem failsAt_of_run {e : Failure} (run : (convert c frames n "0" ⟨depth, []⟩).1 = .error e) :
    FailsAt depth e (convert c frames n "0") := by
  intro before
  obtain ⟨x, added, same⟩ := Framed.convert c frames n "0" depth
  rw [same []] at run
  cases run
  exact ⟨_, same before⟩

theorem Makes.isOk (made : Makes c 0 0 n h) :
    (Converter.convert { context := c } n none).1.1.isOk = true := by
  obtain ⟨m, q, run, -⟩ := made []
  have converted : (Converter.convert { context := c } n none).1.1 = .ok (some m) :=
    congrArg Prod.fst run
  rw [converted]
  rfl

theorem isOk_of_ensures_false (never : Ensures (convert c 0 n "0") fun _ => False) :
    (Converter.convert { context := c } n none).1.1.isOk = false := by
  cases run : (Converter.convert { context := c } n none).1.1 with
  | error e => rfl
  | ok m? =>
    obtain ⟨q, run⟩ := start_fst_eq.1 run
    exact (never _ _ _ run).elim

theorem Makes.quote (plain : c.overrides = []) (text : n.isText = false)
    (room : ∀ limit ∈ c.stackLimit, frames + 2 ≤ limit)
    (shallow : depth + 1 ≤ c.settings.maxDepth)
    (inner : Makes c (frames + 2) (depth + 1) n h) :
    Makes c frames depth (.branch "blockquote" [n]) (h + 1) := by
  intro before
  obtain ⟨m, q, run, height⟩ := inner before
  have called (calls : Nat) (fits : calls ≤ frames + 2) : call c calls = pure () :=
    call_of_room fun limit has => Nat.le_trans fits (room limit has)
  let quote (m? : Option Markup) : Markup :=
    .element (.name "blockquote") [("key", .string "0")] m?.toList
  have inside : (convert c (frames + 2) n "0" >>= fun m? => pure (some (quote m?)))
      ⟨depth + 1, before⟩ = (.ok (some (quote m)), q) := bind_of_ok run
  rw [convert_quote plain text, called frames (by omega), called (frames + 1) (by omega),
    called (frames + 2) (by omega), pure_bind, pure_bind, pure_bind]
  refine ⟨quote m, _, within_of_not_lt (p := ⟨depth, before⟩) (Nat.not_lt.2 shallow) inside, ?_⟩
  simp [quote, Markup.height, Markup.heightOfAll, height, Nat.add_comm]

/-- By induction on the number of quotes, from the outermost one inwards. -/
theorem makes_quoted (plain : c.overrides = []) (text : n.isText = false) {k : Nat}
    (room : ∀ limit ∈ c.stackLimit, frames + 2 * k ≤ limit)
    (shallow : depth + k ≤ c.settings.maxDepth)
    (inner : Makes c (frames + 2 * k) (depth + k) n h) :
    Makes c frames depth (.quoted k n) (h + k) := by
  induction k generalizing frames depth with
  | zero => exact inner
  | succ k ih =>
    have calls : frames + 2 * (k + 1) = frames + 2 + 2 * k := by omega
    have levels : depth + (k + 1) = depth + 1 + k := by omega
    rw [calls] at room inner
    rw [levels] at shallow inner
    refine (ih room shallow inner).quote plain (Node.isText_quoted text k) ?_ (by omega)
    intro limit has
    have := room limit has
    omega

theorem ensures_false_quoted (plain : c.overrides = []) (text : n.isText = false) {k : Nat}
    (inner : Ensures (convert c (frames + 2 * k) n "0") fun _ => False) :
    Ensures (convert c frames (.quoted k n) "0") fun _ => False := by
  induction k generalizing frames with
  | zero => exact inner
  | succ k ih =>
    have calls : frames + 2 * (k + 1) = frames + 2 + 2 * k := by omega
    rw [calls] at inner
    rw [Node.quoted, convert_quote plain (Node.isText_quoted text k)]
    refine .seq fun _ => .within _ (.seq fun _ => .seq fun _ => ?_)
    exact (ih inner).bind fun _ impossible => impossible.elim

/-- The quotes pass a failure on, unless it is for want of stack. -/
theorem failsAt_quoted (plain : c.overrides = []) (text : n.isText = false) {k : Nat}
    {e : Failure} (other : e ≠ .stackExhausted)
    (room : ∀ limit ∈ c.stackLimit, frames + 2 * k ≤ limit)
    (shallow : depth + k ≤ c.settings.maxDepth)
    (inner : FailsAt (depth + k) e (convert c (frames + 2 * k) n "0")) :
    FailsAt depth e (convert c frames (.quoted k n) "0") := by
  induction k generalizing frames depth with
  | zero => exact inner
  | succ k ih =>
    have calls : frames + 2 * (k + 1) = frames + 2 + 2 * k := by omega
    have levels : depth + (k + 1) = depth + 1 + k := by omega
    rw [calls] at room inner
    rw [levels] at shallow inner
    have called (active : Nat) (fits : active ≤ frames + 2) : call c active = pure () := by
      apply call_of_room
      intro limit has
      have := room limit has
      omega
    have passed : reported c.settings.maxDepth depth (.error e : Except Failure (Option Markup)) =
        .error e := by
      unfold reported
      split
      · next same => exact (other (Except.error.inj same)).elim
      · rfl
    rw [Node.quoted, convert_quote plain (Node.isText_quoted text k), called frames (by omega),
      called (frames + 1) (by omega), called (frames + 2) (by omega), pure_bind, pure_bind,
      pure_bind]
    exact .within (by omega) passed ((ih room shallow inner).bind _)

end Conversion

end MarkdownTree
