import MarkdownTree.Total
import MarkdownTree.Value.Basic

/-!
# Tokens of Markdown

A document is read as a list of tokens. A token opens a construct, closes one, or is a leaf; a leaf
can hold further tokens, those of the text of a paragraph for example.
-/

namespace MarkdownTree.Syntax

/-- A token. -/
structure Token where
  kind : String
  /-- The element that the token belongs to. -/
  tag : String := ""
  /-- One for a token that opens, minus one for a token that closes, zero for a leaf. -/
  nesting : Int := 0
  attrs : Fields := []
  /-- The first line of the construct and the line after it. -/
  lines : Option (Int × Int) := none
  children : List Token := []
  content : Option String := some ""
  /-- What stands behind the fence of a block of code. -/
  info : String := ""
  details : Fields := []
  deriving Inhabited

namespace Token

/-- The number of tokens in a token, itself included. -/
def size (t : Token) : Nat := 1 + total (t.children.attach.map fun c => size c.1)
termination_by sizeOf t
decreasing_by
  obtain ⟨c, hc⟩ := c
  have := List.sizeOf_lt_of_mem hc
  cases t
  simp_all only [Token.mk.sizeOf_spec]
  omega

theorem size_eq (t : Token) : t.size = 1 + total (t.children.map size) := by
  rw [size, List.attach_map_val]

/-- The number of tokens in a list of tokens. -/
def sizes (ts : List Token) : Nat := total (ts.map size)

@[simp] theorem sizes_nil : sizes [] = 0 := rfl

@[simp] theorem sizes_cons (t : Token) (ts : List Token) : sizes (t :: ts) = t.size + sizes ts := by
  simp [sizes]

theorem size_pos (t : Token) : 0 < t.size := by
  rw [size_eq]
  omega

theorem sizes_children_lt (t : Token) : sizes t.children < t.size := by
  rw [size_eq t]
  change total (t.children.map size) < _
  omega

end Token

end MarkdownTree.Syntax
