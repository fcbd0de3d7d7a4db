import MarkdownTree.Syntax.Token

/-!
# Syntax trees

Tokens are nested: a token that opens begins a node that runs up to the token where as many tokens
have closed as have opened. Whether their kinds agree does not matter. A leaf is a node of its own,
and the tokens in it are nested in the same way.
-/

namespace MarkdownTree.Syntax

/-- A node of a syntax tree. -/
structure Tree where
  kind : String
  tag : String := ""
  attrs : Fields := []
  /-- The first line of the node and the line after it. -/
  lines : Option (Int × Int) := none
  content : Option String := some ""
  info : String := ""
  details : Fields := []
  children : List Tree := []
  deriving Inhabited

namespace Tree

theorem sizeOf_lt_of_mem {t c : Tree} (h : c ∈ t.children) : sizeOf c < sizeOf t := by
  have := List.sizeOf_lt_of_mem h
  cases t
  simp_all only [Tree.mk.sizeOf_spec]
  omega

theorem sizeOf_children_lt (t : Tree) : sizeOf t.children < sizeOf t := by
  cases t
  simp only [Tree.mk.sizeOf_spec]
  omega

/-- The kind of a node that a token opens: without the ending that says so. -/
def kindOfOpening (kind : String) : String :=
  if kind.endsWith "_open" then String.ofList (kind.toList.take (kind.toList.length - 5)) else kind

/-- The tokens up to the one that closes all `depth` open ones, and the tokens after it. -/
def splitClosing : Int → List Token → Option (List Token × List Token)
  | _, [] => none
  | depth, t :: ts =>
    if depth + t.nesting = 0 then some ([], ts)
    else (splitClosing (depth + t.nesting) ts).map fun (inner, rest) => (t :: inner, rest)

theorem sizes_splitClosing {depth : Int} {ts inner rest : List Token}
    (h : splitClosing depth ts = some (inner, rest)) :
    Token.sizes inner + Token.sizes rest < Token.sizes ts + 1 := by
  induction ts generalizing depth inner rest with
  | nil => simp [splitClosing] at h
  | cons t ts ih =>
    simp only [splitClosing] at h
    split at h
    · simp only [Option.some.injEq, Prod.mk.injEq] at h
      obtain ⟨rfl, rfl⟩ := h
      simp only [Token.sizes_nil, Token.sizes_cons]
      omega
    · obtain ⟨⟨inner', rest'⟩, h', heq⟩ := Option.map_eq_some_iff.1 h
      simp only [Prod.mk.injEq] at heq
      obtain ⟨rfl, rfl⟩ := heq
      have := ih h'
      simp only [Token.sizes_cons]
      omega

/-- The nodes that tokens make, or none if a token closes what is not open or something stays
open. -/
def nest? (ts : List Token) : Option (List Tree) :=
  match ts with
  | [] => some []
  | t :: ts =>
    if t.nesting = 0 then
      match nest? t.children, nest? ts with
      | some children, some rest =>
        some ({ kind := t.kind, tag := t.tag, attrs := t.attrs, lines := t.lines,
                content := t.content, info := t.info, details := t.details, children } :: rest)
      | _, _ => none
    else if t.nesting = 1 then
      match _h : splitClosing 1 ts with
      | none => none
      | some (inner, rest) =>
        match nest? inner, nest? rest with
        | some children, some rest =>
          some ({ kind := kindOfOpening t.kind, tag := t.tag, attrs := t.attrs, lines := t.lines,
                  content := t.content, info := t.info, details := t.details, children } :: rest)
        | _, _ => none
    else none
termination_by Token.sizes ts
decreasing_by
  · have := Token.sizes_children_lt t
    simp only [Token.sizes_cons]
    omega
  · have := Token.size_pos t
    simp only [Token.sizes_cons]
    omega
  · have := sizes_splitClosing _h
    have := Token.size_pos t
    simp only [Token.sizes_cons]
    omega
  · have := sizes_splitClosing _h
    have := Token.size_pos t
    simp only [Token.sizes_cons]
    omega

/-- The number of nodes from a node down to its deepest descendant. -/
def height (t : Tree) : Nat := 1 + greatest (t.children.attach.map fun c => height c.1)
termination_by sizeOf t
decreasing_by exact sizeOf_lt_of_mem c.2

/-- How deep the nodes of tokens nest. -/
def heightOfTokens (ts : List Token) : Nat := greatest (((nest? ts).getD []).map height)

end Tree

end MarkdownTree.Syntax
