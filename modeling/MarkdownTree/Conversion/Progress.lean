import MarkdownTree.Override
import MarkdownTree.Settings
import MarkdownTree.Stack
import MarkdownTree.Text.Quoted

/-!
# The progress of a conversion

A conversion keeps count of the nodes it is inside of, and records the references that it could
not resolve. It can fail at any point; what was recorded until then is kept.
-/

namespace MarkdownTree

/-- A reference that was rendered without a target. -/
structure Warning where
  kind : String
  identifier : Option String
  deriving DecidableEq

/-- Why a conversion fails. -/
inductive Failure where
  /-- The nodes nest deeper than `limit`. -/
  | tooDeep (limit : Nat)
  /-- A reference of kind `kind` has no definition. -/
  | unresolved (kind : String) (identifier : Option String)
  /-- More calls are active than there is room for. -/
  | stackExhausted
  /-- The computation of props fails. -/
  | props (message : String)
  deriving DecidableEq

/-- An identifier in a message: quoted, or a word for none. -/
def identifierText (identifier : Option String) : String :=
  (identifier.map Text.quoted).getD "None"

/-- The text of a warning. -/
def Warning.message (w : Warning) : String :=
  s!"Unresolved {w.kind} identifier {identifierText w.identifier}; rendering without target"

/-- The text of a failure. -/
def Failure.message : Failure → String
  | .tooDeep limit => s!"Document nesting exceeds max_depth={limit}"
  | .unresolved kind identifier =>
    s!"Unresolved reference in {kind}: {identifierText identifier} has no definition"
  | .stackExhausted => "maximum recursion depth exceeded"
  | .props message => message

/-- How far a conversion is. -/
structure Progress where
  /-- The number of nodes that the conversion is inside of. -/
  depth : Nat := 0
  /-- The references that were not resolved, in order. -/
  warnings : List Warning := []
  deriving DecidableEq

/-- A step of a conversion. -/
abbrev Conversion := ExceptT Failure (StateM Progress)

/-- What a conversion depends on. -/
structure Context where
  definitions : Entries (Option String) Definition := []
  overrides : Overrides := []
  settings : Settings := {}
  /-- The number of calls that can be active below the outermost one, or none for any number. -/
  stackLimit : Option Nat := usualStackLimit

namespace Conversion

/-- Runs a conversion from its start. -/
def start (m : Conversion α) : Except Failure α × List Warning :=
  match StateT.run (ExceptT.run m) {} with
  | (r, p) => (r, p.warnings)

/-- Records a warning. -/
def warn (w : Warning) : Conversion Unit := fun p =>
  (.ok (), { p with warnings := p.warnings ++ [w] })

/-- Makes a call while `frames` others are active. -/
def call (c : Context) (frames : Nat) : Conversion Unit :=
  match c.stackLimit with
  | none => pure ()
  | some limit => if limit < frames then throw .stackExhausted else pure ()

/-- How a node is left: only the outermost one turns an exhausted stack into the failure that is
reported for it. -/
def reported (limit depth : Nat) (r : Except Failure α) : Except Failure α :=
  match r with
  | .error .stackExhausted => if depth = 0 then .error (.tooDeep limit) else r
  | r => r

/-- Enters a node and leaves it again, however its conversion ends. -/
def within (limit : Nat) (body : Conversion α) : Conversion α := fun p =>
  let inner := { p with depth := p.depth + 1 }
  let (r, q) := if limit < inner.depth then (.error (.tooDeep limit), inner) else body inner
  (reported limit p.depth r, { q with depth := q.depth - 1 })

/-- The results of `f` on the members of a list, from position `i` on, without those that are
absent. -/
def collectEach (f : Nat → α → Conversion (Option β)) : Nat → List α → Conversion (List β)
  | _, [] => pure []
  | i, a :: as => do
    let b? ← f i a
    let bs ← collectEach f (i + 1) as
    return b?.toList ++ bs

theorem collectEach_attach (f : Nat → α → Conversion (Option β)) (i : Nat) (l : List α) :
    collectEach (fun j (a : { a // a ∈ l }) => f j a.1) i l.attach = collectEach f i l := by
  have general : ∀ (m : List { a // a ∈ l }) (i : Nat),
      collectEach (fun j (a : { a // a ∈ l }) => f j a.1) i m =
        collectEach f i (m.map Subtype.val) := by
    intro m
    induction m with
    | nil => intro i; rfl
    | cons a m ih => intro i; simp only [collectEach, List.map_cons, ih]
  rw [general, List.attach_map_subtype_val]

end Conversion

end MarkdownTree
