/-!
# Checking values

A check either yields a result or refuses with a list of reasons, each with the place where it
was found. Checks of several fields are combined so that all their reasons are reported, in the
order of the fields.
-/

namespace MarkdownTree

/-- Why a value is refused. -/
inductive Fault where
  | missing
  | notText
  | notInteger
  | unreadableInteger
  | fractionalInteger
  | oversizedInteger
  | notFinite
  | notBoolean
  | unreadableBoolean
  | notList
  | notMapping
  | notRecord
  | notFunction
  | tooSmall
  | wrongPattern
  deriving DecidableEq

/-- The name under which a reason is reported. -/
def Fault.name : Fault → String
  | .missing => "missing"
  | .notText => "string_type"
  | .notInteger => "int_type"
  | .unreadableInteger => "int_parsing"
  | .fractionalInteger => "int_from_float"
  | .oversizedInteger => "int_parsing_size"
  | .notFinite => "finite_number"
  | .notBoolean => "bool_type"
  | .unreadableBoolean => "bool_parsing"
  | .notList => "list_type"
  | .notMapping => "dict_type"
  | .notRecord => "model_type"
  | .notFunction => "callable_type"
  | .tooSmall => "greater_than_equal"
  | .wrongPattern => "string_pattern_mismatch"

/-- A reason with the way from the root to the place where it was found. -/
structure Refusal where
  path : List String
  fault : Fault
  deriving DecidableEq

/-- The place of a refusal, its steps joined by points. -/
def Refusal.location (r : Refusal) : String := ".".intercalate r.path

/-- The outcome of a check. -/
inductive Check (α : Type u) where
  | accept (a : α)
  | refuse (reasons : List Refusal)

namespace Check

variable {α β : Type}

/-- Refuses the value itself. -/
def fail (fault : Fault) : Check α := .refuse [⟨[], fault⟩]

def map (f : α → β) : Check α → Check β
  | .accept a => .accept (f a)
  | .refuse rs => .refuse rs

/-- Applies a checked function; the reasons of both sides are kept, those of the function first. -/
def seq (f : Check (α → β)) (x : Unit → Check α) : Check β :=
  match f, x () with
  | .accept f, .accept a => .accept (f a)
  | .accept _, .refuse rs => .refuse rs
  | .refuse rs, .accept _ => .refuse rs
  | .refuse rs, .refuse rs' => .refuse (rs ++ rs')

instance : Applicative Check where
  pure := .accept
  map := map
  seq := seq

/-- Goes on with an accepted result. -/
def bind (x : Check α) (f : α → Check β) : Check β :=
  match x with
  | .accept a => f a
  | .refuse rs => .refuse rs

/-- The check of a part: its reasons are found below `step`. -/
def within (step : String) : Check α → Check α
  | .accept a => .accept a
  | .refuse rs => .refuse (rs.map fun r => { r with path := step :: r.path })

@[simp] theorem map_accept (f : α → β) (a : α) : map f (.accept a) = .accept (f a) := rfl

@[simp] theorem bind_accept (a : α) (f : α → Check β) : bind (.accept a) f = f a := rfl

@[simp] theorem within_accept (step : String) (a : α) :
    within step (.accept a) = .accept a := rfl

@[simp] theorem seq_accept (f : α → β) (a : α) :
    seq (.accept f) (fun _ => .accept a) = .accept (f a) := rfl

/-- The reasons of a check, none if it accepts. -/
def reasons : Check α → List Refusal
  | .accept _ => []
  | .refuse rs => rs

/-- The outcome as a result or its reasons. -/
def toExcept : Check α → Except (List Refusal) α
  | .accept a => .ok a
  | .refuse rs => .error rs

end Check

end MarkdownTree
