import MarkdownTree.Binary64.Shortest
import MarkdownTree.Date
import MarkdownTree.Entries

/-!
# Values

Plain data as it stands in props, in front matter and in settings files: null, truth values,
integers of any size, floating-point numbers, texts, dates, lists and objects. The members of an
object keep their order.
-/

namespace MarkdownTree

/-- A plain value. -/
inductive Value where
  | null
  | bool (b : Bool)
  | int (n : Int)
  | float (x : Binary64)
  | string (s : String)
  | date (d : Date)
  | timestamp (t : Timestamp)
  | list (items : List Value)
  | object (members : List (String × Value))
  deriving Inhabited

/-- Named values in order: the members of an object, the props of an element. -/
abbrev Fields := Entries String Value

namespace Value

/-- Null, false, zero and everything empty count as false. -/
def isTruthy : Value → Bool
  | .null => false
  | .bool b => b
  | .int n => n != 0
  | .float x => !x.isZero
  | .string s => s != ""
  | .date _ => true
  | .timestamp _ => true
  | .list items => !items.isEmpty
  | .object members => !members.isEmpty

/-- Null and nothing else. -/
def isNull : Value → Bool
  | .null => true
  | _ => false

/-- The members of an object; every other value has none. -/
def members : Value → Fields
  | .object ms => ms
  | _ => []

/-- The value of a member, `null` if there is none. -/
def member (v : Value) (name : String) : Value := (Entries.get? v.members name).getD .null

mutual

/-- How deep lists and objects nest: none in other values, one in a list or object without others in
it. -/
def nesting : Value → Nat
  | .list vs => 1 + nestingOfAll vs
  | .object ms => 1 + nestingOfMembers ms
  | _ => 0

/-- The greatest nesting of several values. -/
def nestingOfAll : List Value → Nat
  | [] => 0
  | v :: vs => max (nesting v) (nestingOfAll vs)

/-- The greatest nesting of the values of members. -/
def nestingOfMembers : List (String × Value) → Nat
  | [] => 0
  | (_, v) :: ms => max (nesting v) (nestingOfMembers ms)

end

/-- A text, or null for none. -/
def ofString? (s : Option String) : Value := (s.map Value.string).getD .null

@[simp] theorem ofString?_none : ofString? none = .null := rfl

@[simp] theorem ofString?_some (s : String) : ofString? (some s) = .string s := rfl

/-- An integer, or null for none. -/
def ofInt? (n : Option Int) : Value := (n.map Value.int).getD .null

@[simp] theorem ofInt?_none : ofInt? none = .null := rfl

@[simp] theorem ofInt?_some (n : Int) : ofInt? (some n) = .int n := rfl

end Value

end MarkdownTree
