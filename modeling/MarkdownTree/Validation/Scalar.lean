import MarkdownTree.Text.Whitespace
import MarkdownTree.Validation.Basic
import MarkdownTree.Value.Basic

/-!
# Checking single values

A text has to be a text. An integer may also be a truth value, a number without a fraction or a
text that spells an integer; a truth value may also be zero, one or one of the usual words.
-/

namespace MarkdownTree.Check

/-- A text. -/
def text : Value → Check String
  | .string s => .accept s
  | _ => .fail .notText

/-- An optional value: null stands for none. -/
def nullable (check : Value → Check α) : Value → Check (Option α)
  | .null => .accept none
  | v => (check v).map some

/-- Decimal digits with single low lines between them. -/
def spelledDigits? (cs : List Char) : Option Nat :=
  let step (state : Option (Nat × Bool)) (c : Char) : Option (Nat × Bool) :=
    match state with
    | none => none
    | some (n, afterDigit) =>
      if '0' ≤ c ∧ c ≤ '9' then some (10 * n + (c.toNat - '0'.toNat), true)
      else if c = '_' ∧ afterDigit then some (n, false)
      else none
  match cs.foldl step (some (0, false)) with
  | some (n, true) => some n
  | _ => none

/-- The integer that a text spells: a sign, digits and a fraction of zeros, between white space. -/
def spelledInteger? (s : String) : Option Int :=
  let cs := Text.trimBy Text.isWhitespace s.toList
  let (negative, cs) := match cs with
    | '-' :: rest => (true, rest)
    | '+' :: rest => (false, rest)
    | _ => (false, cs)
  let whole := cs.takeWhile (· ≠ '.')
  if ((cs.dropWhile (· ≠ '.')).drop 1).all (· = '0') then
    (spelledDigits? whole).map fun n => if negative then -(n : Int) else n
  else none

/-- The longest text that is read as an integer. -/
def maxIntegerText : Nat := 4300

/-- An integer. -/
def integer : Value → Check Int
  | .int n => .accept n
  | .bool b => .accept (if b then 1 else 0)
  | .float x =>
    match x.truncate? with
    | none => .fail .notFinite
    | some n =>
      if !x.isIntegral then .fail .fractionalInteger
      else if n.natAbs < Nat.pow 2 63 then .accept n
      else .fail .oversizedInteger
  | .string s =>
    if maxIntegerText < (Text.trimBy Text.isWhitespace s.toList).length then .fail .oversizedInteger
    else match spelledInteger? s with
      | some n => .accept n
      | none => .fail .unreadableInteger
  | _ => .fail .notInteger

/-- The truth value that a word stands for, in small or capital letters. -/
def spelledBoolean? (s : String) : Option Bool :=
  let word := String.ofList (s.toList.map Char.toLower)
  if ["0", "off", "f", "false", "n", "no"].contains word then some false
  else if ["1", "on", "t", "true", "y", "yes"].contains word then some true
  else none

/-- A truth value. -/
def boolean : Value → Check Bool
  | .bool b => .accept b
  | .int n => if n = 0 then .accept false else if n = 1 then .accept true else .fail .unreadableBoolean
  | .float x =>
    if x.isZero then .accept false
    else if x.isIntegral && x.truncate? == some 1 then .accept true
    else .fail .notBoolean
  | .string s =>
    match spelledBoolean? s with
    | some b => .accept b
    | none => .fail .unreadableBoolean
  | _ => .fail .notBoolean

/-- A mapping. -/
def mapping : Value → Check Fields
  | .object ms => .accept ms
  | _ => .fail .notMapping

/-- The items of a list from position `i` on, each checked by `check`. -/
def itemsFrom (check : Value → Check α) : Nat → List Value → Check (List α)
  | _, [] => .accept []
  | i, v :: vs =>
    seq (((check v).within (toString i)).map List.cons) fun _ => itemsFrom check (i + 1) vs

/-- A list whose items are checked by `check`. -/
def listOf (check : Value → Check α) : Value → Check (List α)
  | .list vs => itemsFrom check 0 vs
  | _ => .fail .notList

/-- A field that may be absent; null counts as absent. -/
def optional (fields : Fields) (name : String) (check : Value → Check α) : Check (Option α) :=
  match Entries.get? fields name with
  | none => .accept none
  | some v => (nullable check v).within name

/-- A field that has to be there. -/
def required (fields : Fields) (name : String) (check : Value → Check α) : Check α :=
  match Entries.get? fields name with
  | none => (Check.fail .missing).within name
  | some v => (check v).within name

/-- A field with a value for the case that it is absent; null does not count as absent. -/
def defaulting (fields : Fields) (name : String) (default : α) (check : Value → Check α) :
    Check α :=
  match Entries.get? fields name with
  | none => .accept default
  | some v => (check v).within name

end MarkdownTree.Check
