import MarkdownTree.Text.CharSet
import MarkdownTree.Text.DecimalDigit
import MarkdownTree.Text.Quoted
import MarkdownTree.Text.Whitespace

/-!
# Integers in text

An integer is written with a sign and digits, between blanks. The digits of a script other than
Latin count as well, and single low lines can stand between them. In a base that is a power of two a
mark of the base can stand in front of the digits; in base ten texts with very many digits are not
read.
-/

namespace MarkdownTree.Text

/-- The value of a digit in a base up to sixteen. -/
def digitValue? (base : Nat) (c : Char) : Option Nat :=
  ((decimalValue? c).or (hexValue? c)).filter (· < base)

/-- The number that digits and single low lines between them stand for. -/
def digitsNumber? (base : Nat) (cs : List Char) : Option Nat :=
  let step (state : Option (Nat × Bool)) (c : Char) : Option (Nat × Bool) :=
    match state with
    | none => none
    | some (n, afterDigit) =>
      match digitValue? base c with
      | some d => some (base * n + d, true)
      | none => if c = '_' ∧ afterDigit then some (n, false) else none
  match cs.foldl step (some (0, false)) with
  | some (n, true) => some n
  | _ => none

/-- A sign, and what follows it. -/
def splitSign (cs : List Char) : Bool × List Char :=
  match cs with
  | '-' :: rest => (true, rest)
  | '+' :: rest => (false, rest)
  | _ => (false, cs)

/-- What follows the mark of a base, with the low line that can stand behind the mark. -/
def dropMark (base : Nat) (cs : List Char) : List Char :=
  match cs with
  | '0' :: mark :: rest =>
    if [(2, 'b'), (8, 'o'), (16, 'x')].contains (base, mark.toLower) then
      if rest.head? = some '_' then rest.drop 1 else rest
    else cs
  | _ => cs

/-- Why a text is no integer. -/
inductive IntegerFault where
  | notNumber (base : Nat) (text : String)
  | tooManyDigits (count : Nat)
  deriving DecidableEq

/-- The greatest number of digits that are read. -/
def maxDigits : Nat := 4300

/-- The text of a fault. No more than two hundred characters of the quoted text are shown. -/
def IntegerFault.message : IntegerFault → String
  | .notNumber base text =>
    s!"invalid literal for int() with base {base}: " ++
      String.ofList ((quoted text).toList.take 200)
  | .tooManyDigits count =>
    s!"Exceeds the limit ({maxDigits} digits) for integer string conversion: value has {count} " ++
      "digits; use sys.set_int_max_str_digits() to increase the limit"

/-- The integer of a base that a text stands for. -/
def readInteger (base : Nat) (s : String) : Except IntegerFault Int :=
  let (negative, cs) := splitSign (trimBy isBlank s.toList)
  let count := ((cs.takeWhile fun c => c = '_' || (decimalValue? c).isSome).filter (· ≠ '_')).length
  if base = 10 ∧ maxDigits < count then .error (.tooManyDigits count)
  else match digitsNumber? base (dropMark base cs) with
    | some n => .ok (if negative then -(n : Int) else n)
    | none => .error (.notNumber base s)

/-- The integer that a text stands for. -/
def integer? (s : String) : Option Int := (readInteger 10 s).toOption

end MarkdownTree.Text
