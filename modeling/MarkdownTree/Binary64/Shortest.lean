import MarkdownTree.Binary64.Basic

/-!
# The fewest digits that read back

A number is written with the fewest decimal digits that `Binary64.ofDecimal` reads back as the
same number, and of those with the digits nearest to its value. Where the point stands and how
an exponent is spelt is the business of a `Layout`.
-/

namespace MarkdownTree.Binary64

/-- Decimal digits with the exponent of the first one: `d.ddd * 10 ^ exponent`. -/
structure Digits where
  digits : Nat
  exponent : Int
  deriving DecidableEq

/-- The largest `e` with `10 ^ e ≤ num / den`, for a positive quotient. -/
def log10 (num den : Nat) : Int :=
  let atLeast (e : Int) : Bool :=
    if 0 ≤ e then den * Nat.pow 10 e.toNat ≤ num else den ≤ num * Nat.pow 10 (-e).toNat
  let guess : Int := (((num.log2 : Int) - den.log2) * 30103).fdiv 100000
  if atLeast (guess + 1) then guess + 1
  else if atLeast guess then guess
  else if atLeast (guess - 1) then guess - 1
  else guess - 2

/-- Of the two neighbours of `num / den` with `n` digits, the nearest that reads back as `x`. -/
def neighbour? (x : Binary64) (negative : Bool) (num den : Nat) (e : Int) (n : Nat) : Option Nat :=
  let place : Int := e - n + 1
  let (num, den) :=
    if 0 ≤ place then (num, den * Nat.pow 10 place.toNat) else (num * Nat.pow 10 (-place).toNat, den)
  let low := num / den
  let reads (d : Nat) : Bool := ofDecimal negative d place = x
  let nearest := roundQuotient num den
  let other := if nearest = low then low + 1 else low
  if reads nearest then some nearest else if reads other then some other else none

/-- The digits without trailing zeros. -/
def stripZeros : Nat → Nat → Nat
  | 0, d => d
  | fuel + 1, d => if d ≠ 0 ∧ d % 10 = 0 then stripZeros fuel (d / 10) else d

/-- The fewest digits, from `n` on, that read back as `x`. -/
def fewest (x : Binary64) (negative : Bool) (num den : Nat) (e : Int) : Nat → Nat → Digits
  | 0, n => ⟨roundQuotient num den, e - n + 1⟩
  | fuel + 1, n =>
    match neighbour? x negative num den e n with
    | some d =>
      -- a neighbour that rounds up to the next power of ten has one digit more
      ⟨stripZeros n d, if digitCount d = n then e else e + 1⟩
    | none => fewest x negative num den e fuel (n + 1)

/-- The shortest digits of a positive finite number `m * 2 ^ q`. -/
def shortest (x : Binary64) (negative : Bool) (m : Nat) (q : Int) : Digits :=
  let (num, den) := if 0 ≤ q then (m * Nat.pow 2 q.toNat, 1) else (m, Nat.pow 2 (-q).toNat)
  fewest x negative num den (log10 num den) 17 1

/-- How a number is laid out. -/
structure Layout where
  /-- The least exponent of the first digit that is written without an exponent. -/
  positionalFrom : Int
  /-- The first exponent above that which is written with an exponent. -/
  positionalBelow : Int
  /-- The least number of digits of an exponent. -/
  exponentDigits : Nat
  /-- Whether a positive exponent has a sign. -/
  plusSign : Bool
  infinityText : String
  notANumberText : String

/-- Lays out digits: a point, at least one digit on each side of it, or an exponent. -/
def Layout.place (l : Layout) (d : Digits) : String :=
  let ds := Nat.toDigits 10 d.digits
  let text (cs : List Char) : String := String.ofList cs
  let zeros (n : Nat) : List Char := List.replicate n '0'
  if l.positionalFrom ≤ d.exponent ∧ d.exponent < l.positionalBelow then
    if d.exponent < 0 then
      text ('0' :: '.' :: zeros (-d.exponent - 1).toNat ++ ds)
    else
      let whole := d.exponent.toNat + 1
      let ds := ds ++ zeros (whole - ds.length)
      let fraction := ds.drop whole
      text (ds.take whole ++ '.' :: if fraction.isEmpty then ['0'] else fraction)
  else
    let mantissa := match ds with
      | c :: rest => if rest.isEmpty then [c] else c :: '.' :: rest
      | [] => []
    let exponent := Nat.toDigits 10 d.exponent.natAbs
    let sign := if d.exponent < 0 then ['-'] else if l.plusSign then ['+'] else []
    text (mantissa ++ 'e' :: sign ++ zeros (l.exponentDigits - exponent.length) ++ exponent)

/-- The text of a number in a layout. -/
def Layout.write (l : Layout) (x : Binary64) : String :=
  match x.view with
  | .notANumber => l.notANumberText
  | .infinite negative => (if negative then "-" else "") ++ l.infinityText
  | .finite negative m q =>
    (if negative then "-" else "") ++
      if m = 0 then "0.0" else l.place (shortest x negative m q)

end MarkdownTree.Binary64
