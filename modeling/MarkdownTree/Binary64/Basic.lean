/-!
# Binary floating-point numbers of 64 bits

A number is kept as its bit pattern, so that equality is decidable and nothing depends on the
arithmetic of the machine. `Binary64.view` reads the pattern as a sign, a mantissa and a power
of two; `Binary64.ofDecimal` rounds an exact decimal to the nearest number, a half going to the
even mantissa.
-/

namespace MarkdownTree

/-- The bit pattern of a 64-bit binary floating-point number. -/
structure Binary64 where
  bits : UInt64
  deriving DecidableEq, Inhabited

namespace Binary64

/-- What a bit pattern stands for. -/
inductive View where
  /-- `mantissa * 2 ^ exponent`, negated if `negative`. -/
  | finite (negative : Bool) (mantissa : Nat) (exponent : Int)
  | infinite (negative : Bool)
  | notANumber
  deriving DecidableEq

/-- The number that a pattern stands for: one sign bit, eleven exponent bits, 52 mantissa bits. -/
def view (x : Binary64) : View :=
  let n := x.bits.toNat
  let negative := n / Nat.pow 2 63 = 1
  let exponent : Nat := n / Nat.pow 2 52 % Nat.pow 2 11
  let mantissa : Nat := n % Nat.pow 2 52
  if exponent = 2047 then
    if mantissa = 0 then .infinite negative else .notANumber
  else if exponent = 0 then .finite negative mantissa (-1074)
  else .finite negative (Nat.pow 2 52 + mantissa) ((exponent : Int) - 1075)

/-- The pattern with the given sign and the given lower 63 bits. -/
def ofParts (negative : Bool) (lower : Nat) : Binary64 :=
  ⟨UInt64.ofNat ((if negative then Nat.pow 2 63 else 0) + lower)⟩

def infinity (negative : Bool) : Binary64 := ofParts negative (2047 * Nat.pow 2 52)

def notANumber : Binary64 := ofParts false (2047 * Nat.pow 2 52 + Nat.pow 2 51)

/-- The quotient of two naturals rounded to the nearest natural, a half to the even one. -/
def roundQuotient (num den : Nat) : Nat :=
  let q := num / den
  let twice := 2 * (num % den)
  if twice < den then q
  else if twice = den then q + q % 2
  else q + 1

/-- `num / den` rounded to the nearest number of the format; `den` is positive. -/
def ofRatio (negative : Bool) (num den : Nat) : Binary64 :=
  if num = 0 then ofParts negative 0
  else
    let scaled (q : Int) : Nat × Nat :=
      if 0 ≤ q then (num, den * Nat.pow 2 q.toNat) else (num * Nat.pow 2 (-q).toNat, den)
    let guess : Int := (num.log2 : Int) - den.log2
    let top : Int := if (scaled guess).1 < (scaled guess).2 then guess - 1 else guess
    let q : Int := max (top - 52) (-1074)
    let m := roundQuotient (scaled q).1 (scaled q).2
    let (m, q) := if m < Nat.pow 2 53 then (m, q) else (m / 2, q + 1)
    if m < Nat.pow 2 52 then ofParts negative m
    else
      let biased := (q + 1075).toNat
      if 2047 ≤ biased then infinity negative
      else ofParts negative (biased * Nat.pow 2 52 + (m - Nat.pow 2 52))

/-- The number of decimal digits of `n`, one for zero. -/
def digitCount (n : Nat) : Nat := (Nat.toDigits 10 n).length

/-- `digits * 10 ^ exponent` rounded to the nearest number of the format. Exponents beyond the
range of the format are answered without forming the power. -/
def ofDecimal (negative : Bool) (digits : Nat) (exponent : Int) : Binary64 :=
  if digits = 0 then ofParts negative 0
  else if 310 < exponent + digitCount digits then infinity negative
  else if exponent + digitCount digits < -330 then ofParts negative 0
  else if 0 ≤ exponent then ofRatio negative (digits * Nat.pow 10 exponent.toNat) 1
  else ofRatio negative digits (Nat.pow 10 (-exponent).toNat)

/-- The integer nearest to zero of those between zero and the number, for a finite number. -/
def truncate? (x : Binary64) : Option Int :=
  match x.view with
  | .finite negative m q =>
    let n : Nat := if 0 ≤ q then m * Nat.pow 2 q.toNat else m / Nat.pow 2 (-q).toNat
    some (if negative then -(n : Int) else n)
  | _ => none

/-- A finite number without a fraction. -/
def isIntegral (x : Binary64) : Bool :=
  match x.view with
  | .finite _ m q => 0 ≤ q || m % Nat.pow 2 (-q).toNat == 0
  | _ => false

/-- The least integer that is not less than the number, for a finite number. -/
def ceil? (x : Binary64) : Option Int :=
  match x.view with
  | .finite negative _ _ =>
    if negative ∨ x.isIntegral then x.truncate? else x.truncate?.map (· + 1)
  | _ => none

/-- Zero of either sign. -/
def isZero (x : Binary64) : Bool :=
  match x.view with
  | .finite _ m _ => m == 0
  | _ => false

/-- The number of the other sign. -/
def negate (x : Binary64) : Binary64 := ⟨x.bits ^^^ 0x8000000000000000⟩

/-- The number one more than `x`, rounded. -/
def succ (x : Binary64) : Binary64 := ⟨(Float.ofBits x.bits + 1.0).toBits⟩

/-- The number whose digits in base sixty are `xs`, the last one being added up first. There is
none if a digit stands at a power of sixty beyond the range of the format. -/
def inBaseSixty? (xs : List Binary64) : Option Binary64 :=
  let step (acc : Option (Float × Nat)) (x : Binary64) : Option (Float × Nat) :=
    acc.bind fun (sum, power) =>
      let place := ofRatio false power 1
      if place = infinity false then none
      else some (sum + Float.ofBits x.bits * Float.ofBits place.bits, 60 * power)
  (xs.reverse.foldl step (some (0.0, 1))).map fun (sum, _) => ⟨sum.toBits⟩

end Binary64

end MarkdownTree
