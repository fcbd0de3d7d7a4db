import MarkdownTree.Binary64.Basic
import MarkdownTree.Date
import MarkdownTree.Text.Integer
import MarkdownTree.Yaml.Fault

/-!
# Types of scalars

A plain scalar has the type that its text spells: null, a truth value, a number, a date or time;
everything else is a text. A tag can name the type instead, and then the text has to fit it.
-/

namespace MarkdownTree.Yaml

/-- The type of a node. -/
inductive Kind where
  | null
  | bool
  | int
  | float
  | timestamp
  | text
  /-- Bytes, written in Base64. -/
  | binary
  | sequence
  | mapping
  /-- The keys of a mapping. -/
  | set
  /-- A sequence of mappings with one entry each. -/
  | pairs
  /-- The key `<<`, which merges mappings into the one it stands in. -/
  | merge
  /-- The key `=`. -/
  | default
  | other (tag : String)
  deriving DecidableEq

/-- The type that a full tag names. -/
def Kind.ofTag (tag : String) : Kind :=
  match tag with
  | "tag:yaml.org,2002:null" => .null
  | "tag:yaml.org,2002:bool" => .bool
  | "tag:yaml.org,2002:int" => .int
  | "tag:yaml.org,2002:float" => .float
  | "tag:yaml.org,2002:timestamp" => .timestamp
  | "tag:yaml.org,2002:str" => .text
  | "tag:yaml.org,2002:binary" => .binary
  | "tag:yaml.org,2002:seq" => .sequence
  | "tag:yaml.org,2002:map" => .mapping
  | "tag:yaml.org,2002:set" => .set
  | "tag:yaml.org,2002:omap" => .pairs
  | "tag:yaml.org,2002:pairs" => .pairs
  | "tag:yaml.org,2002:merge" => .merge
  | "tag:yaml.org,2002:value" => .default
  | tag => .other tag

/-- A nonempty text of characters of `p`. -/
def isRunOf (p : Char → Bool) (cs : List Char) : Bool := !cs.isEmpty && cs.all p

/-- A digit or a low line. -/
def isDigitOrLine (c : Char) : Bool := c.isDigit || c = '_'

/-- A digit and then digits and low lines. -/
def isDigits (cs : List Char) : Bool :=
  match cs with
  | c :: rest => c.isDigit && rest.all isDigitOrLine
  | [] => false

/-- The pieces of a text between colons. -/
def splitColons (cs : List Char) : List (List Char) :=
  cs.foldr (fun c pieces => match pieces with
    | [] => if c = ':' then [[], []] else [[c]]
    | p :: ps => if c = ':' then [] :: p :: ps else (c :: p) :: ps) [[]]

/-- Sixtieths: one digit, or two of which the first is at most five. -/
def isSixtieths (cs : List Char) : Bool :=
  match cs with
  | [a] => a.isDigit
  | [a, b] => '0' ≤ a && a ≤ '5' && b.isDigit
  | _ => false

/-- Pieces in base sixty: a number and then sixtieths. -/
def isBaseSixty (isFirst : List Char → Bool) (cs : List Char) : Bool :=
  match splitColons cs with
  | first :: second :: others => isFirst first && (second :: others).all isSixtieths
  | _ => false

/-- Whether a text spells an integer: in base 2, 8, 10, 16 or 60, with low lines. -/
def spellsInt (cs : List Char) : Bool :=
  let body := (Text.splitSign cs).2
  let positive (cs : List Char) : Bool := isDigits cs && cs.head? != some '0'
  match body with
  | ['0'] => true
  | '0' :: 'b' :: rest => isRunOf (fun c => c = '0' || c = '1' || c = '_') rest
  | '0' :: 'x' :: rest => isRunOf (fun c => (Text.hexValue? c).isSome || c = '_') rest
  | '0' :: rest => isRunOf (fun c => ('0' ≤ c && c ≤ '7') || c = '_') rest
  | _ => positive body || isBaseSixty positive body

/-- A fraction and possibly an exponent with a sign. -/
def isFraction (cs : List Char) : Bool :=
  match cs.dropWhile isDigitOrLine with
  | [] => true
  | e :: sign :: digits =>
    (e = 'e' || e = 'E') && (sign = '+' || sign = '-') && isRunOf Char.isDigit digits
  | _ => false

/-- Whether a text spells a floating-point number, which always has a point. -/
def spellsFloat (cs : List Char) : Bool :=
  let (_, body) := Text.splitSign cs
  let whole := body.takeWhile (· ≠ '.')
  match body.dropWhile (· ≠ '.') with
  | '.' :: fraction =>
    if whole.isEmpty then
      ["inf", "Inf", "INF"].contains (String.ofList fraction) ||
        (body.length = cs.length &&
          (["nan", "NaN", "NAN"].contains (String.ofList fraction) ||
            (fraction.head?.any Char.isDigit && isFraction fraction)))
    else
      (isDigits whole && isFraction fraction) ||
        (isBaseSixty isDigits whole && fraction.all isDigitOrLine)
  | _ => false

/-- The parts of a date or time as they are written. -/
structure WrittenTime where
  year : List Char
  month : List Char
  day : List Char
  /-- Hour, minute, second and the digits of the fraction. -/
  time : Option (List Char × List Char × List Char × List Char) := none
  /-- The offset in minutes from universal time. -/
  offset : Option Int := none

/-- The number that digits stand for. -/
def digitsNumber (cs : List Char) : Nat :=
  cs.foldl (fun n c => 10 * n + (c.toNat - '0'.toNat)) 0

/-- The offset at the end of a time: nothing, `Z`, or a sign with hours and possibly minutes. -/
def readOffset? (cs : List Char) : Option (Option Int) :=
  match cs.dropWhile fun c => c = ' ' || c = '\t' with
  | [] => if cs.isEmpty then some none else none
  | ['Z'] => some (some 0)
  | sign :: rest =>
    let hours := rest.takeWhile Char.isDigit
    let minutes? : Option Nat := match rest.dropWhile Char.isDigit with
      | [] => some 0
      | [':', a, b] => if a.isDigit && b.isDigit then some (digitsNumber [a, b]) else none
      | _ => none
    match minutes? with
    | some minutes =>
      if (sign = '+' || sign = '-') && (hours.length = 1 || hours.length = 2) then
        let total : Int := 60 * digitsNumber hours + minutes
        some (some (if sign = '-' then -total else total))
      else none
    | none => none

/-- The time of day after a date. -/
def readTime? (date : WrittenTime) (cs : List Char) : Option WrittenTime :=
  let hour := cs.takeWhile Char.isDigit
  match cs.dropWhile Char.isDigit with
  | ':' :: m₁ :: m₂ :: ':' :: s₁ :: s₂ :: rest =>
    let (fraction, rest) := match rest with
      | '.' :: rest => (rest.takeWhile Char.isDigit, rest.dropWhile Char.isDigit)
      | rest => ([], rest)
    if (hour.length = 1 || hour.length = 2) && [m₁, m₂, s₁, s₂].all Char.isDigit then
      (readOffset? rest).map fun offset =>
        { date with time := some (hour, [m₁, m₂], [s₁, s₂], fraction), offset }
    else none
  | _ => none

/-- The date, and possibly the time, that a text spells. -/
def writtenTime? (cs : List Char) : Option WrittenTime :=
  let year := cs.takeWhile Char.isDigit
  match cs.dropWhile Char.isDigit with
  | '-' :: rest =>
    let month := rest.takeWhile Char.isDigit
    match rest.dropWhile Char.isDigit with
    | '-' :: rest =>
      let day := rest.takeWhile Char.isDigit
      let date : WrittenTime := { year, month, day }
      if year.length = 4 && (month.length = 1 || month.length = 2) &&
          (day.length = 1 || day.length = 2) then
        match rest.dropWhile Char.isDigit with
        | [] => some date
        | c :: rest =>
          if c = 'T' || c = 't' then readTime? date rest
          else if c = ' ' || c = '\t' then
            readTime? date (rest.dropWhile fun c => c = ' ' || c = '\t')
          else none
      else none
    | _ => none
  | _ => none

/-- Whether a text spells a date or time; a date alone has two digits for month and day. -/
def spellsTime (cs : List Char) : Bool :=
  match writtenTime? cs with
  | some t => t.time.isSome || (t.month.length = 2 && t.day.length = 2)
  | none => false

/-- The words for true. -/
def trueWords : List String := ["yes", "Yes", "YES", "true", "True", "TRUE", "on", "On", "ON"]

/-- The words for false. -/
def falseWords : List String := ["no", "No", "NO", "false", "False", "FALSE", "off", "Off", "OFF"]

/-- The words for null. -/
def nullWords : List String := ["", "~", "null", "Null", "NULL"]

/-- A text without a line feed at its end. -/
def withoutLineFeed (s : String) : String :=
  if s.endsWith "\n" then String.ofList s.toList.dropLast else s

/-- The type that the text of a plain scalar spells. A line feed at its end makes no difference,
except after nothing. -/
def Kind.ofPlain (s : String) : Kind :=
  let s := if s = "\n" then s else withoutLineFeed s
  let cs := s.toList
  if (trueWords ++ falseWords).contains s then .bool
  else if spellsFloat cs then .float
  else if spellsInt cs then .int
  else if s = "<<" then .merge
  else if nullWords.contains s then .null
  else if spellsTime cs then .timestamp
  else if s = "=" then .default
  else .text

/-! ### Values of scalars -/

/-- The integer that a tagged or plain scalar stands for. -/
def intOf (s : String) : Except Fault Int :=
  let cs := s.toList.filter (· ≠ '_')
  let (negative, body) := Text.splitSign cs
  let signed (n : Int) : Int := if negative then -n else n
  let read (base : Nat) (cs : List Char) : Except Fault Int :=
    (Text.readInteger base (String.ofList cs)).mapError .integer
  match body with
  | [] => .error (.scalar .emptyNumber)
  | ['0'] => .ok 0
  | '0' :: 'b' :: rest => (read 2 rest).map signed
  | '0' :: 'x' :: rest => (read 16 rest).map signed
  | '0' :: _ => (read 8 body).map signed
  | _ =>
    if body.contains ':' then
      ((splitColons body).mapM (read 10)).map fun ds => signed (ds.foldl (fun n d => 60 * n + d) 0)
    else (read 10 body).map signed

/-- The decimal number that a text spells: digits, a point, an exponent. -/
def decimal? (cs : List Char) : Option Binary64 :=
  let whole := cs.takeWhile Char.isDigit
  let rest := cs.dropWhile Char.isDigit
  let (fraction, rest) := match rest with
    | '.' :: rest => (rest.takeWhile Char.isDigit, rest.dropWhile Char.isDigit)
    | rest => ([], rest)
  let number (exponent : Int) : Option Binary64 :=
    some (Binary64.ofDecimal false (digitsNumber (whole ++ fraction)) (exponent - fraction.length))
  if whole.isEmpty && fraction.isEmpty then none
  else match rest with
    | [] => number 0
    | 'e' :: rest =>
      let (negative, digits) := Text.splitSign rest
      if isRunOf Char.isDigit digits then
        number (if negative then -(digitsNumber digits : Int) else digitsNumber digits)
      else none
    | _ => none

/-- The floating-point number that a text in small letters stands for, between blanks. The digits
can be those of any script. -/
def number? (cs : List Char) : Option Binary64 :=
  let (negative, body) := Text.splitSign (Text.trimBy Text.isBlank cs)
  let plain (c : Char) : Char := ((Text.decimalValue? c).map Nat.digitChar).getD c
  let size :=
    if body = "inf".toList || body = "infinity".toList then some (Binary64.infinity false)
    else if body = "nan".toList then some Binary64.notANumber
    else decimal? (body.map plain)
  size.map fun x => if negative then x.negate else x

/-- The floating-point number that a tagged or plain scalar stands for. -/
def floatOf (s : String) : Except Fault Binary64 :=
  let cs := (s.toList.filter (· ≠ '_')).map Char.toLower
  let (negative, body) := Text.splitSign cs
  let signed (x : Binary64) : Binary64 := if negative then x.negate else x
  let read (cs : List Char) : Except Fault Binary64 :=
    match number? cs with
    | some x => .ok x
    | none => .error (.notFloat (String.ofList cs))
  if cs.isEmpty then .error (.scalar .emptyNumber)
  else if body = ".inf".toList then .ok (Binary64.infinity negative)
  else if body = ".nan".toList then .ok Binary64.notANumber
  else if body.contains ':' then do
    match Binary64.inBaseSixty? (← (splitColons body).mapM read) with
    | some x => return signed x
    | none => throw (.scalar .tooManySixtieths)
  else (read body).map signed

end MarkdownTree.Yaml
