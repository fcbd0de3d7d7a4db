import MarkdownTree.Text.CharSet
import MarkdownTree.Value.Basic

/-!
# Reading JSON

The reader takes a value from the front of a text and returns what is left. Members of an object
keep their order, a number without a fraction and an exponent is an integer, and every other
number is rounded to the nearest floating-point number. Each step consumes a character, so the
length of the text bounds the steps.
-/

namespace MarkdownTree.Json

/-- The white space of JSON. -/
def isSpace (c : Char) : Bool := c == ' ' || c == '\n' || c == '\t' || c == '\r'

/-- Drops white space. -/
def skipSpace (cs : List Char) : List Char := cs.dropWhile isSpace

/-- The digits at the front of a text and what is left. -/
def readDigits (cs : List Char) : List Char × List Char :=
  (cs.takeWhile Char.isDigit, cs.dropWhile Char.isDigit)

/-- The number that decimal digits stand for. -/
def digitsValue (ds : List Char) : Nat := ds.foldl (fun n c => 10 * n + (c.toNat - '0'.toNat)) 0

/-- The exponent at the front of a text: none, or `e`, a sign and digits. -/
def readExponent (cs : List Char) : Option (Option Int × List Char) :=
  let digits (negative : Bool) (cs : List Char) : Option (Option Int × List Char) :=
    match readDigits cs with
    | ([], _) => none
    | (ds, rest) => some (some (if negative then -(digitsValue ds : Int) else digitsValue ds), rest)
  match cs with
  | c :: rest =>
    if c = 'e' ∨ c = 'E' then
      match rest with
      | '-' :: rest => digits true rest
      | '+' :: rest => digits false rest
      | rest => digits false rest
    else some (none, cs)
  | [] => some (none, [])

/-- The number at the front of a text, after its sign. -/
def readNumber (negative : Bool) (cs : List Char) : Option (Value × List Char) :=
  match readDigits cs with
  | ([], _) => none
  | (whole, rest) =>
    let fraction := match rest with
      | '.' :: rest' => match readDigits rest' with
        | ([], _) => none
        | (ds, rest) => some (some ds, rest)
      | rest => some (none, rest)
    match fraction with
    | none => none
    | some (ds?, rest) =>
      match readExponent rest with
      | none => none
      | some (exponent?, rest) =>
        match ds?, exponent? with
        | none, none =>
          let n : Int := digitsValue whole
          some (.int (if negative then -n else n), rest)
        | _, _ =>
          let ds := ds?.getD []
          some (.float (Binary64.ofDecimal negative (digitsValue (whole ++ ds))
            (exponent?.getD 0 - ds.length)), rest)

/-- Four hexadecimal digits and what is left. -/
def readHex4 : List Char → Option (Nat × List Char)
  | a :: b :: c :: d :: rest =>
    match Text.hexValue? a, Text.hexValue? b, Text.hexValue? c, Text.hexValue? d with
    | some a, some b, some c, some d => some (((a * 16 + b) * 16 + c) * 16 + d, rest)
    | _, _, _, _ => none
  | _ => none

/-- The character that a letter after a backslash stands for. -/
def escaped? (c : Char) : Option Char :=
  if c = '"' ∨ c = '\\' ∨ c = '/' then some c
  else if c = 'n' then some '\n'
  else if c = 'r' then some '\r'
  else if c = 't' then some '\t'
  else if c = 'b' then some '\x08'
  else if c = 'f' then some '\x0c'
  else none

/-- The characters up to the closing quote and what follows it; `acc` holds those already read,
the last one first. -/
def readBody : Nat → List Char → List Char → Option (List Char × List Char)
  | 0, _, _ => none
  | _ + 1, _, [] => none
  | fuel + 1, acc, c :: rest =>
    if c = '"' then some (acc.reverse, rest)
    else if c = '\\' then
      match rest with
      | 'u' :: rest =>
        match readHex4 rest with
        | none => none
        | some (high, rest) =>
          if 0xD800 ≤ high ∧ high < 0xDC00 then
            match rest with
            | '\\' :: 'u' :: rest' =>
              match readHex4 rest' with
              | some (low, rest') =>
                if 0xDC00 ≤ low ∧ low < 0xE000 then
                  readBody fuel
                    (Char.ofNat (0x10000 + (high - 0xD800) * 0x400 + (low - 0xDC00)) :: acc) rest'
                else none
              | none => none
            | _ => none
          else readBody fuel (Char.ofNat high :: acc) rest
      | c :: rest =>
        match escaped? c with
        | some c => readBody fuel (c :: acc) rest
        | none => none
      | [] => none
    else readBody fuel (c :: acc) rest

/-- A text after its opening quote. -/
def readString (fuel : Nat) (cs : List Char) : Option (String × List Char) :=
  (readBody fuel [] cs).map fun r => (String.ofList r.1, r.2)

mutual

/-- The value at the front of a text. -/
def readValue : Nat → List Char → Option (Value × List Char)
  | 0, _ => none
  | fuel + 1, cs =>
    match skipSpace cs with
    | [] => none
    | c :: rest =>
      if c = '"' then (readString fuel rest).map fun r => (.string r.1, r.2)
      else if c = '[' then
        match skipSpace rest with
        | ']' :: rest => some (.list [], rest)
        | rest => (readItems fuel rest).map fun r => (.list r.1, r.2)
      else if c = '{' then
        match skipSpace rest with
        | '}' :: rest => some (.object [], rest)
        | rest => (readMembers fuel rest).map fun r => (.object r.1, r.2)
      else if c = '-' then readNumber true rest
      else if c.isDigit then readNumber false (c :: rest)
      else if c = 'n' then
        match rest with
        | 'u' :: 'l' :: 'l' :: rest => some (.null, rest)
        | _ => none
      else if c = 't' then
        match rest with
        | 'r' :: 'u' :: 'e' :: rest => some (.bool true, rest)
        | _ => none
      else if c = 'f' then
        match rest with
        | 'a' :: 'l' :: 's' :: 'e' :: rest => some (.bool false, rest)
        | _ => none
      else none

/-- The items of a list up to the closing bracket; there is at least one. -/
def readItems : Nat → List Char → Option (List Value × List Char)
  | 0, _ => none
  | fuel + 1, cs =>
    match readValue fuel cs with
    | none => none
    | some (v, rest) =>
      match skipSpace rest with
      | ',' :: rest => (readItems fuel rest).map fun r => (v :: r.1, r.2)
      | ']' :: rest => some ([v], rest)
      | _ => none

/-- The members of an object up to the closing brace; there is at least one. -/
def readMembers : Nat → List Char → Option (List (String × Value) × List Char)
  | 0, _ => none
  | fuel + 1, cs =>
    match skipSpace cs with
    | '"' :: rest =>
      match readString fuel rest with
      | none => none
      | some (k, rest) =>
        match skipSpace rest with
        | ':' :: rest =>
          match readValue fuel rest with
          | none => none
          | some (v, rest) =>
            match skipSpace rest with
            | ',' :: rest => (readMembers fuel rest).map fun r => ((k, v) :: r.1, r.2)
            | '}' :: rest => some ([(k, v)], rest)
            | _ => none
        | _ => none
    | _ => none

end

/-- The value that a text holds, if it is one value between white space. -/
def parse? (s : String) : Option Value :=
  match readValue (s.toList.length + 1) s.toList with
  | some (v, rest) => if (skipSpace rest).isEmpty then some v else none
  | none => none

end MarkdownTree.Json
