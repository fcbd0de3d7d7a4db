import MarkdownTree.Text.Quoted
import MarkdownTree.Value.Basic

/-!
# The text of a value

A value inside a text is written plainly: a text as it is, a number in decimal, a list in
brackets and an object in braces, with quoted texts inside them.
-/

namespace MarkdownTree.Value

/-- Floating-point numbers are positional for exponents from -4 to 15; otherwise they have a
signed exponent of at least two digits. -/
def floatLayout : Binary64.Layout := ⟨-4, 16, 2, true, "inf", "nan"⟩

/-- A date inside a list or an object. -/
def quotedDate (d : Date) : String := s!"datetime.date({d.year}, {d.month}, {d.day})"

/-- The offset of a point in time inside a list or an object: what is negative counts from the day
before. -/
def quotedOffset (minutes : Int) : String :=
  if minutes = 0 then "datetime.timezone.utc"
  else
    let days := if minutes < 0 then "days=-1, " else ""
    let seconds := (minutes * 60) % 86400
    s!"datetime.timezone(datetime.timedelta({days}seconds={seconds}))"

/-- A point in time inside a list or an object; seconds and their fraction are left out as far as
they are zero at the end. -/
def quotedTimestamp (t : Timestamp) : String :=
  let fraction := if t.microsecond = 0 then [] else [t.microsecond]
  let seconds := if t.second = 0 ∧ t.microsecond = 0 then [] else [t.second]
  let parts := [t.date.year, t.date.month, t.date.day, t.hour, t.minute] ++ seconds ++ fraction
  let zone := (t.offset.map fun o => ", tzinfo=" ++ quotedOffset o).getD ""
  "datetime.datetime(" ++ ", ".intercalate (parts.map toString) ++ zone ++ ")"

mutual

/-- The text of a value inside a list or an object. -/
def quoted : Value → String
  | .null => "None"
  | .bool true => "True"
  | .bool false => "False"
  | .int n => toString n
  | .float x => floatLayout.write x
  | .string s => Text.quoted s
  | .date d => quotedDate d
  | .timestamp t => quotedTimestamp t
  | .list items => "[" ++ ", ".intercalate (quotedItems items) ++ "]"
  | .object members => "\x7b" ++ ", ".intercalate (quotedMembers members) ++ "\x7d"

/-- The texts of the items of a list. -/
def quotedItems : List Value → List String
  | [] => []
  | v :: vs => quoted v :: quotedItems vs

/-- The texts of the members of an object. -/
def quotedMembers : List (String × Value) → List String
  | [] => []
  | (k, v) :: ms => (Text.quoted k ++ ": " ++ quoted v) :: quotedMembers ms

end

/-- The text of a value that stands alone. -/
def text : Value → String
  | .string s => s
  | .date d => d.text
  | .timestamp t => t.plainText
  | v => v.quoted

end MarkdownTree.Value
