import MarkdownTree.Text.CharSet

/-!
# Bytes that are no text

The first byte of a character in UTF-8 says how many more the character has and between which
bounds each of them lies. Bytes are no text from the first one on that does not fit, and the fault
covers the bytes of the character that it is met in.
-/

namespace MarkdownTree.Text

/-- The bounds of the bytes after the first one of a character, if one can begin with `b`. -/
def continuations? (b : Nat) : Option (List (Nat × Nat)) :=
  let tail : Nat × Nat := (0x80, 0xBF)
  if b < 0x80 then some []
  else if b < 0xC2 then none
  else if b < 0xE0 then some [tail]
  else if b = 0xE0 then some [(0xA0, 0xBF), tail]
  else if b = 0xED then some [(0x80, 0x9F), tail]
  else if b < 0xF0 then some [tail, tail]
  else if b = 0xF0 then some [(0x90, 0xBF), tail, tail]
  else if b < 0xF4 then some [tail, tail, tail]
  else if b = 0xF4 then some [(0x80, 0x8F), tail, tail]
  else none

/-- What is wrong with bytes. -/
inductive ByteFault where
  /-- No character begins with the byte. -/
  | start
  /-- The next byte does not go on with the character. -/
  | continuation
  /-- The bytes end inside the character. -/
  | ended
  deriving DecidableEq

/-- The text of what is wrong. -/
def ByteFault.message : ByteFault → String
  | .start => "invalid start byte"
  | .continuation => "invalid continuation byte"
  | .ended => "unexpected end of data"

/-- Where and why bytes are no text. -/
structure Undecodable where
  /-- The first byte of the character. -/
  first : UInt8
  position : Nat
  /-- How many bytes of the character there are. -/
  count : Nat
  fault : ByteFault
  deriving DecidableEq

/-- Where bytes are no text, given the bounds of what is missing of a character and the place of its
first byte. -/
def undecodableFrom (missing : List (Nat × Nat)) (first : UInt8) (position read : Nat) :
    List UInt8 → Undecodable
  | [] => { first, position, count := read - position, fault := .ended }
  | b :: bs =>
    match missing with
    | [] =>
      match continuations? b.toNat with
      | none => { first := b, position := read, count := 1, fault := .start }
      | some missing => undecodableFrom missing b read (read + 1) bs
    | (least, greatest) :: missing =>
      if least ≤ b.toNat && b.toNat ≤ greatest then
        undecodableFrom missing first position (read + 1) bs
      else { first, position, count := read - position, fault := .continuation }

/-- Where bytes that are no text are none. -/
def undecodable (bytes : ByteArray) : Undecodable := undecodableFrom [] 0 0 0 bytes.data.toList

/-- The text of the fault. -/
def Undecodable.message (u : Undecodable) : String :=
  let digits := String.ofList ((hexDigits 2 u.first.toNat).map Char.toLower)
  let stretch :=
    if u.count = 1 then s!"byte 0x{digits} in position {u.position}"
    else s!"bytes in position {u.position}-{u.position + u.count - 1}"
  "'utf-8' codec can't decode " ++ stretch ++ ": " ++ u.fault.message

end MarkdownTree.Text
