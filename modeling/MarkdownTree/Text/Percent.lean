import MarkdownTree.Text.CharSet

/-!
# Percent-encoding

A character outside the ones an address may hold is written as the bytes of its UTF-8 form, a
percent sign and two hexadecimal digits each. Sequences that are already there are kept.
-/

namespace MarkdownTree.Text

/-- The characters that stand for themselves in an address. -/
def isAddressChar (c : Char) : Bool :=
  ('a' ≤ c && c ≤ 'z') || ('A' ≤ c && c ≤ 'Z') || ('0' ≤ c && c ≤ '9') ||
    ";/?:@&=+$,-_.!~*'()#".toList.contains c

/-- The characters whose sequences are kept when an address is shown. -/
def isReservedChar (c : Char) : Bool := ";/?:@&=+$,#%".toList.contains c

/-- One byte as a sequence. -/
def percentByte (b : Nat) : List Char := '%' :: hexDigits 2 b

/-- The byte of the sequence at the beginning. -/
def percentByte? : List Char → Option Nat
  | '%' :: a :: b :: _ =>
    match hexValue? a, hexValue? b with
    | some a, some b => some (16 * a + b)
    | _, _ => none
  | _ => none

/-- The text with every character that an address may not hold written as sequences. -/
def percentEncode : List Char → List Char
  | [] => []
  | c :: cs =>
    if isAddressChar c || (percentByte? (c :: cs)).isSome then c :: percentEncode cs
    else (String.singleton c).toUTF8.toList.flatMap (percentByte ·.toNat) ++ percentEncode cs

/-- The number of bytes that a character takes whose first byte is `b`, one for a byte that begins
no character. -/
def utf8Width (b : Nat) : Nat :=
  if b / 32 = 6 then 2 else if b / 16 = 14 then 3 else if b / 8 = 30 then 4 else 1

/-- The bytes of the sequences that follow each other, at most `n` of them. -/
def percentBytes : Nat → List Char → List Nat
  | 0, _ => []
  | n + 1, cs =>
    match percentByte? cs with
    | some b => b :: percentBytes n (cs.drop 3)
    | none => []

/-- The characters that bytes which belong together stand for. Bytes that encode no character give
as many replacement characters. -/
def utf8Char (bytes : List Nat) : List Char :=
  match String.fromUTF8? (ByteArray.mk (bytes.map UInt8.ofNat).toArray) with
  | some s => s.toList
  | none => List.replicate bytes.length '\ufffd'

/-- What the first sequence of `cs` stands for, with the ones that belong to it, and their number.
A reserved character stays a sequence. -/
def percentChar? (cs : List Char) : Option (List Char × Nat) :=
  match percentByte? cs with
  | none => none
  | some b =>
    if b < 0x80 then
      some (if isReservedChar (Char.ofNat b) then percentByte b else [Char.ofNat b], 1)
    else
      let width := utf8Width b
      let bytes := percentBytes width cs
      if 1 < width ∧ bytes.length = width ∧ bytes.tail.all (· / 64 = 2) then
        some (utf8Char bytes, width)
      else some (['\ufffd'], 1)

/-- The text with its sequences replaced by the characters they stand for. -/
def percentDecode (cs : List Char) : List Char :=
  match cs with
  | [] => []
  | c :: rest =>
    match percentChar? (c :: rest) with
    | some (characters, n) => characters ++ percentDecode (rest.drop (3 * n - 1))
    | none => c :: percentDecode rest
termination_by cs.length
decreasing_by all_goals (simp only [List.length_cons, List.length_drop]; omega)

end MarkdownTree.Text
