/-!
# Base64

Bytes are written as characters of six bits each, four for three bytes. Other characters between
them say nothing. An equals sign after two or three characters of a group stands for those that
are missing; when the group is full the rest of the text is not read.
-/

namespace MarkdownTree.Text

/-- The six bits that a character stands for. -/
def sextet? (c : Char) : Option Nat :=
  if 'A' ≤ c ∧ c ≤ 'Z' then some (c.toNat - 'A'.toNat)
  else if 'a' ≤ c ∧ c ≤ 'z' then some (c.toNat - 'a'.toNat + 26)
  else if c.isDigit then some (c.toNat - '0'.toNat + 52)
  else if c = '+' then some 62
  else if c = '/' then some 63
  else none

/-- Reads a text of which `count` characters of a group were read, that left over the bits
`left`, and after them `pads` equals signs. A text that ends inside a group is refused. -/
def decodeSextets (count left pads : Nat) : List Char → Option (List UInt8)
  | [] => if count = 0 then some [] else none
  | c :: cs =>
    if c = '=' then
      if count < 2 then decodeSextets count left pads cs
      else if 4 ≤ count + (pads + 1) then some []
      else decodeSextets count left (pads + 1) cs
    else match sextet? c with
      | none => decodeSextets count left pads cs
      | some bits =>
        if count = 0 then decodeSextets 1 bits 0 cs
        else
          -- a character after the first one of a group completes a byte
          let value := 64 * left + bits
          let rest := 2 * (3 - count)
          (decodeSextets ((count + 1) % 4) (value % 2 ^ rest) 0 cs).map
            (UInt8.ofNat (value / 2 ^ rest) :: ·)

/-- The bytes that a text in Base64 stands for. -/
def decodeBase64 (s : String) : Option (List UInt8) := decodeSextets 0 0 0 s.toList

example : decodeBase64 "SGk=" = some [72, 105] ∧ decodeBase64 "S G k" = none := by decide +kernel

end MarkdownTree.Text
