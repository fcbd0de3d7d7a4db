import MarkdownTree.Markdown.CharacterReference
import MarkdownTree.Text.LabelFolding
import MarkdownTree.Text.Percent

/-!
# Addresses of links

An address is read as its parts and written again from them. What does not belong to a host moves
into the path, an empty user and an empty service are dropped. The target of a link is the written
address in percent-encoding, the text of a bare address shows it decoded.
-/

namespace MarkdownTree.Markdown

/-- The parts of an address; a part that is absent is empty. -/
structure Address where
  /-- With its colon. -/
  scheme : List Char := []
  slashes : Bool := false
  user : List Char := []
  host : List Char := []
  /-- The number behind the host. -/
  service : List Char := []
  path : List Char := []
  /-- With its question mark. -/
  query : List Char := []
  /-- With its number sign. -/
  fragment : List Char := []

namespace Address

/-- The characters of a scheme. -/
def isSchemeChar (c : Char) : Bool :=
  let l := Text.foldLetter c
  ('a' ≤ l && l ≤ 'z') || isDigit c || c = '.' || c = '+' || c = '-'

/-- The schemes that have a host only behind slashes. -/
def slashedSchemes : List (List Char) :=
  ["http:", "https:", "ftp:", "gopher:", "file:"].map String.toList

/-- The characters of the name of a host. -/
def isHostNameChar (c : Char) : Bool := isAlphanumeric c || c = '+' || c = '_' || c = '-'

/-- The characters that end the part of an address with the user and the host. -/
def endsAuthority (c : Char) : Bool := c = '/' || c = '?' || c = '#'

/-- The characters that no host holds. -/
def endsHost (c : Char) : Bool :=
  "%/?;#\x27\x7b\x7d|\\^\x60<>\" \r\n\t".toList.contains c

/-- The scheme at the beginning of an address, empty if there is none. -/
def schemeOf (cs : List Char) : List Char :=
  let name := cs.takeWhile isSchemeChar
  if !name.isEmpty ∧ (cs.drop name.length).head? = some ':' then name ++ [':'] else []

/-- The texts before and after the last `c`. -/
def splitLast? (c : Char) (cs : List Char) : Option (List Char × List Char) :=
  let after := (cs.reverse.takeWhile (· ≠ c)).reverse
  if after.length < cs.length then some (cs.take (cs.length - after.length - 1), after) else none

/-- Whether a label of a host's name is usable: at most 63 characters, of ASCII only the ones of a
name. -/
def isHostLabel (label : List Char) : Bool :=
  label.length ≤ 63 && label.all fun c => isHostNameChar c || 0x7F < c.toNat

/-- Divides the labels of a name into the usable ones and those that follow; the label at which
they part is cut where its usable characters end. -/
def divideLabels : List (List Char) → List (List Char) × List (List Char)
  | [] => ([], [])
  | label :: labels =>
    if isHostLabel label then
      let (usable, others) := divideLabels labels
      (label :: usable, others)
    else
      let usable := (label.takeWhile isHostNameChar).take 63
      ([usable], label.drop usable.length :: labels)

/-- The text of labels. -/
def joinLabels (labels : List (List Char)) : List Char := ['.'].intercalate labels

/-- The host in `host`, the number behind it, and what of it belongs to the path. -/
def readHost (host : List Char) : List Char × List Char × List Char :=
  let (name, service) :=
    match splitLast? ':' host with
    | some (name, digits) => if digits.all isDigit then (name, digits) else (host, [])
    | none => (host, [])
  if name.head? = some '[' ∧ name.getLast? = some ']' then
    (if 255 < name.length then [] else (name.drop 1).dropLast, service, [])
  else
    let (usable, others) := divideLabels (Text.splitAt '.' name)
    let name := joinLabels usable
    (if 255 < name.length then [] else name, service, joinLabels others)

/-- Reads the path, the query and the fragment. -/
def withPath (a : Address) (cs : List Char) : Address :=
  let beforeFragment := cs.takeWhile (· ≠ '#')
  let path := beforeFragment.takeWhile (· ≠ '?')
  { a with path, query := beforeFragment.drop path.length, fragment := cs.drop beforeFragment.length }

/-- Reads an address that has a host, from its user on. -/
def withHost (a : Address) (cs : List Char) : Address :=
  let (user, cs) :=
    match splitLast? '@' (cs.takeWhile (!endsAuthority ·)) with
    | some (user, _) => (user, cs.drop (user.length + 1))
    | none => ([], cs)
  let run := cs.takeWhile (!endsHost ·)
  let run := if run.getLast? = some ':' then run.dropLast else run
  let (host, service, others) := readHost run
  { a with user, host, service }.withPath (others ++ cs.drop run.length)

/-- Reads an address. -/
def ofChars (cs : List Char) : Address :=
  let cs := Text.trimBy Text.isBlank cs
  let scheme := schemeOf cs
  let cs := cs.drop scheme.length
  let slashes := ['/', '/'].isPrefixOf cs
  let cs := if slashes then cs.drop 2 else cs
  let a : Address := { scheme, slashes }
  if slashes ∨ (!scheme.isEmpty ∧ !slashedSchemes.contains scheme) then a.withHost cs
  else a.withPath cs

/-- Writes an address. A host that holds a colon stands in brackets. -/
def toChars (a : Address) : List Char :=
  a.scheme ++ (if a.slashes then ['/', '/'] else []) ++
    (if a.user.isEmpty then [] else a.user ++ ['@']) ++
    (if a.host.contains ':' then '[' :: a.host ++ [']'] else a.host) ++
    (if a.service.isEmpty then [] else ':' :: a.service) ++ a.path ++ a.query ++ a.fragment

end Address

/-- The form in which an address is the target of a link. -/
def linkTarget (cs : List Char) : List Char := Text.percentEncode (Address.ofChars cs).toChars

/-- The form in which an address is the text of a link. -/
def linkText (cs : List Char) : List Char := Text.percentDecode (Address.ofChars cs).toChars

/-- The beginnings of targets that are refused. -/
def refusedSchemes : List (List Char) :=
  ["vbscript:", "javascript:", "file:", "data:"].map String.toList

/-- The beginnings of targets with a picture in them. -/
def pictureSchemes : List (List Char) :=
  ["data:image/gif;", "data:image/png;", "data:image/jpeg;", "data:image/webp;"].map String.toList

/-- Whether a target is safe: it runs no program and opens no file. -/
def isSafeTarget (target : List Char) : Bool :=
  let cs := (Text.trimBy Text.isBlank target).map Char.toLower
  !refusedSchemes.any (·.isPrefixOf cs) || pictureSchemes.any (·.isPrefixOf cs)

end MarkdownTree.Markdown
