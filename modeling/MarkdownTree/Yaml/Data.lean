import MarkdownTree.Text.Base64
import MarkdownTree.Value.Basic
import MarkdownTree.Yaml.Tree

/-!
# Data of YAML

The tree of a text stands for plain data, in which the keys of a mapping can be scalars of any
type. Mappings under the key `<<` are merged in front of the entries beside them, and a later
entry replaces an earlier one with an equal key. A collection can hold itself.

Collections are filled level by level, so of two faults in a text the one of the outer level is
met first: `Found` keeps the level of a fault.
-/

namespace MarkdownTree.Yaml

/-- Plain data. -/
inductive Data where
  | null
  | bool (b : Bool)
  | int (n : Int)
  | float (x : Binary64)
  | text (s : String)
  /-- A text with halves of surrogate pairs, by the numbers of its characters. -/
  | surrogates (codes : List Nat)
  | bytes (bs : List UInt8)
  | date (d : Date)
  | timestamp (t : Timestamp)
  | list (items : List Data)
  | set (members : List Data)
  | mapping (entries : List (Data × Data))
  /-- A collection that this one stands in. -/
  | around

namespace Data

/-- The name of the type of data. -/
def typeName : Data → String
  | .null => "NoneType"
  | .bool _ => "bool"
  | .int _ => "int"
  | .float _ => "float"
  | .text _ | .surrogates _ => "str"
  | .bytes _ => "bytes"
  | .date _ => "date"
  | .timestamp _ => "datetime"
  | .list _ | .around => "list"
  | .set _ => "set"
  | .mapping _ => "dict"

/-- Null, false, zero and everything empty count as false. -/
def isTruthy : Data → Bool
  | .null => false
  | .bool b => b
  | .int n => n != 0
  | .float x => !x.isZero
  | .text s => s != ""
  | .bytes bs => !bs.isEmpty
  | .surrogates _ | .date _ | .timestamp _ | .around => true
  | .list items => !items.isEmpty
  | .set members => !members.isEmpty
  | .mapping entries => !entries.isEmpty

/-- The text whose UTF-8 form the bytes are. -/
def textOfBytes? (bs : List UInt8) : Option String := String.fromUTF8? ⟨bs.toArray⟩

/-- The integer that a number or truth value is equal to. -/
def integral? : Data → Option Int
  | .bool b => some (if b then 1 else 0)
  | .int n => some n
  | .float x => if x.isIntegral then x.truncate? else none
  | _ => none

/-- Whether two scalars are the same key. Numbers are compared by value. -/
def sameKey (a b : Data) : Bool :=
  match integral? a, integral? b with
  | some m, some n => m = n
  | _, _ =>
    match a, b with
    | .null, .null => true
    | .float x, .float y => x = y
    | .text s, .text t => s = t
    | .surrogates cs, .surrogates ds => cs = ds
    | .bytes bs, .bytes cs => bs = cs
    | .date d, .date e => d = e
    | .timestamp t, .timestamp u => t = u
    | _, _ => false

/-- Gives a key a value: in its place if the key is there, at the end otherwise. -/
def setEntry (k v : Data) : List (Data × Data) → List (Data × Data)
  | [] => [(k, v)]
  | (k', v') :: es => if sameKey k' k then (k', v) :: es else (k', v') :: setEntry k v es

/-- The text of a floating-point key: digits and a point, without an exponent. -/
def floatKey (x : Binary64) : String :=
  let s := (Binary64.Layout.mk (-400) 400 1 false "inf" "NaN").write x
  if s.endsWith ".0" then String.ofList (s.toList.take (s.length - 2)) else s

/-- The text that data is taken for where a text is needed. -/
def asText? : Data → Option String
  | .text s => some s
  | .bytes bs => textOfBytes? bs
  | _ => none

/-- The name under which a key is written in an object. -/
def keyText : Data → String
  | .null => "None"
  | .bool b => if b then "true" else "false"
  | .int n => toString n
  | .float x => floatKey x
  | .text s => s
  | .bytes bs => (textOfBytes? bs).getD ""
  | .date d => d.text
  | .timestamp t => t.text
  | .surrogates _ | .list _ | .set _ | .mapping _ | .around => ""

mutual

/-- The data as a value, whose keys are texts. What cannot be written is null. -/
def toValue : Data → Value
  | .null => .null
  | .bool b => .bool b
  | .int n => .int n
  | .float x => .float x
  | .text s => .string s
  | .bytes bs => .ofString? (textOfBytes? bs)
  | .date d => .date d
  | .timestamp t => .timestamp t
  | .list items => .list (valuesOf items)
  | .set members => .list (valuesOf members)
  | .mapping entries => .object (membersOf entries)
  | .surrogates _ | .around => .null

/-- The values of a list. -/
def valuesOf : List Data → List Value
  | [] => []
  | d :: ds => toValue d :: valuesOf ds

/-- The members of a mapping. -/
def membersOf : List (Data × Data) → List (String × Value)
  | [] => []
  | (k, v) :: es => (keyText k, toValue v) :: membersOf es

end

mutual

/-- Whether data can be written, nested no deeper than the given number of levels. Texts have to be
texts of characters, and nothing can stand in itself. -/
def isWritable (levels : Nat) : Data → Bool
  | .surrogates _ | .around => false
  | .bytes bs => 0 < levels && (textOfBytes? bs).isSome
  | .list items => 0 < levels && allWritable (levels - 1) items
  | .set members => 0 < levels && allWritable (levels - 1) members
  | .mapping entries => 0 < levels && entriesWritable (levels - 1) entries
  | _ => 0 < levels

/-- Whether all items can be written. -/
def allWritable (levels : Nat) : List Data → Bool
  | [] => true
  | d :: ds => isWritable levels d && allWritable levels ds

/-- Whether all entries of a mapping can be written; their keys take no level. -/
def entriesWritable (levels : Nat) : List (Data × Data) → Bool
  | [] => true
  | (k, v) :: es => isWritable 1 k && isWritable levels v && entriesWritable levels es

end

/-! ### Faults -/

/-- What comes of a node, or the first fault in it with its level. -/
abbrev Found (α : Type) := Except (Nat × Fault) α

namespace Found

/-- Refuses the node itself. -/
def refuse (fault : Fault) : Found α := .error (0, fault)

/-- What is found one level below. -/
def below (r : Found α) : Found α := r.mapError fun e => (e.1 + 1, e.2)

/-- Two results; the fault of the outer level counts, and the first one of two on one level. -/
def both : Found α → Found β → Found (α × β)
  | .ok a, .ok b => .ok (a, b)
  | .ok _, .error e => .error e
  | .error e, .ok _ => .error e
  | .error e, .error e' => .error (if e.1 ≤ e'.1 then e else e')

/-- Several results. -/
def all : List (Found α) → Found (List α)
  | [] => .ok []
  | r :: rs => (both r (all rs)).map fun (a, as) => a :: as

end Found

/-! ### Data of scalars -/

/-- The date or point in time that a text spells. -/
def timeOf (s : String) : Except Fault Data :=
  match writtenTime? (withoutLineFeed s).toList with
  | none => .error (.scalar .notTime)
  | some t =>
    let year := digitsNumber t.year
    let month := digitsNumber t.month
    let day := digitsNumber t.day
    match t.time with
    | none => ((Date.make? year month day).map Data.date).mapError .calendar
    | some (hour, minute, second, fraction) =>
      let microsecond := digitsNumber ((fraction ++ List.replicate 6 '0').take 6)
      ((Timestamp.make? year month day (digitsNumber hour) (digitsNumber minute)
        (digitsNumber second) microsecond t.offset).map Data.timestamp).mapError .calendar

/-- The truth value that a word stands for. -/
def boolOf (s : String) : Except Fault Data :=
  let word := s.map Char.toLower
  if ["yes", "true", "on"].contains word then .ok (.bool true)
  else if ["no", "false", "off"].contains word then .ok (.bool false)
  else .error (.scalar (.unknownWord word))

/-- The bytes that a text stands for. -/
def bytesOf (s : String) : Except Fault Data :=
  if s.toList.all fun c => c.toNat < 0x80 then
    match Text.decodeBase64 s with
    | some bs => .ok (.bytes bs)
    | none => .error (.form .malformedBase64)
  else .error (.form .malformedBase64)

/-- The data of a text of the given type. What should be a collection is found to be none only when
it is filled. -/
def ofScalar (kind : Kind) (s : String) : Found Data :=
  let here (r : Except Fault Data) : Found Data := r.mapError (0, ·)
  match kind with
  | .null => .ok .null
  | .bool => here (boolOf s)
  | .int => here ((intOf s).map .int)
  | .float => here ((floatOf s).map .float)
  | .timestamp => here (timeOf s)
  | .text => .ok (.text s)
  | .binary => here (bytesOf s)
  | .sequence => (Found.refuse (.form (.wrongKindOfNode "seq"))).below
  | .mapping => (Found.refuse (.form (.wrongKindOfNode "map"))).below
  | .set => (Found.refuse (.form (.wrongKindOfNode "set"))).below
  | .pairs => (Found.refuse (.form (.wrongKindOfNode "pairs"))).below
  | .merge => .refuse (.form (.unknownTag "merge"))
  | .default => .refuse (.form (.unknownTag "value"))
  | .other tag => .refuse (.form (.unknownTag tag))

/-- The data of a text with halves of surrogate pairs. Only as a text it is anything. -/
def ofSurrogates (kind : Kind) (codes : List Nat) : Found Data :=
  if kind = .text then .ok (.surrogates codes)
  else
    ofScalar kind (String.ofList (codes.map fun n =>
      if n.isValidChar then Char.ofNat n else '\ufffd'))

/-! ### Data of trees -/

section trees

variable (nodes : Entries Nat Tree)

/-- The node itself where an alias refers to a collection. -/
def resolve : Tree → Tree
  | .alias number => (Entries.get? nodes number).getD Tree.missing
  | t => t

/-- The type of a node. -/
def kindOf (t : Tree) : Kind :=
  match resolve nodes t with
  | .scalar kind _ | .surrogates kind _ | .sequence _ kind _ | .mapping _ kind _ => kind
  | .alias _ => .null

/-- The key `=` is a text. -/
def plainKey : Tree → Tree
  | .scalar .default s => .scalar .text s
  | t => t

/-- The entries of a mapping that are its own. -/
def ownEntries (es : List (Tree × Tree)) : List (Tree × Tree) :=
  (es.filter fun e => kindOf nodes e.1 ≠ .merge).map fun e => (plainKey e.1, e.2)

/-- The mappings that a merge key asks for: the one under it, or those in a sequence, from the last
one on. -/
def mergeSources (v : Tree) : Except Fault (List (Nat × List (Tree × Tree))) :=
  let mapping (t : Tree) : Except Fault (Nat × List (Tree × Tree)) :=
    match resolve nodes t with
    | .mapping number _ es => .ok (number, es)
    | _ => .error (.form .unmergeable)
  match resolve nodes v with
  | .sequence _ _ items => (items.mapM mapping).map List.reverse
  | v => (mapping v).map fun source => [source]

/-- The entries of a mapping with the merged ones in front. A mapping that is merged into itself, or
that is being merged already, adds its own entries only. -/
def flatten : Nat → List Nat → Nat → List (Tree × Tree) → Except Fault (List (Tree × Tree))
  | 0, _, _, _ => .error .stackExhausted
  | fuel + 1, busy, number, es => do
    let sources ← (es.filter fun e => kindOf nodes e.1 = .merge).mapM fun e =>
      mergeSources nodes e.2
    let merged ← sources.flatten.mapM fun (source, es) =>
      if (number :: busy).contains source then .ok (ownEntries nodes es)
      else flatten fuel (number :: busy) source es
    return merged.flatten ++ ownEntries nodes es

/-- The scalar under the key `=` of a mapping, which stands for the mapping where a scalar is
needed. -/
def defaultOf : Nat → List (Tree × Tree) → Except Fault Tree
  | 0, _ => .error .stackExhausted
  | fuel + 1, es =>
    match es.find? fun e => kindOf nodes e.1 = .default with
    | none => .error (.form (.wrongKindOfNode "scalar"))
    | some (_, v) =>
      match resolve nodes v with
      | .mapping _ _ es => defaultOf fuel es
      | .sequence _ _ _ => .error (.form (.wrongKindOfNode "scalar"))
      | v => .ok v

/-- Refuses a collection whose type is that of another form of nodes. -/
def refuseKind (kind : Kind) : Found Data :=
  match kind with
  | .other tag => .refuse (.form (.unknownTag tag))
  | .merge => .refuse (.form (.unknownTag "merge"))
  | .default => .refuse (.form (.unknownTag "value"))
  | .sequence | .mapping | .set | .pairs =>
    (Found.refuse (.form (.wrongKindOfNode "collection"))).below
  | _ => .refuse (.form (.wrongKindOfNode "scalar"))

/-- The data of a mapping of the type of a scalar. -/
def ofDefault (fuel : Nat) (kind : Kind) (es : List (Tree × Tree)) : Found Data :=
  match defaultOf nodes fuel es with
  | .error fault => .refuse fault
  | .ok t =>
    match t with
    | .surrogates _ codes =>
      if kind = .timestamp then .refuse (.scalar .mappingAsTime) else ofSurrogates kind codes
    | .scalar _ s => if kind = .timestamp then .refuse (.scalar .mappingAsTime) else ofScalar kind s
    | _ => .refuse (.form (.wrongKindOfNode "scalar"))

/-- Whether a type is one of collections, which cannot be keys. -/
def isCollectionKind (kind : Kind) : Bool := [.sequence, .mapping, .set, .pairs].contains kind

/-- The data of a key, given the data of nodes. -/
def ofKey (data : Tree → Found Data) (t : Tree) : Found Data :=
  if isCollectionKind (kindOf nodes t) then .refuse (.form .unhashableKey) else data t

/-- The two parts of an item of pairs, given the data of nodes. -/
def ofPair (data : Tree → Found Data) (t : Tree) : Found Data :=
  match resolve nodes t with
  | .mapping _ _ [(k, v)] => (Found.both (data k) (data v)).map fun (k, v) => .list [k, v]
  | _ => .refuse (.form (.wrongKindOfNode "pairs"))

/-- The data of a tree inside the collections with the numbers `outer`. -/
def ofTree : Nat → List Nat → Tree → Found Data
  | 0, _, _ => .refuse .stackExhausted
  | fuel + 1, outer, t =>
    match resolve nodes t with
    | .scalar kind s => ofScalar kind s
    | .surrogates kind codes => ofSurrogates kind codes
    | .alias _ => .ok .null
    | .sequence number kind items =>
      let inside := ofTree fuel (number :: outer)
      if outer.contains number then .ok .around
      else match kind with
        | .sequence => (Found.below (Found.all (items.map inside))).map .list
        | .pairs => (Found.below (Found.all (items.map (ofPair nodes inside)))).map .list
        | kind => refuseKind kind
    | .mapping number kind es =>
      let inside := ofTree fuel (number :: outer)
      let entries : Found (List (Data × Data)) := Found.below do
        let es ← (flatten nodes (fuel + 1) [] number es).mapError (0, ·)
        let pairs ← Found.all (es.map fun e => Found.both (ofKey nodes inside e.1) (inside e.2))
        return pairs.foldl (fun acc e => setEntry e.1 e.2 acc) []
      if outer.contains number then .ok .around
      else match kind with
        | .mapping => entries.map .mapping
        | .set => entries.map fun es => .set (es.map Prod.fst)
        | .sequence | .pairs | .merge | .default | .other _ => refuseKind kind
        | kind => ofDefault nodes (fuel + 1) kind es

end trees

/-- The data of the document in a text; a text without one is null. -/
def ofText (text : String) (stackLimit : Option Nat := usualStackLimit) : Except Fault Data := do
  match ← Tree.ofText text stackLimit with
  | (none, _) => return .null
  | (some t, nodes) => (ofTree nodes (text.length + 2) [] t).mapError Prod.snd

end Data

end MarkdownTree.Yaml
