import MarkdownTree.Entries
import MarkdownTree.Stack
import MarkdownTree.Yaml.Resolution
import MarkdownTree.Yaml.Token

/-!
# Trees of YAML

The tokens of a text make a tree of typed nodes, or none if the text holds no document. Collections
are numbered. An anchor names a node for the aliases after it; the alias of a collection refers to
its number, as it can stand inside the collection itself.
-/

namespace MarkdownTree.Yaml

/-- A node with its type. -/
inductive Tree where
  | scalar (kind : Kind) (text : String)
  /-- A scalar with halves of surrogate pairs, by the numbers of its characters. -/
  | surrogates (kind : Kind) (codes : List Nat)
  | sequence (number : Nat) (kind : Kind) (items : List Tree)
  | mapping (number : Nat) (kind : Kind) (entries : List (Tree × Tree))
  /-- The collection with the given number. -/
  | alias (number : Nat)

namespace Tree

/-- How far the tokens are read. -/
structure Reading where
  tokens : List Token
  /-- What is wrong with the text after the tokens. -/
  fault : Option Fault := none
  stackLimit : Option Nat := none
  /-- The number of collections that the next node is inside of. -/
  depth : Nat := 0
  /-- The number of collections met. -/
  count : Nat := 0
  /-- What the aliases of anchors stand for. -/
  anchors : List (String × Tree) := []
  /-- The collections with anchors by their numbers. -/
  nodes : Entries Nat Tree := []
  /-- What the handles of tags stand for. -/
  handles : List (String × String) := []

/-- A step of the reading. -/
abbrev Read := StateT Reading (Except Fault)

/-- The next token. -/
def peek : Read Token := fun r =>
  match r.tokens.head?, r.fault with
  | some t, _ => .ok (t, r)
  | none, some fault => .error fault
  | none, none => .ok (.streamEnd, r)

/-- Drops the next token. -/
def drop : Read Unit := fun r => .ok ((), { r with tokens := r.tokens.tail })

/-- Refuses the text. -/
def refuse (fault : FormFault) : Read α := throw (.form fault)

/-- Drops the next token if it is `t`. -/
def accept (t : Token) : Read Bool := do
  if (← peek) = t then
    drop
    return true
  else return false

/-- Drops the next token, which has to be `t`. -/
def expect (t : Token) : Read Unit := do
  if !(← accept t) then refuse .unexpectedToken

/-- The node that stands where there is none. -/
def missing : Tree := .scalar .null ""

/-- Remembers what the aliases of an anchor stand for. -/
def remember (anchor : Option String) (t : Tree) : Read Unit :=
  match anchor with
  | none => pure ()
  | some name => modify fun r => { r with anchors := (name, t) :: r.anchors }

/-- The node that an alias stands for. -/
def resolveAlias (name : String) : Read Tree := do
  match (← get).anchors.find? (·.1 = name) with
  | none => refuse (.undefinedAlias name)
  | some (_, t) => return t

/-- Reads a collection, given how to read what it holds. A collection takes two calls. -/
def collection (anchor : Option String) (holding : Nat → Read Tree) : Read Tree := do
  let r ← get
  if !fitsStack r.stackLimit (2 * (r.depth + 1)) then throw .stackExhausted
  set { r with depth := r.depth + 1, count := r.count + 1 }
  remember anchor (.alias r.count)
  let t ← holding r.count
  modify fun r => { r with depth := r.depth - 1 }
  if anchor.isSome then modify fun r' => { r' with nodes := r'.nodes ++ [(r.count, t)] }
  return t

/-- The full name of a tag. -/
def fullTag (t : WrittenTag) : Read String := do
  match t.handle with
  | none => return t.suffix
  | some handle =>
    match (← get).handles.find? (·.1 = handle) with
    | some (_, target) => return target ++ t.suffix
    | none => refuse (.undefinedTagHandle handle)

/-- The anchor and the tag in front of a node, in any order. -/
def properties : Read (Option String × Option WrittenTag) := do
  match ← peek with
  | .anchor name =>
    drop
    match ← peek with
    | .tag t =>
      drop
      return (some name, some t)
    | _ => return (some name, none)
  | .tag t =>
    drop
    match ← peek with
    | .anchor name =>
      drop
      return (some name, some t)
    | _ => return (none, some t)
  | _ => return (none, none)

/-- The type of a scalar with the given tag. -/
def scalarKind (tag : Option String) (plain : Bool) (text : String) : Kind :=
  match tag with
  | none => if plain then .ofPlain text else .text
  | some "!" => .ofPlain text
  | some tag => .ofTag tag

/-- The type of a scalar with the given tag that is no text of characters. -/
def surrogatesKind (tag : Option String) : Kind :=
  match tag with
  | none | some "!" => .text
  | some tag => .ofTag tag

/-- The type of a collection with the given tag. -/
def collectionKind (tag : Option String) (usual : Kind) : Kind :=
  match tag with
  | none | some "!" => usual
  | some tag => .ofTag tag

/-- An empty node, which has to have an anchor or a tag. -/
def empty (anchor tag : Option String) : Read Tree := do
  if anchor.isNone && tag.isNone then refuse .unexpectedToken
  let t := Tree.scalar (scalarKind tag true "") ""
  remember anchor t
  return t

mutual

/-- A node. In block context it can be a block collection; as the key or value of a block mapping
it can also be a sequence that is not indented. -/
def node (block unindented : Bool) : Nat → Read Tree
  | 0 => refuse .unexpectedToken
  | fuel + 1 => do
    if let .alias name ← peek then
      drop
      return ← resolveAlias name
    let (anchor, written) ← properties
    let tag ← match written with
      | none => pure none
      | some t => some <$> fullTag t
    if let some name := anchor then
      if (← get).anchors.any (·.1 = name) then refuse (.repeatedAnchor name)
    let sequence (items : Read (List Tree)) : Read Tree :=
      collection anchor fun number => .sequence number (collectionKind tag .sequence) <$> items
    let table (entries : Read (List (Tree × Tree))) : Read Tree :=
      collection anchor fun number => .mapping number (collectionKind tag .mapping) <$> entries
    match ← peek with
    | .scalar plain text =>
      drop
      let t := Tree.scalar (scalarKind tag plain text) text
      remember anchor t
      return t
    | .surrogates codes =>
      drop
      let t := Tree.surrogates (surrogatesKind tag) codes
      remember anchor t
      return t
    | .flowSequenceStart =>
      drop
      sequence (flowItems true fuel)
    | .flowMappingStart =>
      drop
      table (flowEntries true fuel)
    | .blockEntry =>
      if unindented then sequence (unindentedItems fuel)
      else empty anchor tag
    | .blockSequenceStart =>
      if block then
        drop
        sequence (blockItems fuel)
      else empty anchor tag
    | .blockMappingStart =>
      if block then
        drop
        table (blockEntries fuel)
      else empty anchor tag
    | _ => empty anchor tag

/-- The items of a block sequence. -/
def blockItems : Nat → Read (List Tree)
  | 0 => refuse .unexpectedToken
  | fuel + 1 => do
    if ← accept .blockEntry then
      let t ← match ← peek with
        | .blockEntry | .blockEnd => pure missing
        | _ => node true false fuel
      return t :: (← blockItems fuel)
    else
      expect .blockEnd
      return []

/-- The items of a sequence that is not indented. -/
def unindentedItems : Nat → Read (List Tree)
  | 0 => refuse .unexpectedToken
  | fuel + 1 => do
    if ← accept .blockEntry then
      let t ← match ← peek with
        | .blockEntry | .key | .value | .blockEnd => pure missing
        | _ => node true false fuel
      return t :: (← unindentedItems fuel)
    else return []

/-- A key or value of a block mapping after its indicator. -/
def blockMember : Nat → Read Tree
  | 0 => refuse .unexpectedToken
  | fuel + 1 => do
    match ← peek with
    | .key | .value | .blockEnd => return missing
    | _ => node true true fuel

/-- The entries of a block mapping. -/
def blockEntries : Nat → Read (List (Tree × Tree))
  | 0 => refuse .unexpectedToken
  | fuel + 1 => do
    if ← accept .blockEnd then return []
    expect .key
    let k ← blockMember fuel
    let v ← if ← accept .value then blockMember fuel else pure missing
    return (k, v) :: (← blockEntries fuel)

/-- A key or value between brackets after its indicator. -/
def flowMember (isKey : Bool) (close : Token) : Nat → Read Tree
  | 0 => refuse .unexpectedToken
  | fuel + 1 => do
    let t ← peek
    if t = .flowEntry || t = close || (isKey && t = .value) then return missing
    else node false false fuel

/-- The value of a key between brackets, if there is one. -/
def flowValue (close : Token) : Nat → Read Tree
  | 0 => refuse .unexpectedToken
  | fuel + 1 => do
    if ← accept .value then flowMember false close fuel else return missing

/-- The items of a flow sequence. A key in it makes a mapping with one entry. -/
def flowItems (first : Bool) : Nat → Read (List Tree)
  | 0 => refuse .unexpectedToken
  | fuel + 1 => do
    if ← accept .flowSequenceEnd then return []
    if !first then expect .flowEntry
    if ← accept .flowSequenceEnd then return []
    if ← accept .key then
      let t ← collection none fun number => do
        let k ← flowMember true .flowSequenceEnd fuel
        let v ← flowValue .flowSequenceEnd fuel
        return .mapping number .mapping [(k, v)]
      return t :: (← flowItems false fuel)
    let t ← node false false fuel
    return t :: (← flowItems false fuel)

/-- The entries of a flow mapping. An item without a key indicator is a key without a value. -/
def flowEntries (first : Bool) : Nat → Read (List (Tree × Tree))
  | 0 => refuse .unexpectedToken
  | fuel + 1 => do
    if ← accept .flowMappingEnd then return []
    if !first then expect .flowEntry
    if ← accept .flowMappingEnd then return []
    if ← accept .key then
      let k ← flowMember true .flowMappingEnd fuel
      let v ← flowValue .flowMappingEnd fuel
      return (k, v) :: (← flowEntries false fuel)
    let k ← node false false fuel
    return (k, missing) :: (← flowEntries false fuel)

end

/-- The handles that are known without a directive. -/
def defaultHandles : List (String × String) := [("!", "!"), ("!!", "tag:yaml.org,2002:")]

/-- The directives before a document; at most one states the version. -/
def directives : Bool → Nat → Read Unit
  | _, 0 => refuse .unexpectedToken
  | versioned, fuel + 1 => do
    match ← peek with
    | .version major =>
      drop
      if versioned then refuse .repeatedDirective
      if major ≠ 1 then refuse .incompatibleVersion
      directives true fuel
    | .tagPrefix handle target =>
      drop
      if (← get).handles.any (·.1 = handle) then refuse .repeatedDirective
      modify fun r => { r with handles := r.handles ++ [(handle, target)] }
      directives versioned fuel
    | .otherDirective =>
      drop
      directives versioned fuel
    | _ => return ()

/-- Drops document ends. -/
def skipDocumentEnds : Nat → Read Unit
  | 0 => return ()
  | fuel + 1 => do if ← accept .documentEnd then skipDocumentEnds fuel

/-- The content of a document after its start. -/
def documentContent (fuel : Nat) : Read Tree := do
  match ← peek with
  | .version _ | .tagPrefix _ _ | .otherDirective | .documentStart | .documentEnd | .streamEnd =>
    return missing
  | _ => node true false fuel

/-- The only document of a text, if there is one. -/
def document (fuel : Nat) : Read (Option Tree) := do
  let known := modify fun r => { r with handles := r.handles ++ defaultHandles }
  let t ← match ← peek with
    | .streamEnd => pure none
    | .version _ | .tagPrefix _ _ | .otherDirective | .documentStart => do
      directives false fuel
      known
      expect .documentStart
      some <$> documentContent fuel
    | _ => do
      known
      some <$> node true false fuel
  skipDocumentEnds fuel
  if (← peek) ≠ .streamEnd then refuse .severalDocuments
  return t

/-- The tree of a text, if it holds a document, and its collections with anchors. -/
def ofText (text : String) (stackLimit : Option Nat) :
    Except Fault (Option Tree × Entries Nat Tree) := do
  let (ts, fault) := Yaml.tokens text
  let (t, r) ← StateT.run (document (8 * ts.length + 16)) { tokens := ts, fault, stackLimit }
  return (t, r.nodes)

end Tree

end MarkdownTree.Yaml
