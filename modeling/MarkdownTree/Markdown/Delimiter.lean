import MarkdownTree.Syntax.Token
import MarkdownTree.Text.Punctuation
import MarkdownTree.Text.Whitespace

/-!
# Delimiters

Each mark of emphasis and each pair of tildes is a delimiter, which may open or close something.
Openers and closers are paired, and the texts of the pairs become tokens that open and close.
-/

namespace MarkdownTree.Markdown

open Syntax (Token)

/-- A mark that may open or close emphasis or struck out text. -/
structure Delimiter where
  mark : Char
  /-- The number of marks in the run it stands in; zero where runs of any length match. -/
  runLength : Nat
  /-- The place of its token. -/
  token : Nat
  opens : Bool
  closes : Bool
  /-- The place of the delimiter that closes what this one opens. -/
  partner : Option Nat := none
  deriving Inhabited

/-- What stands beside a run of marks decides whether it can open and whether it can close. Marks
that split words can do so inside a word. -/
def flanking (before after : Char) (splitsWords : Bool) : Bool × Bool :=
  let spaceBefore := Text.isFlankingSpace before
  let spaceAfter := Text.isFlankingSpace after
  let punctuationBefore := Text.isPunctuation before
  let punctuationAfter := Text.isPunctuation after
  let left := !(spaceAfter || (punctuationAfter && !(spaceBefore || punctuationBefore)))
  let right := !(spaceBefore || (punctuationBefore && !(spaceAfter || punctuationAfter)))
  (left && (splitsWords || !right || punctuationBefore),
    right && (splitsWords || !left || punctuationAfter))

/-- Whether the lengths of two runs keep their delimiters apart: one of them can both open and
close, the sum is a multiple of three, and not both lengths are. -/
def lengthsClash (opener closer : Delimiter) : Bool :=
  (opener.closes || closer.opens) && (opener.runLength + closer.runLength) % 3 == 0 &&
    (opener.runLength % 3 != 0 || closer.runLength % 3 != 0)

/-- The state of pairing. -/
structure Pairing where
  delimiters : Array Delimiter
  /-- How many delimiters before each one need not be looked at again. -/
  jumps : Array Nat := #[]
  /-- The first delimiter of the run that is being read. -/
  runStart : Nat := 0
  /-- The token after which the run goes on. -/
  runToken : Option Nat := none
  /-- Below which place no opener is left, for a mark, whether the closer can open, and its length
  modulo three. -/
  bottoms : Entries (Char × Bool × Nat) Int := []

namespace Pairing

def delimiter (p : Pairing) (i : Nat) : Delimiter := (p.delimiters[i]?).getD default

def jump (p : Pairing) (i : Nat) : Nat := (p.jumps[i]?).getD 0

/-- Looks for the opener of `closer` from place `i` down to the one above `bottom`. -/
def opener? (p : Pairing) (closer : Delimiter) (bottom : Int) : (steps : Nat) → (i : Int) →
    Option Nat
  | 0, _ => none
  | steps + 1, i =>
    if i ≤ bottom ∨ i < 0 then none
    else
      let d := p.delimiter i.toNat
      if d.mark = closer.mark ∧ d.opens ∧ d.partner.isNone ∧ !lengthsClash d closer then some i.toNat
      else opener? p closer bottom steps (i - p.jump i.toNat - 1)

/-- Joins the delimiter at place `i` to its run. -/
def enter (p : Pairing) (i : Nat) : Pairing :=
  let d := p.delimiter i
  let goesOn := (p.delimiter p.runStart).mark = d.mark ∧ p.runToken.any (· + 1 = d.token)
  { p with jumps := p.jumps.push 0, runStart := if goesOn then p.runStart else i,
           runToken := some d.token }

/-- Pairs the closer at place `i` with the opener at place `o`. What lies between them is not
looked at again, nor is the run before the opener if it cannot open. -/
def join (p : Pairing) (o i : Nat) : Pairing :=
  let before := if 0 < o ∧ !(p.delimiter (o - 1)).opens then p.jump (o - 1) + 1 else 0
  let delimiters := (p.delimiters.modify i ({ · with opens := false })).modify o
    ({ · with partner := some i, closes := false })
  { p with delimiters, jumps := (p.jumps.setIfInBounds i (i - o + before)).setIfInBounds o before,
           runToken := none }

/-- Reads the delimiter at place `i`. -/
def step (p : Pairing) (i : Nat) : Pairing :=
  let p := p.enter i
  let d := p.delimiter i
  if !d.closes then p
  else
    let key := (d.mark, d.opens, d.runLength % 3)
    let bottom := (Entries.get? p.bottoms key).getD (-1)
    let start : Int := (p.runStart : Int) - p.jump p.runStart - 1
    match p.opener? d bottom (i + 1) start with
    | some o => p.join o i
    | none => { p with bottoms := if start = -1 then p.bottoms else Entries.set p.bottoms key start }

end Pairing

/-- Pairs delimiters. -/
def pairDelimiters (ds : Array Delimiter) : Array Delimiter :=
  ((List.range ds.size).foldl Pairing.step { delimiters := ds }).delimiters

/-- Makes the token at place `i` open or close an element. -/
def setMark (tokens : Array Token) (i : Nat) (kind tag : String) (nesting : Int) : Array Token :=
  tokens.modify i fun t =>
    { t with kind := kind ++ (if nesting = 1 then "_open" else "_close"), tag, nesting,
             content := some "" }

/-- Makes the token at place `i` empty. -/
def emptyToken (tokens : Array Token) (i : Nat) : Array Token :=
  tokens.modify i ({ · with content := some "" })

/-- Whether the token at place `i` is a single tilde. -/
def isLoneTilde (tokens : Array Token) (i : Nat) : Bool :=
  (tokens[i]?).any fun t => t.kind = "text" && t.content = some "~"

/-- The last of the tokens from place `i` on that close struck out text, `i - 1` if there is none. -/
def lastStrikeEnd (tokens : Array Token) : (steps i : Nat) → Nat
  | 0, i => i - 1
  | steps + 1, i =>
    if (tokens[i]?).any (·.kind = "s_close") then lastStrikeEnd tokens steps (i + 1) else i - 1

/-- Moves a single tilde behind the tokens that close struck out text. -/
def moveTilde (tokens : Array Token) (i : Nat) : Array Token :=
  tokens.swapIfInBounds i (lastStrikeEnd tokens tokens.size (i + 1))

/-- Puts tokens for struck out text in the place of paired tildes. -/
def markStrikes (tokens : Array Token) (ds : Array Delimiter) : Array Token :=
  let pairs := ds.toList.filterMap fun d =>
    if d.mark = '~' then
      d.partner.map fun e => (d.token, ((ds[e]?).getD default).token)
    else none
  let (tokens, tildes) := pairs.foldl (fun (tokens, tildes) (o, c) =>
    let tokens := setMark (setMark tokens o "s" "s" 1) c "s" "s" (-1)
    (tokens, if isLoneTilde tokens (c - 1) then (c - 1) :: tildes else tildes)) (tokens, [])
  tildes.foldl moveTilde tokens

/-- Puts tokens for emphasis in the place of paired marks, from the delimiter before place `i`
down. Two neighbouring pairs make one strong emphasis. -/
def markEmphasis (ds : Array Delimiter) : (i : Nat) → Array Token → Array Token
  | 0, tokens => tokens
  | i + 1, tokens =>
    let d := (ds[i]?).getD default
    match if d.mark = '*' ∨ d.mark = '_' then d.partner else none with
    | none => markEmphasis ds i tokens
    | some e =>
      let close := (ds[e]?).getD default
      let outer := (ds[i - 1]?).getD default
      let outerClose := (ds[e + 1]?).getD default
      let isStrong := 0 < i ∧ outer.partner = some (e + 1) ∧ outer.mark = d.mark ∧
        outer.token + 1 = d.token ∧ outerClose.token = close.token + 1
      if isStrong then
        let tokens := setMark (setMark tokens d.token "strong" "strong" 1) close.token "strong"
          "strong" (-1)
        markEmphasis ds (i - 1) (emptyToken (emptyToken tokens outer.token) outerClose.token)
      else
        markEmphasis ds i
          (setMark (setMark tokens d.token "em" "em" 1) close.token "em" "em" (-1))
termination_by i => i
decreasing_by
  · exact Nat.lt_succ_self _
  · exact Nat.lt_succ_of_le (Nat.sub_le _ _)
  · exact Nat.lt_succ_self _

/-- Joins neighbouring texts. -/
def joinTextTokens : List Token → List Token
  | [] => []
  | t :: ts =>
    match joinTextTokens ts with
    | [] => [t]
    | u :: us =>
      if t.kind = "text" ∧ u.kind = "text" then
        { u with content := some (t.content.getD "" ++ u.content.getD "") } :: us
      else t :: u :: us

/-- The tokens with all delimiters in the given groups turned into tokens of their own. Delimiters
of different groups are not paired with each other. -/
def markDelimiters (tokens : Array Token) (groups : List (Array Delimiter)) : List Token :=
  let groups := groups.map pairDelimiters
  let tokens := groups.foldl markStrikes tokens
  let tokens := groups.foldl (fun tokens ds => markEmphasis ds ds.size tokens) tokens
  joinTextTokens tokens.toList

end MarkdownTree.Markdown
