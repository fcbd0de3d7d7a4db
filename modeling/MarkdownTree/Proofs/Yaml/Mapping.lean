import Mathlib.Control.Monad.Basic
import MarkdownTree.Yaml.Data

/-!
# Mappings of quoted texts

A text whose tokens are those of a mapping with quoted keys and values holds this mapping
(`Data.ofText_quoted`): quoted scalars are texts whatever they spell, and entries with different
keys are kept in their order. The induction is on the entries. A reading gives up at its bound on
steps, so what is read is stated for every bound that is large enough.
-/

namespace MarkdownTree.Yaml

namespace Tree

variable {r q : Reading} {ts : List Token} {fuel : Nat} {t : Tree}

theorem ok_bind {α β ε : Type} (a : α) (f : α → Except ε β) : (Except.ok a >>= f) = f a := rfl

theorem run_peek (next : Token) :
    peek.run { r with tokens := next :: ts } = .ok (next, { r with tokens := next :: ts }) :=
  rfl

/-- A collection without an anchor is what it holds, if there is room for it. -/
theorem collection_none (r : Reading) (holding : Nat → Read Tree)
    (room : fitsStack r.stackLimit (2 * (r.depth + 1)) = true)
    (held : (holding r.count).run { r with depth := r.depth + 1, count := r.count + 1 } =
      .ok (t, q)) :
    (collection none holding).run r = .ok (t, { q with depth := q.depth - 1 }) := by
  simp [collection, room, remember, held]

/-- The tokens of an entry whose key and value are quoted. -/
def entryTokens (e : String × String) : List Token :=
  [.key, .scalar false e.1, .value, .scalar false e.2]

/-- The nodes of an entry whose key and value are quoted. -/
def entryNodes (e : String × String) : Tree × Tree := (.scalar .text e.1, .scalar .text e.2)

theorem blockEntries_quoted (r : Reading) (ts : List Token) {es : List (String × String)}
    (enough : es.length + 2 < fuel) :
    (blockEntries fuel).run { r with tokens := es.flatMap entryTokens ++ .blockEnd :: ts } =
      .ok (es.map entryNodes, { r with tokens := ts }) := by
  induction es generalizing fuel with
  | nil =>
    obtain ⟨fuel, rfl⟩ := Nat.exists_eq_add_of_lt enough
    rfl
  | cons e es ih =>
    rw [List.length_cons] at enough
    obtain ⟨fuel, rfl⟩ : ∃ k, fuel = k + 3 := ⟨fuel - 3, by omega⟩
    have rest := ih (show es.length + 2 < fuel + 2 by omega)
    calc
      _ = (blockEntries (fuel + 2)).run
            { r with tokens := es.flatMap entryTokens ++ .blockEnd :: ts } >>= fun x =>
          .ok (entryNodes e :: x.1, x.2) := rfl
      _ = _ := by
        rw [rest]
        rfl

theorem node_quoted (r : Reading) (ts : List Token) {es : List (String × String)}
    (unindented : Bool)
    (room : fitsStack r.stackLimit (2 * (r.depth + 1)) = true) (enough : es.length + 2 < fuel) :
    (node true unindented (fuel + 1)).run
        { r with tokens := .blockMappingStart :: (es.flatMap entryTokens ++ .blockEnd :: ts) } =
      .ok (.mapping r.count .mapping (es.map entryNodes),
        { r with tokens := ts, count := r.count + 1 }) := by
  have entries : (Tree.mapping r.count .mapping <$> blockEntries fuel).run
      { r with tokens := es.flatMap entryTokens ++ .blockEnd :: ts
               depth := r.depth + 1, count := r.count + 1 } =
        .ok (Tree.mapping r.count .mapping (es.map entryNodes),
          { r with tokens := ts, depth := r.depth + 1, count := r.count + 1 }) := by
    rw [StateT.run_map,
      blockEntries_quoted { r with depth := r.depth + 1, count := r.count + 1 } ts enough]
    rfl
  exact collection_none { r with tokens := es.flatMap entryTokens ++ .blockEnd :: ts }
    (fun number => .mapping number .mapping <$> blockEntries fuel) room entries

theorem document_node (found : (node true false (fuel + 1)).run
      { r with tokens := .blockMappingStart :: ts, handles := r.handles ++ defaultHandles } =
        .ok (t, q)) (ended : q.tokens = [.streamEnd]) :
    (document (fuel + 1)).run { r with tokens := .blockMappingStart :: ts } = pure (some t, q) := by
  have last : peek.run q = .ok (.streamEnd, q) := by
    obtain ⟨_⟩ := q
    cases ended
    rfl
  simp [document, skipDocumentEnds, accept, run_peek, ok_bind, found, last]

theorem length_entryTokens (es : List (String × String)) :
    (es.flatMap entryTokens).length = 4 * es.length := by
  induction es with
  | nil => rfl
  | cons e es ih =>
    rw [List.flatMap_cons, List.length_append, ih, List.length_cons]
    change 4 + 4 * es.length = _
    omega

/-- The tree of a text with the tokens of a mapping whose keys and values are quoted. Only the end
of the text follows the mapping. -/
theorem ofText_quoted {text : String} {es : List (String × String)}
    (tokens : Yaml.tokens text =
      (.blockMappingStart :: (es.flatMap entryTokens ++ [.blockEnd, .streamEnd]), none)) :
    ofText text usualStackLimit = .ok (some (.mapping 0 .mapping (es.map entryNodes)), []) := by
  have room : fitsStack usualStackLimit 2 = true := by decide
  have bound : 8 * (Token.blockMappingStart ::
      (es.flatMap entryTokens ++ [.blockEnd, .streamEnd])).length + 16 =
        32 * es.length + 39 + 1 := by
    simp only [List.length_cons, List.length_append, List.length_nil, length_entryTokens]
    omega
  have node := node_quoted
    { tokens := [], stackLimit := usualStackLimit, handles := defaultHandles } [.streamEnd] false
    room (show es.length + 2 < 32 * es.length + 39 by omega)
  rw [ofText, tokens]
  dsimp only
  rw [bound, document_node (r := { tokens := [], stackLimit := usualStackLimit }) node rfl]
  rfl

end Tree

namespace Data

variable {nodes : Entries Nat Tree} {es : List (String × String)}

/-- The data of an entry whose key and value are quoted. -/
def entryData (e : String × String) : Data × Data := (.text e.1, .text e.2)

/-- Entries with quoted keys are the entries of the mapping itself. -/
theorem ownEntries_quoted :
    ownEntries nodes (es.map Tree.entryNodes) = es.map Tree.entryNodes := by
  have kept : (es.map Tree.entryNodes).filter (fun e => kindOf nodes e.1 ≠ .merge) =
      es.map Tree.entryNodes := by
    rw [List.filter_eq_self, List.forall_mem_map]
    exact fun _ _ => rfl
  rw [ownEntries, kept, List.map_map]
  rfl

/-- Nothing is merged into them. -/
theorem flatten_quoted (fuel number : Nat) :
    flatten nodes (fuel + 1) [] number (es.map Tree.entryNodes) = .ok (es.map Tree.entryNodes) := by
  have none : (es.map Tree.entryNodes).filter (fun e => kindOf nodes e.1 = .merge) = [] := by
    rw [List.filter_eq_nil_iff, List.forall_mem_map]
    exact fun _ _ h => nomatch h
  rw [flatten, none, ownEntries_quoted]
  rfl

theorem all_map_ok {α β : Type} (f : α → β) (xs : List α) :
    Found.all (xs.map fun x => .ok (f x)) = .ok (xs.map f) := by
  induction xs with
  | nil => rfl
  | cons x xs ih =>
    rw [List.map_cons, Found.all, ih]
    rfl

/-- A new key is put at the end. -/
theorem setEntry_text {k : String} {v : Data} {es : List (String × String)}
    (fresh : k ∉ es.map Prod.fst) :
    setEntry (.text k) v (es.map entryData) = es.map entryData ++ [(.text k, v)] := by
  induction es with
  | nil => rfl
  | cons e es ih =>
    rw [List.map_cons, List.mem_cons, not_or] at fresh
    have other : sameKey (.text e.1) (.text k) = false := by
      simpa [sameKey, integral?] using Ne.symm fresh.1
    rw [List.map_cons, entryData, setEntry, other, ih fresh.2]
    rfl

theorem foldl_setEntry (es es' : List (String × String))
    (distinct : ((es ++ es').map Prod.fst).Nodup) :
    (es'.map entryData).foldl (fun acc e => setEntry e.1 e.2 acc) (es.map entryData) =
      (es ++ es').map entryData := by
  induction es' generalizing es with
  | nil => rw [List.map_nil, List.foldl_nil, List.append_nil]
  | cons e es' ih =>
    rw [List.append_cons] at distinct ⊢
    have fresh : e.1 ∉ es.map Prod.fst := by
      rw [List.map_append, List.map_append, List.append_assoc] at distinct
      exact fun there => (List.nodup_append.1 distinct).2.2 _ there _ List.mem_cons_self rfl
    have added : setEntry (entryData e).1 (entryData e).2 (es.map entryData) =
        (es ++ [e]).map entryData := by
      rw [List.map_append]
      exact setEntry_text fresh
    rw [List.map_cons, List.foldl_cons, added, ih _ distinct]

/-- A mapping with different quoted keys is filled in the order of its entries. -/
theorem ofTree_quoted (fuel number : Nat) (distinct : (es.map Prod.fst).Nodup) :
    ofTree nodes (fuel + 2) [] (.mapping number .mapping (es.map Tree.entryNodes)) =
      .ok (.mapping (es.map entryData)) := by
  have pairs : Found.all ((es.map Tree.entryNodes).map fun e => Found.both
      (ofKey nodes (ofTree nodes (fuel + 1) [number]) e.1) (ofTree nodes (fuel + 1) [number] e.2)) =
        .ok (es.map entryData) := by
    rw [List.map_map]
    exact all_map_ok entryData es
  calc
    _ = Except.map Data.mapping (Found.below do
          let es ← (flatten nodes (fuel + 2) [] number (es.map Tree.entryNodes)).mapError (0, ·)
          let pairs ← Found.all (es.map fun e => Found.both
            (ofKey nodes (ofTree nodes (fuel + 1) [number]) e.1)
            (ofTree nodes (fuel + 1) [number] e.2))
          return pairs.foldl (fun acc e => setEntry e.1 e.2 acc) []) := rfl
    _ = Except.map Data.mapping (.ok ((es.map entryData).foldl
          (fun acc e => setEntry e.1 e.2 acc) ([].map entryData))) := by
      rw [flatten_quoted]
      change Except.map Data.mapping (Found.below (Found.all _ >>= _)) = _
      rw [pairs]
      rfl
    _ = .ok (.mapping (es.map entryData)) := by
      rw [foldl_setEntry [] es distinct]
      rfl

/-- A text with the tokens of a mapping whose keys and values are quoted holds that mapping. -/
theorem ofText_quoted {text : String}
    (tokens : Yaml.tokens text =
      (.blockMappingStart :: (es.flatMap Tree.entryTokens ++ [.blockEnd, .streamEnd]), none))
    (distinct : (es.map Prod.fst).Nodup) :
    ofText text = .ok (.mapping (es.map entryData)) := by
  rw [ofText, Tree.ofText_quoted tokens]
  change Except.mapError _ _ = _
  rw [ofTree_quoted _ _ distinct]
  rfl

end Data

end MarkdownTree.Yaml
