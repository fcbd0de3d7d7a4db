import MarkdownTree.Proofs.Syntax.Content

/-!
# The alignments that styles name

The builder finds the alignment of a cell by going through its style. `Named` says what it finds
without going through anything: a word behind a mark and any blanks, where the mark stands as far to
the front as possible.
-/

namespace MarkdownTree.Syntax

variable {style before word : List Char}

/-- The text in front of the name of an alignment. -/
def alignmentMark : List Char := "text-align:".toList

/-- Behind `before` the style has the mark, any blanks and the word, which ends where no character
of a word follows. -/
def NamedAt (style before word : List Char) : Prop :=
  ∃ blanks after, style = before ++ (alignmentMark ++ (blanks ++ (word ++ after))) ∧
    (∀ b ∈ blanks, Text.isBlank b = true) ∧ (∀ c ∈ (word ++ after).head?, Text.isBlank c = false) ∧
    word ≠ [] ∧ (∀ c ∈ word, Text.isWordCharacter c = true) ∧
    ∀ c ∈ after.head?, Text.isWordCharacter c = false

/-- The alignment that a style names: the word at the first place where there is one. -/
def Names (style : List Char) : Option String → Prop
  | some word => ∃ before, NamedAt style before word.toList ∧
      ∀ before' word', NamedAt style before' word' → before.length ≤ before'.length
  | none => ∀ before word, ¬NamedAt style before word

theorem namedAt_nil_iff :
    NamedAt style [] word ↔ alignmentMark <+: style ∧ word ≠ [] ∧
      word = ((style.drop alignmentMark.length).dropWhile Text.isBlank).takeWhile
        Text.isWordCharacter := by
  constructor
  · rintro ⟨blanks, after, rfl, blank, start, nonempty, all, stop⟩
    rw [List.nil_append, List.drop_left, (takeWhile_dropWhile_of_span blank start).2,
      (takeWhile_dropWhile_of_span all stop).1]
    exact ⟨List.prefix_append .., nonempty, rfl⟩
  · rintro ⟨⟨rest, rfl⟩, nonempty, rfl⟩
    rw [List.drop_left] at nonempty ⊢
    let behind := rest.dropWhile Text.isBlank
    refine ⟨rest.takeWhile Text.isBlank, behind.dropWhile Text.isWordCharacter, ?_, ?_, ?_,
      nonempty, ?_, head?_dropWhile_eq_false Text.isWordCharacter behind⟩
    · rw [List.takeWhile_append_dropWhile, List.takeWhile_append_dropWhile, List.nil_append]
    · exact fun b hb => List.mem_takeWhile_imp hb
    · rw [List.takeWhile_append_dropWhile]
      exact head?_dropWhile_eq_false Text.isBlank rest
    · exact fun c hc => List.mem_takeWhile_imp hc

/-- The condition under which the builder stops. -/
theorem exists_namedAt_nil_iff :
    (∃ word, NamedAt style [] word) ↔ alignmentMark.isPrefixOf style ∧
      !(((style.drop alignmentMark.length).dropWhile Text.isBlank).takeWhile
        Text.isWordCharacter).isEmpty := by
  simp only [namedAt_nil_iff, List.isPrefixOf_iff_prefix, Bool.not_eq_true',
    List.isEmpty_eq_false_iff]
  exact ⟨fun ⟨_, mark, nonempty, same⟩ => ⟨mark, same ▸ nonempty⟩,
    fun ⟨mark, nonempty⟩ => ⟨_, mark, nonempty, rfl⟩⟩

theorem not_namedAt_nil : ¬NamedAt [] before word := by
  rintro ⟨blanks, after, empty, _⟩
  have mark : alignmentMark ≠ [] := by decide
  rw [List.nil_eq, List.append_eq_nil_iff, List.append_eq_nil_iff] at empty
  exact mark empty.2.1

theorem namedAt_cons_iff {c : Char} {cs : List Char} :
    NamedAt (c :: cs) before word ↔
      before = [] ∧ NamedAt (c :: cs) [] word ∨
        ∃ rest, before = c :: rest ∧ NamedAt cs rest word := by
  cases before with
  | nil => simp
  | cons b rest =>
    constructor
    · rintro ⟨blanks, after, same, more⟩
      rw [List.cons_append] at same
      obtain ⟨rfl, tail⟩ := List.cons.inj same
      exact .inr ⟨rest, rfl, blanks, after, tail, more⟩
    · rintro (⟨h, _⟩ | ⟨_, h, blanks, after, rfl, more⟩)
      · cases h
      · cases h
        exact ⟨blanks, after, rfl, more⟩

/-- In one place of a style there is at most one word. -/
theorem NamedAt.unique {word' : List Char} (h : NamedAt style before word)
    (h' : NamedAt style before word') : word = word' := by
  induction before generalizing style with
  | nil => exact (namedAt_nil_iff.1 h).2.2.trans (namedAt_nil_iff.1 h').2.2.symm
  | cons b rest ih =>
    cases style with
    | nil => exact absurd h not_namedAt_nil
    | cons c cs =>
      obtain ⟨⟨⟩, _⟩ | ⟨_, ⟨⟩, later⟩ := namedAt_cons_iff.1 h
      obtain ⟨⟨⟩, _⟩ | ⟨_, ⟨⟩, later'⟩ := namedAt_cons_iff.1 h'
      exact ih later later'

/-- A style names at most one alignment. -/
theorem Names.unique {name name' : Option String} (h : Names style name)
    (h' : Names style name') : name = name' := by
  cases name with
  | none =>
    cases name' with
    | none => rfl
    | some word =>
      obtain ⟨before, named, _⟩ := h'
      exact absurd named (h before _)
  | some word =>
    obtain ⟨before, named, least⟩ := h
    cases name' with
    | none => exact absurd named (h' before _)
    | some word' =>
      obtain ⟨before', named', least'⟩ := h'
      have length := Nat.le_antisymm (least _ _ named') (least' _ _ named)
      obtain ⟨_, _, same, _⟩ := id named
      obtain ⟨_, _, same', _⟩ := id named'
      obtain rfl := (List.append_inj (same.symm.trans same') length).1
      rw [String.toList_injective (named.unique named')]

theorem alignmentIn_of_named {c : Char} {cs : List Char} (h : NamedAt (c :: cs) [] word) :
    alignmentIn (c :: cs) = some (String.ofList word) := by
  obtain ⟨_, _, same⟩ := namedAt_nil_iff.1 h
  rw [alignmentIn, same]
  exact if_pos (exists_namedAt_nil_iff.1 ⟨word, h⟩)

theorem alignmentIn_of_not_named {c : Char} {cs : List Char}
    (h : ∀ word, ¬NamedAt (c :: cs) [] word) : alignmentIn (c :: cs) = alignmentIn cs := by
  rw [alignmentIn]
  exact if_neg fun found => not_exists.2 h (exists_namedAt_nil_iff.2 found)

/-- Going through a style finds the alignment that it names. -/
theorem names_alignmentIn (style : List Char) : Names style (alignmentIn style) := by
  induction style with
  | nil => exact fun _ _ => not_namedAt_nil
  | cons c cs ih =>
    by_cases found : ∃ word, NamedAt (c :: cs) [] word
    · obtain ⟨word, first⟩ := found
      rw [alignmentIn_of_named first]
      exact ⟨[], by rwa [String.toList_ofList], fun _ _ _ => Nat.zero_le _⟩
    · rw [alignmentIn_of_not_named (not_exists.1 found)]
      cases name : alignmentIn cs with
      | none =>
        rw [name] at ih
        intro before word named
        obtain ⟨_, first⟩ | ⟨rest, _, later⟩ := namedAt_cons_iff.1 named
        · exact found ⟨word, first⟩
        · exact ih rest word later
      | some word =>
        rw [name] at ih
        obtain ⟨before, named, least⟩ := ih
        refine ⟨c :: before, namedAt_cons_iff.2 (.inr ⟨before, rfl, named⟩), ?_⟩
        intro before' word' named'
        obtain ⟨_, first⟩ | ⟨rest, rfl, later⟩ := namedAt_cons_iff.1 named'
        · exact absurd ⟨word', first⟩ found
        · exact Nat.succ_le_succ (least rest word' later)

theorem names_iff {name : Option String} : Names style name ↔ alignmentIn style = name :=
  ⟨fun h => (names_alignmentIn style).unique h, fun h => h ▸ names_alignmentIn style⟩

end MarkdownTree.Syntax
