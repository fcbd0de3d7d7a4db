import MarkdownTree.Proofs.Files.Reading

/-!
# What is found

Below a directory everything is found whose name is that of a document, in the order of the parts of
the paths, and nothing twice. The name decides alone: a directory with such a name is found as well,
although it cannot be read. What is found is therefore exactly the files with such names if and only
if no directory below has one (`documents_discovered`).

A name is that of a document if it goes on before its suffix (`NamesDocument`), so a name that only
begins with a period has none.
-/

namespace MarkdownTree.Files

/-! ### Names of documents -/

/-- The name ends with the suffix of a document, and something stands before it. -/
def NamesDocument (name : String) : Prop :=
  ∃ stem ≠ "", name = stem ++ ".md" ∨ name = stem ++ ".mdx"

namespace Path

/-- The suffix begins at the last period. -/
theorem stemLength_append {stem extension : List Char} (begun : stem ≠ []) (more : extension ≠ [])
    (last : '.' ∉ extension) : stemLength (stem ++ '.' :: extension) = stem.length := by
  have after : ((stem ++ '.' :: extension).reverse.takeWhile (· ≠ '.')) = extension.reverse := by
    rw [List.reverse_append, List.reverse_cons, List.append_assoc,
      List.takeWhile_append_of_pos fun c member => ?_]
    · simp
    · simpa using fun same : c = '.' => last (same ▸ List.mem_reverse.1 member)
  have length : (stem ++ '.' :: extension).length = stem.length + 1 + extension.length := by
    simp only [List.length_append, List.length_cons]
    omega
  have := List.length_pos_iff.2 begun
  have := List.length_pos_iff.2 more
  rw [stemLength, after, List.length_reverse, length, if_pos (by omega)]
  omega

theorem stem_append_suffix (name : String) : stem name ++ suffix name = name := by
  rw [← String.toList_inj, String.toList_append, stem, suffix, String.toList_ofList,
    String.toList_ofList, List.take_append_drop]

/-- A period at the beginning of a name begins no suffix. -/
theorem stem_ne_empty {name : String} (named : name ≠ "") : stem name ≠ "" := by
  have characters : 0 < name.toList.length := List.length_pos_iff.2 (by simpa using named)
  have begun : 0 < stemLength name.toList := by
    unfold stemLength
    dsimp only
    split
    · next h => exact h.2.1
    · exact characters
  intro none
  have length := congrArg (·.toList.length) none
  rw [stem, String.toList_ofList, List.length_take] at length
  change _ = 0 at length
  omega

theorem suffix_eq_iff (name : String) (extension : List Char) (more : extension ≠ [])
    (last : '.' ∉ extension) :
    suffix name = String.ofList ('.' :: extension) ↔
      ∃ stem ≠ "", name = stem ++ String.ofList ('.' :: extension) := by
  constructor
  · intro same
    refine ⟨stem name, stem_ne_empty ?_, by rw [← same, stem_append_suffix]⟩
    rintro rfl
    simpa [suffix] using congrArg String.toList same
  · rintro ⟨stem, begun, rfl⟩
    have begun : stem.toList ≠ [] := by simpa using begun
    rw [suffix, String.toList_append, String.toList_ofList, stemLength_append begun more last,
      List.drop_left]

end Path

theorem isDocumentName_iff {name : String} : isDocumentName name = true ↔ NamesDocument name := by
  have md : Path.suffix name = ".md" ↔ ∃ stem ≠ "", name = stem ++ ".md" :=
    Path.suffix_eq_iff name ['m', 'd'] (by simp) (by decide)
  have mdx : Path.suffix name = ".mdx" ↔ ∃ stem ≠ "", name = stem ++ ".mdx" :=
    Path.suffix_eq_iff name ['m', 'd', 'x'] (by simp) (by decide)
  have either : isDocumentName name = true ↔
      Path.suffix name = ".md" ∨ Path.suffix name = ".mdx" := by
    simp [isDocumentName, documentSuffixes]
  rw [either]
  constructor
  · rintro (same | same)
    · obtain ⟨stem, begun, whole⟩ := md.1 same
      exact ⟨stem, begun, .inl whole⟩
    · obtain ⟨stem, begun, whole⟩ := mdx.1 same
      exact ⟨stem, begun, .inr whole⟩
  · rintro ⟨stem, begun, whole | whole⟩
    · exact .inl (md.2 ⟨stem, begun, whole⟩)
    · exact .inr (mdx.2 ⟨stem, begun, whole⟩)

instance : DecidablePred NamesDocument := fun _ => decidable_of_iff _ isDocumentName_iff

example : NamesDocument "a.tar.md" ∧ ¬ NamesDocument "a.md.txt" ∧ ¬ NamesDocument ".md" := by
  decide +kernel

/-! ### The order of paths -/

/-- Parts are compared character by character, and lists of them part by part. -/
theorem compare_eq_lt_iff (a b : List String) : compare a b = .lt ↔ a < b := by
  induction a generalizing b with
  | nil => cases b <;> simp
  | cons x a ih =>
    cases b with
    | nil => simp
    | cons y b =>
      have part : compare x y = .lt ↔ x < y := compareOfLessAndEq_eq_lt
      rw [List.compare_cons_cons, Ordering.then_eq_lt, List.cons_lt_cons_iff, ih, part,
        Std.compare_eq_iff_eq]

theorem isLE_or_isLE (a b : List String) : ((compare a b).isLE || (compare b a).isLE) = true := by
  have swapped : compare a b = (compare b a).swap := Std.OrientedCmp.eq_swap
  rw [swapped]
  cases compare b a <;> rfl

theorem lt_of_isLE {a b : List String} (le : (compare a b).isLE = true) (ne : a ≠ b) : a < b := by
  rw [← compare_eq_lt_iff]
  cases h : compare a b with
  | lt => rfl
  | eq => exact (ne (Std.compare_eq_iff_eq.1 h)).elim
  | gt =>
    rw [h] at le
    cases le

namespace Tree

variable {t : Tree} {p q : Path} {place : List String}

/-! ### What stands below a directory -/

/-- The path `q` goes on from the directory at `p` to something that stands below it, at any
depth. -/
def StandsBelow (t : Tree) (p q : Path) (c : Content) : Prop :=
  ∃ place rest, t.locate p = .ok place ∧ rest ≠ [] ∧
    q = { p with parts := p.parts ++ rest } ∧ t.content? (place ++ rest) = some c

/-- The path leads to what stands there. -/
theorem StandsBelow.at? (wf : t.WellFormed) {c : Content} (below : t.StandsBelow p q c) :
    t.at? q = some c := by
  obtain ⟨place, rest, found, nonempty, rfl, there⟩ := below
  rw [Tree.at?, wf.locate_below found there]
  exact there

/-! ### What is found -/

theorem discover_of_directory (found : t.locate p = .ok place)
    (directory : t.content? place = some .directory) :
    t.discover p = ((t.documentPlaces place).map fun q =>
      { p with parts := p.parts ++ q.drop place.length }).mergeSort fun a b =>
        (compare a.parts b.parts).isLE := by
  rw [discover, found]
  dsimp only
  rw [directory]

theorem discover_of_none (missing : t.at? p = none) : t.discover p = [] := by
  rw [Tree.at?] at missing
  rw [discover]
  cases found : t.locate p with
  | error e => rfl
  | ok place =>
    rw [found] at missing
    dsimp only at missing ⊢
    rw [missing]

theorem discover_of_file {bytes : ByteArray} (file : t.at? p = some (.file bytes)) :
    t.discover p = if NamesDocument p.name then [p] else [] := by
  obtain ⟨place, found, there⟩ := exists_locate file
  rw [discover, found]
  dsimp only
  rw [there]
  exact if_congr isDocumentName_iff rfl rfl

/-- Below a directory the name alone decides. -/
theorem mem_discover_iff (wf : t.WellFormed) (directory : t.at? p = some .directory) :
    q ∈ t.discover p ↔ NamesDocument q.name ∧ ∃ c, t.StandsBelow p q c := by
  obtain ⟨place, found, there⟩ := exists_locate directory
  rw [discover_of_directory found there, List.mem_mergeSort, List.mem_map]
  constructor
  · rintro ⟨listed, below, rfl⟩
    obtain ⟨member, rest, rfl, nonempty, document⟩ := mem_documentPlaces.1 below
    obtain ⟨_, ⟨c, stands⟩, _, _, named⟩ := leadsTo_of_below wf found nonempty member document
    rw [List.drop_left]
    exact ⟨isDocumentName_iff.1 named, c, place, rest, found, nonempty, rfl, stands⟩
  · rintro ⟨named, c, place', rest, found', nonempty, rfl, stands⟩
    obtain rfl : place = place' := Except.ok.inj (found.symm.trans found')
    refine ⟨place ++ rest, mem_documentPlaces.2 ⟨?_, rest, rfl, nonempty, ?_⟩, ?_⟩
    · exact mem_keys_of_content? (by simp [nonempty]) stands
    · rw [← isDocumentName_iff, Path.name, List.getLast?_append_of_ne_nil _ nonempty] at named
      rwa [List.getLast?_append_of_ne_nil _ nonempty]
    · rw [List.drop_left]

theorem sorted_discover (directory : t.at? p = some .directory) :
    (t.discover p).Pairwise fun a b => (compare a.parts b.parts).isLE := by
  obtain ⟨place, found, there⟩ := exists_locate directory
  rw [discover_of_directory found there]
  apply List.pairwise_mergeSort
  · intro a b c
    exact Std.TransOrd.isLE_trans
  · intro a b
    exact isLE_or_isLE a.parts b.parts

/-- Below a directory, paths with the same parts are the same. -/
theorem eq_of_parts (wf : t.WellFormed) (directory : t.at? p = some .directory) {q' : Path}
    (h : q ∈ t.discover p) (h' : q' ∈ t.discover p) (same : q.parts = q'.parts) : q = q' := by
  obtain ⟨_, _, _, _, _, _, rfl, _⟩ := (mem_discover_iff wf directory).1 h
  obtain ⟨_, _, _, _, _, _, rfl, _⟩ := (mem_discover_iff wf directory).1 h'
  exact congrArg _ same

/-- What is found is in the order of the parts, and nothing twice. -/
theorem pairwise_discover (wf : t.WellFormed) (p : Path) :
    (t.discover p).Pairwise (·.parts < ·.parts) := by
  cases there : t.at? p with
  | none =>
    rw [discover_of_none there]
    exact .nil
  | some c =>
    cases c with
    | file bytes =>
      rw [discover_of_file there]
      split
      · exact List.pairwise_singleton ..
      · exact .nil
    | directory =>
      refine ((sorted_discover there).and (nodup_discover wf p)).imp_of_mem ?_
      intro a b ha hb ⟨le, ne⟩
      exact lt_of_isLE le fun same => ne (eq_of_parts wf there ha hb same)

/-- What stands below with the name of a document, put in order, is what is found. -/
theorem discover_eq_of_perm (wf : t.WellFormed) (found : t.locate p = .ok place)
    (directory : t.content? place = some .directory) {listed : List Path}
    (perm : ((t.documentPlaces place).map fun q =>
      { p with parts := p.parts ++ q.drop place.length }).Perm listed)
    (sorted : listed.Pairwise (·.parts < ·.parts)) :
    t.discover p = listed := by
  have same : (t.discover p).Perm listed := by
    rw [discover_of_directory found directory]
    exact (List.mergeSort_perm _ _).trans perm
  apply same.eq_of_pairwise _ (pairwise_discover wf p) sorted
  intro a b _ _ before after
  exact (List.lt_asymm before after).elim

theorem readBytes_of_mem_discover (wf : t.WellFormed) (h : q ∈ t.discover p) :
    (∃ bytes, t.readBytes q = .ok bytes) ∨
      t.StandsBelow p q .directory ∧ t.readBytes q = .error .isDirectory := by
  cases there : t.at? p with
  | none =>
    rw [discover_of_none there] at h
    cases h
  | some c =>
    cases c with
    | file bytes =>
      rw [discover_of_file there] at h
      split at h
      · obtain rfl := List.mem_singleton.1 h
        exact .inl ⟨bytes, readBytes_of_at? there⟩
      · cases h
    | directory =>
      obtain ⟨_, c, below⟩ := (mem_discover_iff wf there).1 h
      cases c with
      | file bytes => exact .inl ⟨bytes, readBytes_of_at? (below.at? wf)⟩
      | directory => exact .inr ⟨below, readBytes_of_at? (below.at? wf)⟩

/-- Below a directory the documents are exactly the files with the names of documents if and only
if no directory has such a name. -/
theorem discover_files_iff (wf : t.WellFormed) (directory : t.at? p = some .directory) :
    (∀ q, q ∈ t.discover p ↔ NamesDocument q.name ∧ ∃ bytes, t.StandsBelow p q (.file bytes)) ↔
      ∀ q, t.StandsBelow p q .directory → ¬ NamesDocument q.name := by
  constructor
  · intro exactly q below named
    have found := (mem_discover_iff wf directory).2 ⟨named, _, below⟩
    obtain ⟨_, bytes, file⟩ := (exactly q).1 found
    cases (below.at? wf).symm.trans (file.at? wf)
  · intro none q
    rw [mem_discover_iff wf directory]
    refine and_congr_right fun named => ⟨?_, fun ⟨bytes, below⟩ => ⟨_, below⟩⟩
    rintro ⟨c, below⟩
    cases c with
    | file bytes => exact ⟨bytes, below⟩
    | directory => exact (none q below named).elim

/-- What is found at a path, in which order, and what of it can be read. Everything would be as it
should if only files counted: that is so if and only if no directory below has the name of a
document. -/
theorem documents_discovered (wf : t.WellFormed) (p : Path) :
    (t.discover p).Pairwise (·.parts < ·.parts) ∧
    (t.at? p = some .directory →
      (∀ q, q ∈ t.discover p ↔ NamesDocument q.name ∧ ∃ c, t.StandsBelow p q c) ∧
      ((∀ q, q ∈ t.discover p ↔
          NamesDocument q.name ∧ ∃ bytes, t.StandsBelow p q (.file bytes)) ↔
        ∀ q, t.StandsBelow p q .directory → ¬ NamesDocument q.name)) ∧
    (∀ bytes, t.at? p = some (.file bytes) →
      t.discover p = if NamesDocument p.name then [p] else []) ∧
    ∀ q ∈ t.discover p, (∃ bytes, t.readBytes q = .ok bytes) ∨
      t.StandsBelow p q .directory ∧ t.readBytes q = .error .isDirectory :=
  ⟨pairwise_discover wf p,
    fun directory => ⟨fun _ => mem_discover_iff wf directory, discover_files_iff wf directory⟩,
    fun _ => discover_of_file,
    fun _ => readBytes_of_mem_discover wf⟩

/-- A directory next to a document whose name begins like its own. -/
def notes : Tree :=
  [(["notes"], .directory), (["notes", "a.md"], .file "a".toUTF8), (["notes", "a"], .directory),
    (["notes", "a", "b.tar.mdx"], .file "b".toUTF8), (["notes", ".md"], .file "c".toUTF8)]

/-- The directory comes first, since its name is the beginning of the other. -/
theorem notes_discovered :
    notes.WellFormed ∧ notes.at? (.ofText "notes") = some .directory ∧
      notes.discover (.ofText "notes") =
        [.ofText "notes/a/b.tar.mdx", .ofText "notes/a.md"] ∧
      (notes.discover (.ofText "notes")).Pairwise (·.parts < ·.parts) ∧
      ∀ q, q ∈ notes.discover (.ofText "notes") ↔
        NamesDocument q.name ∧ ∃ c, notes.StandsBelow (.ofText "notes") q c := by
  have wf : notes.WellFormed := by decide +kernel
  have directory : notes.at? (.ofText "notes") = some .directory := by decide +kernel
  have located : notes.locate (.ofText "notes") = .ok ["notes"] := by decide +kernel
  have found : notes.discover (.ofText "notes") =
      [.ofText "notes/a/b.tar.mdx", .ofText "notes/a.md"] :=
    discover_eq_of_perm wf located rfl (by decide +kernel) (by decide +kernel)
  obtain ⟨sorted, below, _⟩ := documents_discovered wf (.ofText "notes")
  exact ⟨wf, directory, found, sorted, (below directory).1⟩

/-- A directory with the name of a document. -/
def misnamed : Tree := [(["docs"], .directory), (["docs", "x.md"], .directory)]

/-- It is found although it is no file, and it cannot be read. -/
theorem directory_discovered :
    misnamed.WellFormed ∧ misnamed.at? (.ofText "docs") = some .directory ∧
      misnamed.discover (.ofText "docs") = [.ofText "docs/x.md"] ∧
      (¬ ∃ bytes, misnamed.StandsBelow (.ofText "docs") (.ofText "docs/x.md") (.file bytes)) ∧
      misnamed.readBytes (.ofText "docs/x.md") = .error .isDirectory := by
  have wf : misnamed.WellFormed := by decide +kernel
  have there : misnamed.at? (.ofText "docs/x.md") = some .directory := by decide +kernel
  have located : misnamed.locate (.ofText "docs") = .ok ["docs"] := by decide +kernel
  have found : misnamed.discover (.ofText "docs") = [.ofText "docs/x.md"] :=
    discover_eq_of_perm wf located rfl (by decide +kernel) (by decide +kernel)
  refine ⟨wf, by decide +kernel, found, ?_, readBytes_of_at? there⟩
  rintro ⟨bytes, below⟩
  cases there.symm.trans (below.at? wf)

end Tree

end MarkdownTree.Files
