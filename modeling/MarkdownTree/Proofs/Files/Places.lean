import MarkdownTree.Files.Document
import MarkdownTree.Proofs.Entries
import Mathlib.Data.List.Induction

/-!
# Where paths lead

A tree of files is well formed if every entry has a name and stands in a directory. In such a tree
the documents that are found at a path are where their paths lead (`leadsTo_of_mem_discover`), and
no document is found twice.

What is found stays there while directories are made and other files are written: a path leads to
the same place in every tree that has the same directories and perhaps more (`locate_of_keeps`).
-/

namespace MarkdownTree.Files

/-- A name that an entry of a directory can have. -/
def IsName (s : String) : Prop := s ≠ "" ∧ s ≠ "." ∧ s ≠ ".." ∧ '/' ∉ s.toList

instance : DecidablePred IsName := fun s =>
  inferInstanceAs (Decidable (s ≠ "" ∧ s ≠ "." ∧ s ≠ ".." ∧ '/' ∉ s.toList))

namespace Tree

/-- Every place is listed once, its parts are names, and what stands above it is a directory. -/
@[mk_iff]
structure WellFormed (t : Tree) : Prop where
  distinct : (Entries.keys t).Nodup
  names : ∀ q ∈ Entries.keys t, ∀ part ∈ q, IsName part
  parents : ∀ q ∈ Entries.keys t, t.content? q.dropLast = some .directory

instance (t : Tree) : Decidable t.WellFormed := decidable_of_iff' _ (wellFormed_iff t)

/-- The directories of `t` are directories of `t'`. -/
def Keeps (t t' : Tree) : Prop :=
  ∀ q, t.content? q = some .directory → t'.content? q = some .directory

/-- What stands in `t` stands in `t'`. -/
def Extends (t t' : Tree) : Prop := ∀ q c, t.content? q = some c → t'.content? q = some c

variable {t t' : Tree} {place rest q : List String} {p : Path}

theorem Extends.keeps (h : t.Extends t') : t.Keeps t' := fun q there => h q _ there

@[simp] theorem content?_nil (t : Tree) : t.content? [] = some .directory := rfl

theorem content?_of_ne_nil (h : q ≠ []) : t.content? q = Entries.get? t q := by
  rw [content?, if_neg (by simpa using h)]

theorem mem_keys_of_content? (h : q ≠ []) {c : Content} (there : t.content? q = some c) :
    q ∈ Entries.keys t := by
  rw [content?_of_ne_nil h] at there
  by_contra absent
  rw [Entries.get?_eq_none_iff.2 absent] at there
  cases there

/-! ### Following a path -/

theorem follow_cons {part : String} {parts : List String}
    (directory : t.content? place = some .directory) :
    t.follow place (part :: parts) = t.follow (next place part) parts := by
  rw [follow, directory]

theorem directory_of_follow_cons {part : String} {parts : List String}
    (h : t.follow place (part :: parts) = .ok q) : t.content? place = some .directory := by
  rw [follow] at h
  cases there : t.content? place with
  | none =>
    rw [there] at h
    cases h
  | some c =>
    cases c with
    | file _ =>
      rw [there] at h
      cases h
    | directory => rfl

theorem follow_append (as bs : List String) :
    t.follow place (as ++ bs) = t.follow place as >>= fun middle => t.follow middle bs := by
  induction as generalizing place with
  | nil => rfl
  | cons part as ih =>
    rw [List.cons_append, follow, follow]
    cases t.content? place with
    | none => rfl
    | some c =>
      cases c with
      | file _ => rfl
      | directory => exact ih

/-- A path leads to the same place in a tree with more directories. -/
theorem follow_of_keeps (keeps : t.Keeps t') (h : t.follow place rest = .ok q) :
    t'.follow place rest = .ok q := by
  induction rest generalizing place with
  | nil => exact h
  | cons part rest ih =>
    have directory := directory_of_follow_cons h
    rw [follow_cons directory] at h
    rw [follow_cons (keeps place directory)]
    exact ih h

theorem locate_of_keeps (keeps : t.Keeps t') (h : t.locate p = .ok q) : t'.locate p = .ok q :=
  follow_of_keeps keeps h

/-- What stands above something is a directory. -/
theorem WellFormed.directory_above (wf : t.WellFormed) (below : rest ≠ []) {c : Content}
    (there : t.content? (place ++ rest) = some c) : t.content? place = some .directory := by
  induction rest using List.reverseRecOn generalizing c with
  | nil => contradiction
  | append_singleton rest part ih =>
    have listed := mem_keys_of_content? (by simp) there
    have parent := wf.parents _ listed
    rw [← List.append_assoc, List.dropLast_concat] at parent
    by_cases last : rest = []
    · rwa [last, List.append_nil] at parent
    · exact ih last parent

/-- The parts of a place lead there from every directory above it. -/
theorem WellFormed.follow_below (wf : t.WellFormed) {c : Content}
    (there : t.content? (place ++ rest) = some c) : t.follow place rest = .ok (place ++ rest) := by
  induction rest generalizing place with
  | nil => rw [follow, List.append_nil]
  | cons part rest ih =>
    have listed := mem_keys_of_content? (by simp) there
    have named : part ≠ ".." := (wf.names _ listed part (by simp)).2.2.1
    have split : place ++ part :: rest = (place ++ [part]) ++ rest := List.append_cons ..
    rw [follow_cons (wf.directory_above (by simp) there), next, if_neg named, split]
    exact ih (split ▸ there)

theorem WellFormed.locate_below (wf : t.WellFormed) (found : t.locate p = .ok place) {c : Content}
    (there : t.content? (place ++ rest) = some c) :
    t.locate { p with parts := p.parts ++ rest } = .ok (place ++ rest) := by
  rw [locate] at found
  rw [locate, follow_append, found]
  exact wf.follow_below there

/-! ### Documents -/

/-- The path leads to the place of an entry whose name is that of a document. -/
structure LeadsTo (t : Tree) (p : Path) (q : List String) : Prop where
  locate : t.locate p = .ok q
  there : ∃ c, t.content? q = some c
  last : q.getLast? = some p.name
  isName : IsName p.name
  isDocument : isDocumentName p.name = true

theorem isName_of_last (wf : t.WellFormed) {c : Content} {name : String}
    (there : t.content? q = some c) (last : q.getLast? = some name) : IsName name := by
  have nonempty : q ≠ [] := by
    rintro rfl
    cases last
  exact wf.names q (mem_keys_of_content? nonempty there) name (List.mem_of_getLast? last)

/-- The parts of a path to a document end with its name. -/
theorem exists_parts (document : isDocumentName p.name = true) :
    ∃ before, p.parts = before ++ [p.name] ∧ p.name ≠ ".." := by
  have other (name : String) (h : isDocumentName name = false) : p.name ≠ name := by
    rintro same
    rw [same, h] at document
    cases document
  have nonempty : p.parts ≠ [] := by
    intro none
    exact other "" (by decide) (by rw [Path.name, none]; rfl)
  have last : p.parts.getLast nonempty = p.name := by
    rw [Path.name, List.getLast?_eq_getLast_of_ne_nil nonempty, Option.getD_some]
  refine ⟨p.parts.dropLast, ?_, other ".." (by decide)⟩
  rw [← last, List.dropLast_append_getLast]

/-- A path to a file whose name is that of a document. -/
theorem leadsTo_of_file (wf : t.WellFormed) {bytes : ByteArray} (found : t.locate p = .ok q)
    (file : t.content? q = some (.file bytes)) (document : isDocumentName p.name = true) :
    t.LeadsTo p q := by
  have located := found
  obtain ⟨before, parts, named⟩ := exists_parts document
  have last : q.getLast? = some p.name := by
    rw [locate, parts, follow_append] at found
    cases middle : t.follow [] before with
    | error e =>
      rw [middle] at found
      cases found
    | ok above =>
      rw [middle] at found
      change t.follow above [p.name] = .ok q at found
      rw [follow_cons (directory_of_follow_cons found), next, if_neg named] at found
      cases found
      exact List.getLast?_concat
  exact ⟨located, ⟨_, file⟩, last, isName_of_last wf file last, document⟩

/-- What is found below a directory. -/
theorem mem_documentPlaces :
    q ∈ t.documentPlaces place ↔
      q ∈ Entries.keys t ∧ ∃ rest, q = place ++ rest ∧ rest ≠ [] ∧
        isDocumentName (q.getLast?.getD "") = true := by
  simp only [documentPlaces, List.mem_filter, Bool.and_eq_true, decide_eq_true_eq,
    List.isPrefixOf_iff_prefix]
  constructor
  · rintro ⟨listed, ⟨⟨rest, rfl⟩, longer⟩, document⟩
    refine ⟨listed, rest, rfl, ?_, document⟩
    rintro rfl
    simp at longer
  · rintro ⟨listed, rest, rfl, nonempty, document⟩
    refine ⟨listed, ⟨⟨rest, rfl⟩, ?_⟩, document⟩
    have := List.length_pos_iff.2 nonempty
    rw [List.length_append]
    omega

/-- A document below a directory is found where its path leads. -/
theorem leadsTo_of_below (wf : t.WellFormed) {start : Path} (found : t.locate start = .ok place)
    (below : rest ≠ []) (listed : place ++ rest ∈ Entries.keys t)
    (document : isDocumentName ((place ++ rest).getLast?.getD "") = true) :
    t.LeadsTo { start with parts := start.parts ++ rest } (place ++ rest) := by
  obtain ⟨c, there⟩ : ∃ c, t.content? (place ++ rest) = some c := by
    rw [content?_of_ne_nil (by simp [below]), ← Option.isSome_iff_exists, Option.isSome_iff_ne_none]
    exact fun none => Entries.get?_eq_none_iff.1 none listed
  have last : (place ++ rest).getLast? =
      some (Path.name { start with parts := start.parts ++ rest }) := by
    rw [Path.name, List.getLast?_append_of_ne_nil _ below, List.getLast?_append_of_ne_nil _ below,
      List.getLast?_eq_getLast_of_ne_nil below, Option.getD_some]
  rw [last, Option.getD_some] at document
  exact ⟨wf.locate_below found there, ⟨c, there⟩, last, isName_of_last wf there last, document⟩

theorem leadsTo_of_mem_discover (wf : t.WellFormed) {start : Path}
    (h : p ∈ t.discover start) : ∃ q, t.LeadsTo p q := by
  unfold discover at h
  split at h
  · cases h
  · next place found =>
    split at h
    · cases h
    · next bytes file =>
      split at h
      · next document =>
        obtain rfl := List.mem_singleton.1 h
        exact ⟨place, leadsTo_of_file wf found file document⟩
      · cases h
    · next directory =>
      rw [List.mem_mergeSort, List.mem_map] at h
      obtain ⟨q, below, rfl⟩ := h
      obtain ⟨listed, rest, rfl, nonempty, document⟩ := mem_documentPlaces.1 below
      rw [List.drop_left]
      exact ⟨_, leadsTo_of_below wf found nonempty listed document⟩

theorem isName_of_mem_discover (wf : t.WellFormed) {start : Path} (h : p ∈ t.discover start) :
    IsName p.name := by
  obtain ⟨q, leads⟩ := leadsTo_of_mem_discover wf h
  exact leads.isName

/-- No document is found twice. -/
theorem nodup_discover (wf : t.WellFormed) (start : Path) : (t.discover start).Nodup := by
  unfold discover
  split
  · exact List.nodup_nil
  · next place found =>
    split
    · exact List.nodup_nil
    · split
      · exact List.nodup_singleton _
      · exact List.nodup_nil
    · rw [List.Perm.nodup_iff (List.mergeSort_perm _ _)]
      refine List.Nodup.map_on ?_ (wf.distinct.filter _)
      intro q below q' below' same
      obtain ⟨_, rest, rfl, _⟩ := mem_documentPlaces.1 below
      obtain ⟨_, rest', rfl, _⟩ := mem_documentPlaces.1 below'
      simpa using same

end Tree

end MarkdownTree.Files
