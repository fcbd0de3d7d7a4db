import MarkdownTree.Proofs.Files.Writing

/-!
# Trees stay well formed

The empty tree is well formed, and a tree stays so if something is set at a place whose parts are
names and above which there is a directory (`wellFormed_set`). Making directories, also if that
breaks down on the way, and writing outputs are built from that.
-/

namespace MarkdownTree.Files

theorem notMem_of_mem_splitAt {c : Char} {cs piece : List Char}
    (h : piece ∈ Text.splitAt c cs) : c ∉ piece := by
  induction cs generalizing piece with
  | nil =>
    obtain rfl := List.mem_singleton.1 h
    exact List.not_mem_nil
  | cons d cs ih =>
    rw [Text.splitAt] at h
    split at h
    · rcases List.mem_cons.1 h with rfl | later
      · exact List.not_mem_nil
      · exact ih later
    · next other =>
      have apart : c ∉ [d] := by simpa using Ne.symm other
      cases pieces : Text.splitAt c cs with
      | nil =>
        rw [pieces] at h
        obtain rfl := List.mem_singleton.1 h
        exact apart
      | cons first others =>
        rw [pieces] at h ih
        rcases List.mem_cons.1 h with rfl | later
        · exact List.not_mem_append apart (ih List.mem_cons_self)
        · exact ih (List.mem_cons_of_mem first later)

/-- The parts of a path are names, except those that lead up. -/
theorem Path.isName_of_mem_parts {s part : String} (h : part ∈ (Path.ofText s).parts)
    (down : part ≠ "..") : IsName part := by
  obtain ⟨piece, visible⟩ := List.mem_filter.1 h
  obtain ⟨chars, found, rfl⟩ := List.mem_map.1 piece
  have shown : String.ofList chars ≠ "" ∧ String.ofList chars ≠ "." := by simpa using visible
  refine ⟨shown.1, shown.2, down, ?_⟩
  rw [String.toList_ofList]
  exact notMem_of_mem_splitAt found

namespace Tree

variable {t t₁ : Tree} {place parts q : List String} {dir : Path} {c : Content}

theorem wellFormed_nil : WellFormed [] := by
  constructor <;> simp

/-- A directory is never replaced by a file, as something may stand in it. -/
theorem wellFormed_set (wf : t.WellFormed) (nonempty : q ≠ []) (names : ∀ part ∈ q, IsName part)
    (parent : t.content? q.dropLast = some .directory)
    (kept : t.content? q = some .directory → c = .directory) :
    WellFormed (Entries.set t q c) := by
  have listed (q') (h : q' ∈ Entries.keys (Entries.set t q c)) : q' ∈ Entries.keys t ∨ q' = q := by
    rw [Entries.keys_set] at h
    split at h
    · exact .inl h
    · simpa using h
  refine ⟨Entries.nodup_keys_set wf.distinct q c, ?_, ?_⟩
  · intro q' h
    rcases listed q' h with old | rfl
    · exact wf.names q' old
    · exact names
  · intro q' h
    have above : t.content? q'.dropLast = some .directory := by
      rcases listed q' h with old | rfl
      · exact wf.parents q' old
      · exact parent
    rw [content?_set nonempty]
    split
    · next same => rw [kept (same ▸ above)]
    · exact above

theorem WellFormed.names_of_there (wf : t.WellFormed) (there : t.content? place = some c) :
    ∀ part ∈ place, IsName part := by
  by_cases root : place = []
  · simp [root]
  · exact wf.names place (mem_keys_of_content? root there)

/-- Above a directory there is a directory. -/
theorem WellFormed.directory_dropLast (wf : t.WellFormed) (there : t.content? place = some c) :
    t.content? place.dropLast = some .directory := by
  by_cases root : place = []
  · rw [root]
    rfl
  · exact wf.parents place (mem_keys_of_content? root there)

/-- A new entry of a directory. -/
theorem wellFormed_entry (wf : t.WellFormed) {part : String} (named : IsName part)
    (start : t.content? place = some .directory)
    (kept : t.content? (place ++ [part]) = some .directory → c = .directory) :
    WellFormed (Entries.set t (place ++ [part]) c) := by
  refine wellFormed_set wf (by simp) ?_ ?_ kept
  · rw [List.forall_mem_append]
    exact ⟨wf.names_of_there start, by simpa using named⟩
  · rwa [List.dropLast_concat]

/-- Entering a directory keeps a tree well formed: what is made is a new entry of a directory. -/
theorem wellFormed_of_enters {part : String} {t' : Tree} (wf : t.WellFormed)
    (start : t.content? place = some .directory) (named : part ≠ ".." → IsName part)
    (enters : t.Enters (next place part) t') : t'.WellFormed := by
  obtain rfl | ⟨_, absent, rfl⟩ := enters.step
  · exact wf
  · have down : part ≠ ".." := by
      rintro rfl
      rw [next, if_pos rfl, wf.directory_dropLast start] at absent
      cases absent
    rw [next, if_neg down] at absent ⊢
    apply wellFormed_entry wf (named down) start
    simp [absent]

/-- The files after a change that may have broken down. -/
def leftBy : Except Breakdown Tree → Tree
  | .ok t => t
  | .error broken => broken.files

theorem wellFormed_makeDirectoriesFrom {stackLimit : Option Nat} {begun : Bool}
    (wf : t.WellFormed) (start : t.content? place = some .directory)
    (names : ∀ part ∈ parts, part ≠ ".." → IsName part) :
    (leftBy (t.makeDirectoriesFrom stackLimit place begun parts)).WellFormed := by
  induction parts generalizing t place begun with
  | nil => exact wf
  | cons part parts ih =>
    rw [List.forall_mem_cons] at names
    rcases makeDirectoriesFrom_cases t stackLimit place begun part parts with
      ⟨fault, broken⟩ | ⟨t', begun', enters, rest⟩
    · rw [broken]
      exact wf
    · rw [rest]
      exact ih (wellFormed_of_enters wf start names.1 enters) enters.directory names.2

theorem wellFormed_makeDirectories {s : String} (wf : t.WellFormed) (stackLimit : Option Nat) :
    (leftBy (t.makeDirectories (.ofText s) stackLimit)).WellFormed := by
  rcases (Path.ofText s).check_cases with allowed | ⟨fault, refused⟩
  · rw [makeDirectories_of_allowed allowed]
    exact wellFormed_makeDirectoriesFrom wf rfl fun _ member => Path.isName_of_mem_parts member
  · rw [makeDirectories_of_refused refused]
    exact wf

/-- Outputs are new entries of one directory. By induction on them from the last one. -/
theorem wellFormed_merge {es : Entries (List String) Content} (wf : t.WellFormed)
    (start : t.content? place = some .directory) (outputs : ∀ e ∈ es, t.IsOutput place e)
    (names : ∀ e ∈ es, ∃ name, e.1 = place ++ [name] ∧ IsName name) :
    WellFormed (Entries.merge t es) := by
  induction es using List.reverseRecOn with
  | nil => exact wf
  | append_singleton es e ih =>
    rw [List.forall_mem_append] at outputs names
    have before (q : List String) := directory_merge_iff outputs.1 (q := q)
    obtain ⟨name, here, named⟩ := names.2 e List.mem_cons_self
    obtain ⟨bytes, file⟩ := (outputs.2 e List.mem_cons_self).file
    have free := (outputs.2 e List.mem_cons_self).free
    rw [here] at free
    have written : Entries.merge t (es ++ [e]) =
        Entries.set (Entries.merge t es) (place ++ [name]) (.file bytes) := by
      rw [Entries.merge_append, ← here, ← file]
      rfl
    rw [written]
    apply wellFormed_entry (ih outputs.1 names.1) named ((before place).2 start)
    intro taken
    exact (free ((before _).1 taken)).elim

end Tree

end MarkdownTree.Files
