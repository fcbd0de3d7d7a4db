import MarkdownTree.Files.Document
import MarkdownTree.Proofs.Files.Reading

/-!
# What breaks a search off

A search for documents that finds nothing is no failure. It breaks off only where the system does
not look at a path for its length, or where directories stand so deep in one another that entering
them exhausts the stack (`searchFault?_eq_some_iff`).
-/

namespace MarkdownTree.Files.Tree

variable {t : Tree} {p : Path} {place q rest : List String} {stackLimit : Option Nat}
  {fault : Fault}

/-- The first name on the way of a path that is not there is longer than any name. -/
def MeetsLongName (t : Tree) (p : Path) : Prop :=
  ∃ before after q, p.parts = before ++ after ∧ t.follow [] before = .ok q ∧
    t.content? q = none ∧ nameLimit < (q.getLast?.getD "").utf8ByteSize

/-- What breaks the search off below the directory at a place. -/
inductive Impassable (t : Tree) (p : Path) (place : List String) (stackLimit : Option Nat) :
    Fault → Prop
  | long {rest : List String} (nonempty : rest ≠ [])
      (directory : t.content? (place ++ rest) = some .directory)
      (long : pathLimit < (p.below rest).text.utf8ByteSize) :
      Impassable t p place stackLimit .nameTooLong
  | deep {rest : List String}
      (short : ∀ rest ≠ [], t.content? (place ++ rest) = some .directory →
        ¬ pathLimit < (p.below rest).text.utf8ByteSize)
      (nonempty : rest ≠ []) (directory : t.content? (place ++ rest) = some .directory)
      (deep : fitsStack stackLimit rest.length = false) :
      Impassable t p place stackLimit .stackExhausted

/-- What breaks the search for documents at a path off. -/
inductive Unsearchable (t : Tree) (p : Path) (stackLimit : Option Nat) : Fault → Prop
  | path (refused : p.Refused .nameTooLong) : Unsearchable t p stackLimit .nameTooLong
  | name (allowed : p.check = .ok ()) (long : t.MeetsLongName p) :
      Unsearchable t p stackLimit .nameTooLong
  | below {place : List String} {fault : Fault} (allowed : p.check = .ok ())
      (located : t.locate p = .ok place) (impassable : t.Impassable p place stackLimit fault) :
      Unsearchable t p stackLimit fault

/-! ### On the way -/

/-- The way of a path ends where nothing is, at a name that is too long. -/
theorem meetsLongName_from_iff {parts : List String} :
    (∃ before after q, parts = before ++ after ∧ t.follow place before = .ok q ∧
        t.content? q = none ∧ nameLimit < (q.getLast?.getD "").utf8ByteSize) ↔
      t.follow place parts = .error .nameTooLong ∨
        ∃ q, t.follow place parts = .ok q ∧ t.content? q = none ∧
          nameLimit < (q.getLast?.getD "").utf8ByteSize := by
  induction parts generalizing place with
  | nil => simp [follow]
  | cons part parts ih =>
    by_cases there : t.content? place = some .directory
    · rw [follow_cons there, ← ih]
      constructor
      · rintro ⟨before, after, q, split, located, absent, long⟩
        cases before with
        | nil =>
          cases located
          rw [there] at absent
          cases absent
        | cons first before =>
          cases split
          rw [follow_cons there] at located
          exact ⟨before, after, q, rfl, located, absent, long⟩
      · rintro ⟨before, after, q, rfl, located, rest⟩
        exact ⟨part :: before, after, q, rfl, (follow_cons there).trans located, rest⟩
    · have stuck (first : String) (others q : List String) :
          t.follow place (first :: others) ≠ .ok q :=
        fun located => there (directory_of_follow_cons located)
      have ends : t.follow place (part :: parts) = .error .nameTooLong ↔
          t.content? place = none ∧ nameLimit < (place.getLast?.getD "").utf8ByteSize := by
        rw [follow, ← absence_eq_nameTooLong_iff]
        rcases absent : t.content? place with _ | _ | _
        · simp
        · simp
        · exact (there absent).elim
      rw [ends]
      constructor
      · rintro ⟨before, after, q, split, located, absent, long⟩
        cases before with
        | nil =>
          cases located
          exact .inl ⟨absent, long⟩
        | cons first before => exact (stuck first before q located).elim
      · rintro (⟨absent, long⟩ | ⟨q, located, _⟩)
        · exact ⟨[], part :: parts, place, rfl, rfl, absent, long⟩
        · exact (stuck part parts q located).elim

theorem meetsLongName_iff :
    t.MeetsLongName p ↔ t.locate p = .error .nameTooLong ∨
      ∃ q, t.locate p = .ok q ∧ t.content? q = none ∧
        nameLimit < (q.getLast?.getD "").utf8ByteSize :=
  meetsLongName_from_iff

/-! ### Below a directory -/

theorem mem_directoriesBelow (wf : t.WellFormed) :
    rest ∈ t.directoriesBelow place ↔
      rest ≠ [] ∧ t.content? (place ++ rest) = some .directory := by
  simp only [directoriesBelow, List.mem_filterMap, Option.ite_none_right_eq_some,
    Bool.and_eq_true, decide_eq_true_eq, List.isPrefixOf_iff_prefix, Option.some.injEq, Prod.exists]
  constructor
  · rintro ⟨q, c, listed, ⟨⟨rfl, ⟨rest, rfl⟩⟩, longer⟩, rfl⟩
    rw [List.drop_left]
    have nonempty : rest ≠ [] := by
      rintro rfl
      simp at longer
    refine ⟨nonempty, ?_⟩
    rw [content?_of_ne_nil (by simp [nonempty])]
    exact Entries.get?_of_mem wf.distinct listed
  · rintro ⟨nonempty, directory⟩
    rw [content?_of_ne_nil (by simp [nonempty])] at directory
    have := List.length_pos_iff.2 nonempty
    refine ⟨place ++ rest, .directory, Entries.mem_of_get? directory,
      ⟨⟨rfl, ⟨rest, rfl⟩⟩, ?_⟩, List.drop_left⟩
    rw [List.length_append]
    omega

theorem impassable_iff (wf : t.WellFormed) :
    (if (t.directoriesBelow place).any fun rest => pathLimit < (p.below rest).text.utf8ByteSize
      then some .nameTooLong
      else if (t.directoriesBelow place).all fun rest => fitsStack stackLimit rest.length
      then none
      else some .stackExhausted) = some fault ↔ t.Impassable p place stackLimit fault := by
  have listed (rest : List String) : rest ∈ t.directoriesBelow place ↔
      rest ≠ [] ∧ t.content? (place ++ rest) = some .directory := mem_directoriesBelow wf
  by_cases long : ∃ rest ∈ t.directoriesBelow place, pathLimit < (p.below rest).text.utf8ByteSize
  · rw [if_pos (by simpa using long)]
    obtain ⟨rest, member, long⟩ := long
    obtain ⟨nonempty, directory⟩ := (listed rest).1 member
    constructor
    · rintro ⟨⟩
      exact .long nonempty directory long
    · intro impassable
      cases impassable with
      | long _ _ _ => rfl
      | deep short _ _ _ => exact (short rest nonempty directory long).elim
  · rw [if_neg (by simpa using long)]
    have short (rest : List String) (nonempty : rest ≠ [])
        (directory : t.content? (place ++ rest) = some .directory) :
        ¬ pathLimit < (p.below rest).text.utf8ByteSize :=
      fun far => long ⟨rest, (listed rest).2 ⟨nonempty, directory⟩, far⟩
    by_cases deep : ∃ rest ∈ t.directoriesBelow place, fitsStack stackLimit rest.length = false
    · rw [if_neg (by simpa using deep)]
      obtain ⟨rest, member, deep⟩ := deep
      obtain ⟨nonempty, directory⟩ := (listed rest).1 member
      constructor
      · rintro ⟨⟩
        exact .deep short nonempty directory deep
      · intro impassable
        cases impassable with
        | long nonempty directory far => exact (short _ nonempty directory far).elim
        | deep _ _ _ _ => rfl
    · rw [if_pos (by simpa using deep)]
      refine ⟨nofun, fun impassable => ?_⟩
      cases impassable with
      | long nonempty directory far => exact (short _ nonempty directory far).elim
      | deep _ nonempty directory far =>
        exact (deep ⟨_, (listed _).2 ⟨nonempty, directory⟩, far⟩).elim

/-- Only below a directory can there be others. -/
theorem Impassable.directory (wf : t.WellFormed)
    (impassable : t.Impassable p place stackLimit fault) :
    t.content? place = some .directory := by
  cases impassable with
  | long nonempty directory _ => exact wf.directory_above nonempty directory
  | deep _ nonempty directory _ => exact wf.directory_above nonempty directory

/-! ### The search -/

theorem unsearchable_iff (allowed : p.check = .ok ()) :
    t.Unsearchable p stackLimit fault ↔
      t.MeetsLongName p ∧ fault = .nameTooLong ∨
        ∃ place, t.locate p = .ok place ∧ t.Impassable p place stackLimit fault := by
  constructor
  · intro unsearchable
    cases unsearchable with
    | path refused =>
      rw [← Path.check_eq_error_iff, allowed] at refused
      cases refused
    | name _ long => exact .inl ⟨long, rfl⟩
    | below _ located impassable => exact .inr ⟨_, located, impassable⟩
  · rintro (⟨long, rfl⟩ | ⟨place, located, impassable⟩)
    · exact .name allowed long
    · exact .below allowed located impassable

theorem searchFault?_eq_some_iff (wf : t.WellFormed) :
    t.searchFault? p stackLimit = some fault ↔ t.Unsearchable p stackLimit fault := by
  cases checked : p.check with
  | error cause =>
    rw [searchFault?, checked]
    have refused := Path.check_eq_error_iff.1 checked
    constructor
    · intro broken
      cases refused with
      | nullCharacter held => cases broken
      | tooLong clean long =>
        cases broken
        exact .path (.tooLong clean long)
    · intro unsearchable
      cases unsearchable with
      | path own =>
        rw [← Path.check_eq_error_iff, checked] at own
        cases own
        rfl
      | name allowed _ =>
        rw [checked] at allowed
        cases allowed
      | below allowed _ _ =>
        rw [checked] at allowed
        cases allowed
  | ok u =>
    rw [unsearchable_iff checked, meetsLongName_iff, searchFault?, checked]
    cases located : t.locate p with
    | error cause => cases cause <;> simp [eq_comm]
    | ok place =>
      have outside (other : t.content? place ≠ some .directory) :
          ¬ t.Impassable p place stackLimit fault := fun h => other (h.directory wf)
      dsimp only
      cases there : t.content? place with
      | none =>
        have outside := outside (by simp [there])
        by_cases long : nameLimit < (place.getLast?.getD "").utf8ByteSize
        · have ends := absence_eq_nameTooLong_iff.2 long
          simp [ends, long, there, outside, eq_comm]
        · have ends := mt absence_eq_nameTooLong_iff.1 long
          simp [ends, long, there, outside]
      | some c =>
        cases c with
        | file bytes => simp [there, outside]
        | directory => simpa [there] using impassable_iff wf

end MarkdownTree.Files.Tree
