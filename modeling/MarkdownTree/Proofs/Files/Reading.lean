import MarkdownTree.Proofs.Files.Places

/-!
# What cannot be read

Where something stands it is read as a text, unless no file system takes its path, it is a directory
or its bytes are no text.
-/

namespace MarkdownTree.Files

/-! ### Paths that no file system takes -/

/-- Why no file system takes a path. -/
inductive Path.Refused (p : Path) : Fault → Prop
  | nullCharacter (held : '\x00' ∈ p.text.toList) : Refused p .nullCharacter
  | tooLong (clean : '\x00' ∉ p.text.toList) (long : pathLimit < p.text.utf8ByteSize) :
      Refused p .nameTooLong

theorem Path.check_eq_error_iff {p : Path} {fault : Fault} :
    p.check = .error fault ↔ p.Refused fault := by
  unfold check
  constructor
  · intro refused
    split at refused
    · next held =>
      cases refused
      exact .nullCharacter held
    · next clean =>
      split at refused
      · next long =>
        cases refused
        exact .tooLong clean long
      · cases refused
  · rintro (held | ⟨clean, long⟩)
    · rw [if_pos held]
    · rw [if_neg clean, if_pos long]

theorem Path.check_cases (p : Path) : p.check = .ok () ∨ ∃ fault, p.Refused fault := by
  cases checked : p.check with
  | ok u => exact .inl rfl
  | error fault => exact .inr ⟨fault, check_eq_error_iff.1 checked⟩

namespace Tree

variable {t : Tree} {p : Path}

/-- Why something that stands at a path cannot be read as a text. -/
inductive Unreadable (t : Tree) (p : Path) : Fault → Prop
  | refused {fault : Fault} (refused : p.Refused fault) : Unreadable t p fault
  | directory (allowed : p.check = .ok ()) (there : t.at? p = some .directory) :
      Unreadable t p .isDirectory
  | notText (allowed : p.check = .ok ()) {bytes : ByteArray}
      (there : t.at? p = some (.file bytes)) (invalid : String.fromUTF8? bytes = none) :
      Unreadable t p (.notText (Text.undecodable bytes))

theorem exists_locate {c : Content} (there : t.at? p = some c) :
    ∃ place, t.locate p = .ok place ∧ t.content? place = some c := by
  unfold at? at there
  cases located : t.locate p with
  | error e =>
    rw [located] at there
    cases there
  | ok place =>
    rw [located] at there
    exact ⟨place, rfl, there⟩

theorem readBytes_of_at? {c : Content} (there : t.at? p = some c) :
    t.readBytes p = match c with
      | .directory => .error .isDirectory
      | .file bytes => .ok bytes := by
  obtain ⟨place, located, there⟩ := exists_locate there
  simp only [readBytes, located, there, bind, Except.bind]
  cases c <;> rfl

theorem readText_of_refused {fault : Fault} (refused : p.Refused fault) :
    t.readText p = .error fault := by
  rw [readText, Path.check_eq_error_iff.2 refused]
  rfl

theorem readText_of_at? {c : Content} (allowed : p.check = .ok ()) (there : t.at? p = some c) :
    t.readText p = match c with
      | .directory => .error .isDirectory
      | .file bytes => match String.fromUTF8? bytes with
        | some s => .ok (String.ofList (Text.unifyLineEnds s.toList))
        | none => .error (.notText (Text.undecodable bytes)) := by
  rw [readText, allowed, readBytes_of_at? there]
  cases c <;> rfl

theorem readText_of_unreadable {fault : Fault} (unreadable : t.Unreadable p fault) :
    t.readText p = .error fault := by
  cases unreadable with
  | refused refused => exact readText_of_refused refused
  | directory allowed there => rw [readText_of_at? allowed there]
  | notText allowed there invalid =>
    rw [readText_of_at? allowed there]
    dsimp only
    rw [invalid]

theorem readText_eq_error_iff {c : Content} {fault : Fault} (there : t.at? p = some c) :
    t.readText p = .error fault ↔ t.Unreadable p fault := by
  refine ⟨fun failed => ?_, readText_of_unreadable⟩
  rcases p.check_cases with allowed | ⟨cause, refused⟩
  · rw [readText_of_at? allowed there] at failed
    cases c with
    | directory =>
      cases failed
      exact .directory allowed there
    | file bytes =>
      dsimp only at failed
      cases valid : String.fromUTF8? bytes with
      | some s =>
        rw [valid] at failed
        cases failed
      | none =>
        rw [valid] at failed
        cases failed
        exact .notText allowed there valid
  · rw [readText_of_refused refused] at failed
    cases failed
    exact .refused refused

theorem absence_eq_nameTooLong_iff {place : List String} :
    absence place = .nameTooLong ↔ nameLimit < (place.getLast?.getD "").utf8ByteSize := by
  simp [absence]

theorem isOfSystem_absence (place : List String) : (absence place).isOfSystem = true := by
  unfold absence
  split <;> rfl

/-- On the way of a path something is missing, or a file; the system reports that. -/
theorem isOfSystem_of_follow {place rest : List String} {fault : Fault}
    (failed : t.follow place rest = .error fault) : fault.isOfSystem = true := by
  induction rest generalizing place with
  | nil => cases failed
  | cons part rest ih =>
    rw [follow] at failed
    cases there : t.content? place with
    | none =>
      rw [there] at failed
      cases failed
      exact isOfSystem_absence place
    | some c =>
      rw [there] at failed
      cases c with
      | file bytes =>
        cases failed
        rfl
      | directory => exact ih failed

/-- What the system does not report about reading a path holds of what stands there, or of the path
alone. -/
theorem readText_eq_error_iff_of_not_isOfSystem {fault : Fault} (other : fault.isOfSystem = false) :
    t.readText p = .error fault ↔ t.Unreadable p fault := by
  refine ⟨fun failed => ?_, readText_of_unreadable⟩
  cases there : t.at? p with
  | some c => exact (readText_eq_error_iff there).1 failed
  | none =>
    rcases p.check_cases with allowed | ⟨cause, refused⟩
    · have reported : fault.isOfSystem = true := by
        rw [readText, allowed] at failed
        unfold at? at there
        cases located : t.locate p with
        | error e =>
          simp only [readBytes, located, bind, Except.bind, Except.error.injEq] at failed
          exact failed ▸ isOfSystem_of_follow located
        | ok q =>
          rw [located] at there
          simp only [readBytes, located, there, bind, Except.bind, Except.error.injEq] at failed
          exact failed ▸ isOfSystem_absence q
      rw [other] at reported
      cases reported
    · rw [readText_of_refused refused] at failed
      cases failed
      exact .refused refused

theorem LeadsTo.exists_at? {q : List String} (leads : t.LeadsTo p q) :
    ∃ c, t.at? p = some c := by
  obtain ⟨c, there⟩ := leads.there
  exact ⟨c, by rw [at?, leads.locate]; exact there⟩

end Tree

end MarkdownTree.Files
