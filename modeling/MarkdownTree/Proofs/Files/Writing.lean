import MarkdownTree.Proofs.Files.Reading

/-!
# Writing into a directory

Making the directories of a path keeps everything that is there, and making them again changes
nothing (`makeDirectoriesFrom_again`). Outputs are files of one directory whose names are not those
of documents. So a tree in which outputs were written answers like the tree before: documents read
the same (`readText_merge`), and another output can be written exactly if it could be written at
first (`directory_merge_iff`, `Unwritable.congr`).
-/

namespace MarkdownTree.Files

theorem splitAt_of_notMem {c : Char} {cs : List Char} (absent : c ∉ cs) :
    Text.splitAt c cs = [cs] := by
  induction cs with
  | nil => rfl
  | cons d cs ih =>
    rw [List.mem_cons, not_or] at absent
    rw [Text.splitAt, if_neg (Ne.symm absent.1), ih absent.2]

/-- A name is a path with one part. -/
theorem Path.ofText_of_isName {name : String} (h : IsName name) :
    Path.ofText name = { parts := [name] } := by
  obtain ⟨nonempty, noPeriod, _, noSlash⟩ := h
  have slashes : name.toList.takeWhile (· = '/') = [] := by
    cases chars : name.toList with
    | nil => rfl
    | cons c cs =>
      rw [chars, List.mem_cons, not_or] at noSlash
      exact List.takeWhile_cons_of_neg (by simpa using Ne.symm noSlash.1)
  rw [Path.ofText, slashes, splitAt_of_notMem noSlash]
  simp [nonempty, noPeriod]

/-! ### Names of outputs -/

theorem getLast?_of_isDocumentName {name : String} (h : isDocumentName name = true) :
    name.toList.getLast? = some 'd' ∨ name.toList.getLast? = some 'x' := by
  have parts : name.toList =
      name.toList.take (Path.stemLength name.toList) ++ (Path.suffix name).toList := by
    rw [Path.suffix, String.toList_ofList, List.take_append_drop]
  have suffixes : Path.suffix name = ".md" ∨ Path.suffix name = ".mdx" := by
    simpa [isDocumentName, documentSuffixes] using h
  rw [parts]
  rcases suffixes with suffix | suffix <;> rw [suffix]
  · left
    exact List.getLast?_append_of_ne_nil _ (by decide)
  · right
    exact List.getLast?_append_of_ne_nil _ (by decide)

theorem toList_outputName (stem : String) (format : OutputFormat) :
    (stem ++ "." ++ format.name).toList = stem.toList ++ '.' :: format.name.toList := by
  rw [String.toList_append, String.toList_append, List.append_assoc]
  rfl

theorem getLast?_outputName (stem : String) (format : OutputFormat) :
    (stem ++ "." ++ format.name).toList.getLast? = some 'n' ∨
      (stem ++ "." ++ format.name).toList.getLast? = some 'l' := by
  rw [toList_outputName]
  cases format with
  | json =>
    left
    exact List.getLast?_append_of_ne_nil _ (by decide)
  | html =>
    right
    exact List.getLast?_append_of_ne_nil _ (by decide)

/-- No output has the name of a document. -/
theorem isDocumentName_output (stem : String) (format : OutputFormat) :
    isDocumentName (stem ++ "." ++ format.name) = false := by
  rw [Bool.eq_false_iff]
  intro document
  rcases getLast?_of_isDocumentName document with last | last <;>
    rcases getLast?_outputName stem format with last' | last' <;>
    · rw [last] at last'
      cases last'

theorem isName_output {name : String} (h : IsName name) (format : OutputFormat) :
    IsName (Path.stem name ++ "." ++ format.name) := by
  have other (s : String) (short : s.toList.getLast? = none ∨ s.toList.getLast? = some '.') :
      Path.stem name ++ "." ++ format.name ≠ s := by
    intro same
    rw [← same] at short
    rcases getLast?_outputName (Path.stem name) format with last | last <;>
      rw [last] at short <;> simp at short
  refine ⟨other _ (by decide), other _ (by decide), other _ (by decide), ?_⟩
  rw [toList_outputName, List.mem_append, List.mem_cons, not_or, not_or]
  refine ⟨?_, by decide, ?_⟩
  · intro slash
    rw [Path.stem, String.toList_ofList] at slash
    exact h.2.2.2 (List.mem_of_mem_take slash)
  · cases format <;> decide

theorem outputName_inj {stem stem' : String} {format : OutputFormat} :
    stem ++ "." ++ format.name = stem' ++ "." ++ format.name ↔ stem = stem' := by
  constructor
  · intro same
    have chars := congrArg String.toList same
    rw [toList_outputName, toList_outputName] at chars
    exact String.toList_inj.1 (List.append_cancel_right chars)
  · rintro rfl
    rfl

/-- Where a path leads if there are directories all the way. -/
def Path.place (p : Path) : List String := p.parts.foldl Tree.next []

namespace Tree

variable {t t₁ s s' : Tree} {place parts q : List String} {p dir : Path} {part : String}
  {stackLimit : Option Nat} {begun : Bool}

/-! ### Making directories -/

theorem content?_set (nonempty : place ≠ []) (c : Content) :
    content? (Entries.set t place c) q = if place = q then some c else t.content? q := by
  by_cases root : q = []
  · rw [root, if_neg nonempty]
    rfl
  · rw [content?_of_ne_nil root, content?_of_ne_nil root, Entries.get?_set]

theorem extends_set (nonempty : place ≠ []) (absent : t.content? place = none) (c : Content) :
    t.Extends (Entries.set t place c) := by
  intro q c' present
  rw [content?_set nonempty]
  split
  · next same =>
    rw [same, present] at absent
    cases absent
  · exact present

/-- At a place is a directory by then: it was one, or nothing was there and it was made. -/
structure Enters (t : Tree) (place : List String) (t' : Tree) : Prop where
  step : t' = t ∨ place ≠ [] ∧ t.content? place = none ∧ t' = Entries.set t place .directory
  directory : t'.content? place = some .directory

theorem Enters.extends {t' : Tree} (h : t.Enters place t') : t.Extends t' := by
  obtain rfl | ⟨nonempty, absent, rfl⟩ := h.step
  · exact fun _ _ there => there
  · exact extends_set nonempty absent _

theorem makeDirectoriesFrom_cons (directory : t.content? (next place part) = some .directory) :
    t.makeDirectoriesFrom stackLimit place begun (part :: parts) =
      t.makeDirectoriesFrom stackLimit (next place part) begun parts := by
  rw [makeDirectoriesFrom]
  simp only [directory]

/-- Making directories goes on from the next place, or it breaks down before anything is changed. -/
theorem makeDirectoriesFrom_cases (t : Tree) (stackLimit : Option Nat) (place : List String)
    (begun : Bool) (part : String) (parts : List String) :
    (∃ fault,
      t.makeDirectoriesFrom stackLimit place begun (part :: parts) = .error ⟨fault, t⟩) ∨
      ∃ t' begun', t.Enters (next place part) t' ∧
        t.makeDirectoriesFrom stackLimit place begun (part :: parts) =
          t'.makeDirectoriesFrom stackLimit (next place part) begun' parts := by
  cases there : t.content? (next place part) with
  | none =>
    have nonempty : next place part ≠ [] := by
      intro root
      rw [root] at there
      cases there
    have enters : t.Enters (next place part) (Entries.set t (next place part) .directory) :=
      ⟨.inr ⟨nonempty, there, rfl⟩, by rw [content?_set nonempty, if_pos rfl]⟩
    rw [makeDirectoriesFrom]
    simp only [there]
    by_cases long : absence (next place part) = .nameTooLong
    · exact .inl ⟨.nameTooLong, if_pos long⟩
    · rw [if_neg long]
      by_cases room : (begun || fitsStack stackLimit (parts.length + 1)) = true
      · exact .inr ⟨_, true, enters, if_pos room⟩
      · exact .inl ⟨.stackExhausted, if_neg room⟩
  | some c =>
    cases c with
    | file bytes =>
      rw [makeDirectoriesFrom]
      simp only [there]
      exact .inl ⟨_, rfl⟩
    | directory => exact .inr ⟨t, begun, ⟨.inl rfl, there⟩, makeDirectoriesFrom_cons there⟩

theorem exists_of_makeDirectoriesFrom_cons
    (made : t.makeDirectoriesFrom stackLimit place begun (part :: parts) = .ok t₁) :
    ∃ t' begun', t.Enters (next place part) t' ∧
      t'.makeDirectoriesFrom stackLimit (next place part) begun' parts = .ok t₁ := by
  rcases makeDirectoriesFrom_cases t stackLimit place begun part parts with
    ⟨fault, broken⟩ | ⟨t', begun', enters, rest⟩
  · rw [made] at broken
    cases broken
  · exact ⟨t', begun', enters, rest ▸ made⟩

theorem makeDirectoriesFrom_extends
    (made : t.makeDirectoriesFrom stackLimit place begun parts = .ok t₁) : t.Extends t₁ := by
  induction parts generalizing t place begun with
  | nil =>
    cases made
    exact fun _ _ h => h
  | cons part parts ih =>
    obtain ⟨t', _, enters, rest⟩ := exists_of_makeDirectoriesFrom_cons made
    exact fun q c there => ih rest q c (enters.extends q c there)

/-- Directories that were made need not be made again. -/
theorem makeDirectoriesFrom_again {begun' : Bool}
    (made : t.makeDirectoriesFrom stackLimit place begun parts = .ok t₁) (keeps : t₁.Keeps s) :
    s.makeDirectoriesFrom stackLimit place begun' parts = .ok s := by
  induction parts generalizing t place begun with
  | nil => rfl
  | cons part parts ih =>
    obtain ⟨t', _, enters, rest⟩ := exists_of_makeDirectoriesFrom_cons made
    have there := keeps _ (makeDirectoriesFrom_extends rest _ _ enters.directory)
    rw [makeDirectoriesFrom_cons there]
    exact ih rest

/-- The path of directories that were made leads to the last of them. -/
theorem follow_of_makeDirectoriesFrom
    (made : t.makeDirectoriesFrom stackLimit place begun parts = .ok t₁)
    (start : t.content? place = some .directory) :
    t₁.follow place parts = .ok (parts.foldl next place) ∧
      t₁.content? (parts.foldl next place) = some .directory := by
  induction parts generalizing t place begun with
  | nil =>
    cases made
    exact ⟨rfl, start⟩
  | cons part parts ih =>
    have kept := makeDirectoriesFrom_extends made _ _ start
    obtain ⟨t', _, enters, rest⟩ := exists_of_makeDirectoriesFrom_cons made
    rw [follow_cons kept]
    exact ih rest enters.directory

section made

variable (made : t.makeDirectories dir stackLimit = .ok t₁) (keeps : t₁.Keeps s)

theorem makeDirectories_of_allowed (allowed : dir.check = .ok ()) :
    t.makeDirectories dir stackLimit =
      t.makeDirectoriesFrom stackLimit [] false dir.parts := by
  rw [makeDirectories, allowed]
  rfl

theorem makeDirectories_of_refused {fault : Fault} (refused : dir.Refused fault) :
    t.makeDirectories dir stackLimit = .error ⟨fault, t⟩ := by
  rw [makeDirectories, Path.check_eq_error_iff.2 refused]
  rfl

include made

theorem allowed_of_makeDirectories : dir.check = .ok () := by
  rcases dir.check_cases with allowed | ⟨fault, refused⟩
  · exact allowed
  · rw [makeDirectories_of_refused refused] at made
    cases made

theorem makeDirectoriesFrom_of_made :
    t.makeDirectoriesFrom stackLimit [] false dir.parts = .ok t₁ := by
  rw [← made, makeDirectories_of_allowed (allowed_of_makeDirectories made)]

theorem makeDirectories_extends : t.Extends t₁ :=
  makeDirectoriesFrom_extends (makeDirectoriesFrom_of_made made)

/-- The path of directories that were made leads to the last of them. -/
theorem locate_of_makeDirectories :
    t₁.locate dir = .ok dir.place ∧ t₁.content? dir.place = some .directory :=
  follow_of_makeDirectoriesFrom (makeDirectoriesFrom_of_made made) rfl

include keeps

theorem makeDirectories_again : s.makeDirectories dir stackLimit = .ok s := by
  rw [makeDirectories_of_allowed (allowed_of_makeDirectories made)]
  exact makeDirectoriesFrom_again (makeDirectoriesFrom_of_made made) keeps

/-- A name leads into the directory that was made, as long as the directories stay. -/
theorem locate_join {name : String} (named : IsName name) :
    s.locate (dir.join (.ofText name)) = .ok (dir.place ++ [name]) := by
  obtain ⟨located, directory⟩ := locate_of_makeDirectories made
  have joined : dir.join (.ofText name) = { dir with parts := dir.parts ++ [name] } := by
    rw [Path.ofText_of_isName named, Path.join, if_pos rfl]
  have last : s.follow dir.place [name] = .ok (dir.place ++ [name]) := by
    rw [follow_cons (keeps _ directory), next, if_neg named.2.2.1]
    rfl
  rw [joined, locate, follow_append, ← locate, locate_of_keeps keeps located]
  exact last

end made

/-! ### Outputs -/

/-- A file among the outputs: its name is not that of a document, and it takes the place of no
directory. -/
structure IsOutput (t : Tree) (directory : List String) (e : List String × Content) : Prop where
  place : ∃ name, e.1 = directory ++ [name] ∧ isDocumentName name = false
  file : ∃ bytes, e.2 = .file bytes
  free : t.content? e.1 ≠ some .directory

section outputs

variable {directory : List String} {es : Entries (List String) Content}
  (outputs : ∀ e ∈ es, t.IsOutput directory e)

include outputs

/-- At the place of an output stands the last one that was written there. -/
theorem content?_merge :
    content? (Entries.merge t es) q =
      ((Entries.last? Prod.fst es q).map Prod.snd).or (t.content? q) := by
  by_cases root : q = []
  · have none : Entries.last? Prod.fst es q = none := by
      rw [Entries.last?, List.find?_eq_none]
      intro e member
      obtain ⟨name, place, _⟩ := (outputs e (List.mem_reverse.1 member)).place
      simp [place, root]
    rw [none, root]
    rfl
  · rw [content?_of_ne_nil root, content?_of_ne_nil root, Entries.get?_merge]

/-- Outputs neither make directories nor take their places. -/
theorem directory_merge_iff :
    content? (Entries.merge t es) q = some .directory ↔ t.content? q = some .directory := by
  rw [content?_merge outputs]
  cases last : Entries.last? Prod.fst es q with
  | none => rfl
  | some e =>
    have member := Entries.mem_of_last? last
    obtain rfl := Entries.key_of_last? last
    obtain ⟨bytes, file⟩ := (outputs e member).file
    have free := (outputs e member).free
    simp [file, free]

/-- No output takes the place of a document. -/
theorem content?_merge_of_document {name : String} (last : q.getLast? = some name)
    (document : isDocumentName name = true) :
    content? (Entries.merge t es) q = t.content? q := by
  have none : Entries.last? Prod.fst es q = none := by
    rw [Entries.last?, List.find?_eq_none]
    intro e member
    obtain ⟨other, place, noDocument⟩ := (outputs e (List.mem_reverse.1 member)).place
    rw [decide_eq_true_eq, place]
    rintro rfl
    rw [List.getLast?_concat] at last
    cases last
    rw [document] at noDocument
    cases noDocument
  rw [content?_merge outputs, none]
  rfl

theorem keeps_merge : t.Keeps (Entries.merge t es) :=
  fun _ there => (directory_merge_iff outputs).2 there

end outputs

/-! ### Reading and writing beside outputs -/

theorem readText_congr {c : Content} (located : t.locate p = .ok q) (located' : s.locate p = .ok q)
    (there : t.content? q = some c) (there' : s.content? q = some c) :
    s.readText p = t.readText p := by
  have bytes : s.readBytes p = t.readBytes p := by
    simp only [readBytes, located, located', there, there', bind, Except.bind]
  rw [readText, readText, bytes]

/-- A document reads the same after outputs were written. -/
theorem readText_merge {directory : List String} {es : Entries (List String) Content}
    (more : t.Extends t₁) (outputs : ∀ e ∈ es, t₁.IsOutput directory e) (leads : t.LeadsTo p q) :
    readText (Entries.merge t₁ es) p = t.readText p := by
  obtain ⟨c, there⟩ := leads.there
  have kept : content? (Entries.merge t₁ es) q = some c := by
    rw [content?_merge_of_document outputs leads.last leads.isDocument]
    exact more q c there
  have located := locate_of_keeps more.keeps leads.locate
  exact readText_congr leads.locate (locate_of_keeps (keeps_merge outputs) located) there kept

/-! ### Writing files -/

/-- Why a text cannot be written to a path that leads somewhere. -/
inductive Unwritable (t : Tree) (p : Path) : Fault → Prop
  | refused {fault : Fault} (refused : p.Refused fault) : Unwritable t p fault
  | tooLong {q : List String} (allowed : p.check = .ok ()) (located : t.locate p = .ok q)
      (long : nameLimit < (q.getLast?.getD "").utf8ByteSize) : Unwritable t p .nameTooLong
  | taken {q : List String} (allowed : p.check = .ok ()) (located : t.locate p = .ok q)
      (short : ¬ nameLimit < (q.getLast?.getD "").utf8ByteSize)
      (directory : t.content? q = some .directory) : Unwritable t p .isDirectory

theorem writeText_eq {text : String} (allowed : p.check = .ok ()) (located : t.locate p = .ok q) :
    t.writeText p text =
      if nameLimit < (q.getLast?.getD "").utf8ByteSize then .error .nameTooLong
      else if t.content? q = some .directory then .error .isDirectory
      else .ok (Entries.set t q (.file text.toUTF8)) := by
  rw [writeText, allowed, located]
  simp only [bind, Except.bind, absence_eq_nameTooLong_iff]
  split
  · rfl
  · split <;> rfl

theorem writeText_of_unwritable {text : String} {fault : Fault} (h : t.Unwritable p fault) :
    t.writeText p text = .error fault := by
  cases h with
  | refused refused =>
    rw [writeText, Path.check_eq_error_iff.2 refused]
    rfl
  | tooLong allowed located long => rw [writeText_eq allowed located, if_pos long]
  | taken allowed located short directory =>
    rw [writeText_eq allowed located, if_neg short, if_pos directory]

/-- A text is written unless something is in the way, and that does not depend on the text. -/
theorem writeText_cases (located : t.locate p = .ok q) (text : String) :
    (∃ fault, t.Unwritable p fault ∧ t.writeText p text = .error fault) ∨
      (∀ fault, ¬ t.Unwritable p fault) ∧ t.content? q ≠ some .directory ∧
        t.writeText p text = .ok (Entries.set t q (.file text.toUTF8)) := by
  rcases p.check_cases with allowed | ⟨fault, refused⟩
  · by_cases long : nameLimit < (q.getLast?.getD "").utf8ByteSize
    · have unwritable := Unwritable.tooLong allowed located long
      exact .inl ⟨_, unwritable, writeText_of_unwritable unwritable⟩
    · by_cases taken : t.content? q = some .directory
      · have unwritable := Unwritable.taken allowed located long taken
        exact .inl ⟨_, unwritable, writeText_of_unwritable unwritable⟩
      · have written : t.writeText p text = .ok (Entries.set t q (.file text.toUTF8)) := by
          rw [writeText_eq allowed located, if_neg long, if_neg taken]
        refine .inr ⟨fun fault unwritable => ?_, taken, written⟩
        rw [writeText_of_unwritable unwritable] at written
        cases written
  · have unwritable := Unwritable.refused (t := t) refused
    exact .inl ⟨_, unwritable, writeText_of_unwritable unwritable⟩

/-- What is in the way of a text depends on the directories alone. -/
theorem Unwritable.congr {fault : Fault} (located : t.locate p = .ok q)
    (located' : s.locate p = .ok q)
    (directory : s.content? q = some .directory ↔ t.content? q = some .directory) :
    s.Unwritable p fault ↔ t.Unwritable p fault := by
  have one {t s : Tree} (located : t.locate p = .ok q) (located' : s.locate p = .ok q)
      (directory : s.content? q = some .directory ↔ t.content? q = some .directory)
      (h : s.Unwritable p fault) : t.Unwritable p fault := by
    cases h with
    | refused refused => exact .refused refused
    | tooLong allowed other long =>
      rw [located'] at other
      cases other
      exact .tooLong allowed located long
    | taken allowed other short taken =>
      rw [located'] at other
      cases other
      exact .taken allowed located short (directory.1 taken)
  exact ⟨one located located' directory, one located' located directory.symm⟩

/-! ### Writing outputs -/

section writeOutput

variable {components : String → Option Markup.Component} {stem format : String}
  {m : Option Markup}

theorem writeOutput_of_unmade {broken : Breakdown}
    (unmade : t.makeDirectories dir stackLimit = .error broken) :
    t.writeOutput components dir stem format m stackLimit = .error broken := by
  rw [writeOutput, unmade]
  rfl

theorem writeOutput_of_deep (made : t.makeDirectories dir stackLimit = .ok t₁)
    (deep : outputFits components format m stackLimit = false) :
    t.writeOutput components dir stem format m stackLimit =
      .error ⟨.stackExhausted, t₁⟩ := by
  rw [writeOutput, made, deep]
  rfl

theorem writeOutput_of_fits (made : t.makeDirectories dir stackLimit = .ok t₁)
    (fits : outputFits components format m stackLimit = true) :
    t.writeOutput components dir stem format m stackLimit =
      ((t₁.writeText (dir.join (.ofText (stem ++ "." ++ format)))
        (outputText components format m)).mapError (⟨·, t₁⟩)).map
          fun t => (t, dir.join (.ofText (stem ++ "." ++ format))) := by
  rw [writeOutput, made, fits]
  simp only [bind, Except.bind, Bool.not_true, Bool.false_eq_true, if_false]
  generalize t₁.writeText (dir.join (.ofText (stem ++ "." ++ format)))
    (outputText components format m) = written
  cases written <;> rfl

end writeOutput

end Tree

end MarkdownTree.Files
