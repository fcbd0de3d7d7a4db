import MarkdownTree.Proofs.Json.RoundTrip

/-!
# The layout of JSON

White space of a JSON text counts inside its strings only. `significant` is a JSON text without the
white space that does not count: a scanner of one state keeps what stands between quotes and knows
that the character after a backslash closes nothing.

Two texts that differ in such white space are `Alike`. What a value is written as depends on the
style in that sense only (`Alike.write`), by induction on the value: a break and the blank after a
colon are dropped, a string is kept whole.
-/

namespace MarkdownTree.Json

/-- Where a character of a JSON text stands: outside strings, in a string, or after a backslash. -/
inductive Place where
  | outside
  | string
  | escape

/-- Where the character after `c` stands. -/
def Place.next : Place → Char → Place
  | .outside, c => if c = '"' then .string else .outside
  | .string, c => if c = '"' then .outside else if c = '\\' then .escape else .string
  | .escape, _ => .string

/-- The characters that count, of a text whose first one stands at a place. -/
def significantFrom : Place → List Char → List Char
  | _, [] => []
  | .outside, c :: cs =>
    if isSpace c then significantFrom .outside cs
    else c :: significantFrom (Place.outside.next c) cs
  | p, c :: cs => c :: significantFrom (p.next c) cs

/-- A JSON text without the white space outside its strings. -/
def significant (s : String) : String := String.ofList (significantFrom .outside s.toList)

/-! ### Strings -/

theorem significantFrom_string {c : Char} (noQuote : c ≠ '"') (noBackslash : c ≠ '\\')
    (cs : List Char) : significantFrom .string (c :: cs) = c :: significantFrom .string cs := by
  rw [significantFrom, Place.next, if_neg noQuote, if_neg noBackslash]
  exact nofun

theorem significantFrom_escape (c : Char) (cs : List Char) :
    significantFrom .string ('\\' :: c :: cs) = '\\' :: c :: significantFrom .string cs := rfl

theorem significantFrom_string_append {w : List Char} (plain : ∀ c ∈ w, c ≠ '"' ∧ c ≠ '\\')
    (cs : List Char) : significantFrom .string (w ++ cs) = w ++ significantFrom .string cs := by
  induction w with
  | nil => rfl
  | cons c w ih =>
    obtain ⟨noQuote, noBackslash⟩ := plain c List.mem_cons_self
    have others := ih fun d member => plain d (List.mem_cons_of_mem c member)
    rw [List.cons_append, significantFrom_string noQuote noBackslash, others, List.cons_append]

theorem plain_hexDigits {n : Nat} (small : n < 0x20) :
    ∀ d ∈ (Text.hexDigits 4 n).map Char.toLower, d ≠ '"' ∧ d ≠ '\\' := by
  have each : ∀ n < 0x20, ((Text.hexDigits 4 n).map Char.toLower).all
      (fun d => d ≠ '"' && d ≠ '\\') = true := by decide
  simpa using each n small

/-- A character of a string counts, however it is written. -/
theorem significantFrom_writeChar (c : Char) (cs : List Char) :
    significantFrom .string (writeChar c cs) = writeChar c (significantFrom .string cs) := by
  unfold writeChar
  split_ifs with noQuote noBackslash _ _ _ _ _ small
  iterate 7 rfl
  · rw [List.cons_append, List.cons_append, significantFrom_escape,
      significantFrom_string_append (plain_hexDigits small), List.cons_append, List.cons_append]
  · exact significantFrom_string noQuote noBackslash cs

theorem significantFrom_writeString (s : String) (cs : List Char) :
    significantFrom .outside (writeString s cs) =
      writeString s (significantFrom .outside cs) := by
  have inside : ∀ as : List Char, significantFrom .string (as.foldr writeChar ('"' :: cs)) =
      as.foldr writeChar ('"' :: significantFrom .outside cs) := by
    intro as
    induction as with
    | nil => rfl
    | cons c as ih => rw [List.foldr_cons, significantFrom_writeChar, ih, List.foldr_cons]
  rw [writeString, significantFrom, if_neg (by decide), Place.next, if_pos rfl, inside,
    writeString]

/-! ### Outside strings -/

@[simp] theorem significantFrom_writeBreak (style : Style) (level : Nat) (cs : List Char) :
    significantFrom .outside (writeBreak style level cs) = significantFrom .outside cs := by
  unfold writeBreak
  split
  · rfl
  · next n _ =>
    have blank : ∀ k, significantFrom .outside (List.replicate k ' ' ++ cs) =
        significantFrom .outside cs := by
      intro k
      induction k with
      | zero => rfl
      | succ k ih => exact ih
    exact blank _

/-- Two texts that differ in the white space outside their strings. -/
def Alike (as bs : List Char) : Prop := significantFrom .outside as = significantFrom .outside bs

namespace Alike

variable {as bs : List Char} {style style' : Style} {level level' : Nat}

theorem cons (h : Alike as bs) {c : Char} (noQuote : c ≠ '"') : Alike (c :: as) (c :: bs) := by
  unfold Alike at h ⊢
  rw [significantFrom, significantFrom, Place.next, if_neg noQuote, h]

theorem append (h : Alike as bs) {w : List Char} (noQuote : '"' ∉ w) :
    Alike (w ++ as) (w ++ bs) := by
  induction w with
  | nil => exact h
  | cons c w ih =>
    rw [List.mem_cons, not_or] at noQuote
    exact (ih noQuote.2).cons (Ne.symm noQuote.1)

theorem writeBreak (h : Alike as bs) :
    Alike (writeBreak style level as) (writeBreak style' level' bs) := by
  unfold Alike at h ⊢
  rw [significantFrom_writeBreak, significantFrom_writeBreak, h]

theorem writeString (h : Alike as bs) (s : String) :
    Alike (writeString s as) (writeString s bs) := by
  unfold Alike at h ⊢
  rw [significantFrom_writeString, significantFrom_writeString, h]

theorem writeSeparator (h : Alike as bs) :
    Alike (writeSeparator style level as) (writeSeparator style' level' bs) := by
  have separated : ∀ (style : Style) (level : Nat) (cs : List Char),
      significantFrom .outside (Json.writeSeparator style level cs) =
        ',' :: significantFrom .outside cs := by
    intro style level cs
    unfold Json.writeSeparator
    split
    · rfl
    · exact congrArg _ (significantFrom_writeBreak style level cs)
  unfold Alike at h ⊢
  rw [separated, separated, h]

/-- The digits of an integer are no quotes. -/
theorem toString_int (h : Alike as bs) (n : Int) :
    Alike ((toString n).toList ++ as) ((toString n).toList ++ bs) := by
  apply h.append
  have noQuote : '"' ∉ Nat.toDigits 10 n.natAbs := by
    intro member
    exact (distinct_of_isDigit
      (Nat.isDigit_of_mem_toDigits (by decide) (by decide) member)).2.1 rfl
  rw [toList_toString_int]
  split
  · exact List.not_mem_cons_of_ne_of_not_mem (by decide) noQuote
  · exact noQuote

mutual

/-- Two styles with the same texts for points in time write a value alike. -/
theorem write (clock : style.timestamp = style'.timestamp) : ∀ {v : Value}, v.Plain True →
    ∀ {level level' : Nat} {as bs : List Char}, Alike as bs →
      Alike (Json.write style level v as) (Json.write style' level' v bs)
  | .null, _, _, _, _, _, h => h.append (w := ['n', 'u', 'l', 'l']) (by decide)
  | .bool true, _, _, _, _, _, h => h.append (w := ['t', 'r', 'u', 'e']) (by decide)
  | .bool false, _, _, _, _, _, h => h.append (w := ['f', 'a', 'l', 's', 'e']) (by decide)
  | .int n, _, _, _, _, _, h => h.toString_int n
  | .string s, _, _, _, _, _, h => h.writeString s
  | .date d, _, _, _, _, _, h => h.writeString d.text
  | .timestamp t, _, _, _, _, _, h => by
    rw [Json.write, Json.write, clock]
    exact h.writeString _
  | .list [], _, _, _, _, _, h => h.append (w := ['[', ']']) (by decide)
  | .list (v :: vs), .list each, _, _, _, _, h => by
    rw [Json.write, Json.write]
    refine cons (writeBreak ?_) (by decide)
    apply write clock (each v List.mem_cons_self)
    apply writeItems clock (fun w member => each w (List.mem_cons_of_mem v member))
    exact (h.cons (by decide)).writeBreak
  | .object [], _, _, _, _, _, h => h.append (w := ['{', '}']) (by decide)
  | .object ((k, v) :: ms), .object each, _, _, _, _, h => by
    rw [Json.write, Json.write]
    refine cons (writeBreak (writeString ?_ k)) (by decide)
    refine cons (cons ?_ (by decide)) (by decide)
    apply write clock (each (k, v) List.mem_cons_self)
    apply writeMembers clock (fun m member => each m (List.mem_cons_of_mem _ member))
    exact (h.cons (by decide)).writeBreak

theorem writeItems (clock : style.timestamp = style'.timestamp) : ∀ {vs : List Value},
    (∀ v ∈ vs, v.Plain True) → ∀ {level level' : Nat} {as bs : List Char}, Alike as bs →
      Alike (Json.writeItems style level vs as) (Json.writeItems style' level' vs bs)
  | [], _, _, _, _, _, h => h
  | v :: vs, each, _, _, _, _, h => by
    rw [Json.writeItems, Json.writeItems]
    refine writeSeparator (write clock (each v List.mem_cons_self) ?_)
    exact writeItems clock (fun w member => each w (List.mem_cons_of_mem v member)) h

theorem writeMembers (clock : style.timestamp = style'.timestamp) : ∀ {ms : Fields},
    (∀ m ∈ ms, m.2.Plain True) → ∀ {level level' : Nat} {as bs : List Char}, Alike as bs →
      Alike (Json.writeMembers style level ms as) (Json.writeMembers style' level' ms bs)
  | [], _, _, _, _, _, h => h
  | (k, v) :: ms, each, _, _, _, _, h => by
    rw [Json.writeMembers, Json.writeMembers]
    refine writeSeparator (writeString ?_ k)
    refine cons (cons ?_ (by decide)) (by decide)
    apply write clock (each (k, v) List.mem_cons_self)
    exact writeMembers clock (fun m member => each m (List.mem_cons_of_mem _ member)) h

end

end Alike

/-- Two styles print a value with the same characters that count. -/
theorem significant_print {style style' : Style} (clock : style.timestamp = style'.timestamp)
    {v : Value} (plain : v.Plain True) :
    significant (print style v) = significant (print style' v) := by
  have alike : Alike [] [] := rfl
  rw [significant, significant, print, print, String.toList_ofList, String.toList_ofList,
    alike.write clock plain]

end MarkdownTree.Json
