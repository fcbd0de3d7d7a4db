import MarkdownTree.Json.Parser
import MarkdownTree.Json.Printer
import MarkdownTree.Proofs.Value.Spelled
import Mathlib.Tactic.SplitIfs

/-!
# JSON can be read back

Reading the JSON text of a plain value gives the value with its dates spelled, in every style. The
writer puts its text in front of any other, so the statements are about a value and what follows
it: a number has to be followed by something that does not continue it (`EndsValue`), and one unit
of fuel for each character is enough.

`readBack_of_plain` is an induction on the value. Strings and numbers are read by the lemmas before
it; the items of a list and the members of an object are inductions of their own, given that each of
them is read.
-/

namespace MarkdownTree.Json

/-! ### What is written stands in front -/

/-- A character is written as one or more characters, whatever follows it. -/
theorem exists_writeChar (c : Char) : ∃ w, w ≠ [] ∧ ∀ rest, writeChar c rest = w ++ rest := by
  refine ⟨writeChar c [], ?_, ?_⟩
  · unfold writeChar
    split_ifs <;> simp
  · intro rest
    unfold writeChar
    split_ifs <;> simp

theorem writeChar_append (c : Char) (as bs : List Char) :
    writeChar c as ++ bs = writeChar c (as ++ bs) := by
  obtain ⟨w, _, written⟩ := exists_writeChar c
  rw [written, written, List.append_assoc]

theorem foldr_writeChar_append (cs as bs : List Char) :
    cs.foldr writeChar as ++ bs = cs.foldr writeChar (as ++ bs) := by
  induction cs with
  | nil => rfl
  | cons c cs ih => rw [List.foldr_cons, List.foldr_cons, writeChar_append, ih]

theorem writeString_append (s : String) (as bs : List Char) :
    writeString s as ++ bs = writeString s (as ++ bs) := by
  rw [writeString, writeString, List.cons_append, foldr_writeChar_append, List.cons_append]

theorem writeBreak_append (style : Style) (level : Nat) (as bs : List Char) :
    writeBreak style level as ++ bs = writeBreak style level (as ++ bs) := by
  unfold writeBreak
  split <;> simp

theorem writeSeparator_append (style : Style) (level : Nat) (as bs : List Char) :
    writeSeparator style level as ++ bs = writeSeparator style level (as ++ bs) := by
  unfold writeSeparator
  split
  · simp
  · rw [List.cons_append, writeBreak_append]

mutual

theorem write_append (style : Style) (level : Nat) : ∀ (v : Value) (as bs : List Char),
    write style level v as ++ bs = write style level v (as ++ bs)
  | .null, _, _ | .bool true, _, _ | .bool false, _, _ => rfl
  | .int _, _, _ | .float _, _, _ => by simp only [write, List.append_assoc]
  | .string _, _, _ | .date _, _, _ | .timestamp _, _, _ => by
    simp only [write, writeString_append]
  | .list [], _, _ | .object [], _, _ => rfl
  | .list (v :: vs), _, _ => by
    simp only [write, List.cons_append, writeBreak_append, write_append style (level + 1) v,
      writeItems_append style (level + 1) vs]
  | .object ((_, v) :: ms), _, _ => by
    simp only [write, List.cons_append, writeBreak_append, writeString_append,
      write_append style (level + 1) v, writeMembers_append style (level + 1) ms]

theorem writeItems_append (style : Style) (level : Nat) : ∀ (vs : List Value) (as bs : List Char),
    writeItems style level vs as ++ bs = writeItems style level vs (as ++ bs)
  | [], _, _ => rfl
  | v :: vs, _, _ => by
    simp only [writeItems, writeSeparator_append, write_append style level v,
      writeItems_append style level vs]

theorem writeMembers_append (style : Style) (level : Nat) :
    ∀ (ms : List (String × Value)) (as bs : List Char),
      writeMembers style level ms as ++ bs = writeMembers style level ms (as ++ bs)
  | [], _, _ => rfl
  | (_, v) :: ms, _, _ => by
    simp only [writeMembers, writeSeparator_append, writeString_append, List.cons_append,
      write_append style level v, writeMembers_append style level ms]

end

/-! ### White space -/

@[simp] theorem skipSpace_writeBreak (style : Style) (level : Nat) (cs : List Char) :
    skipSpace (writeBreak style level cs) = skipSpace cs := by
  unfold writeBreak
  split
  · rfl
  · next n _ =>
    have blank : ∀ k, skipSpace (List.replicate k ' ' ++ cs) = skipSpace cs := by
      intro k
      induction k with
      | zero => rfl
      | succ k ih => exact ih
    exact blank _

theorem skipSpace_cons {c : Char} (h : isSpace c = false) (cs : List Char) :
    skipSpace (c :: cs) = c :: cs := by
  simp [skipSpace, h]

/-- White space before a value does not count. -/
theorem readValue_congr {fuel : Nat} {cs ds : List Char} (h : skipSpace cs = skipSpace ds) :
    readValue fuel cs = readValue fuel ds := by
  cases fuel with
  | zero => rfl
  | succ fuel => rw [readValue, readValue, h]

theorem readItems_congr {fuel : Nat} {cs ds : List Char} (h : skipSpace cs = skipSpace ds) :
    readItems fuel cs = readItems fuel ds := by
  cases fuel with
  | zero => rfl
  | succ fuel => rw [readItems, readItems, readValue_congr h]

theorem readMembers_congr {fuel : Nat} {cs ds : List Char} (h : skipSpace cs = skipSpace ds) :
    readMembers fuel cs = readMembers fuel ds := by
  cases fuel with
  | zero => rfl
  | succ fuel => rw [readMembers, readMembers, h]

theorem length_le_writeBreak (style : Style) (level : Nat) (cs : List Char) :
    cs.length ≤ (writeBreak style level cs).length := by
  have written := congrArg List.length (writeBreak_append style level [] cs)
  rw [List.length_append, List.nil_append] at written
  omega

/-- A separator is a comma and white space. -/
theorem exists_writeSeparator (style : Style) (level : Nat) :
    ∃ w, ∀ cs, writeSeparator style level cs = ',' :: (w ++ cs) ∧
      skipSpace (w ++ cs) = skipSpace cs := by
  unfold writeSeparator
  split
  · exact ⟨[' '], fun cs => ⟨rfl, rfl⟩⟩
  · refine ⟨writeBreak style level [], fun cs => ?_⟩
    rw [writeBreak_append, List.nil_append, skipSpace_writeBreak]
    exact ⟨rfl, rfl⟩

/-! ### Strings -/

theorem readHex4_append {cs rest : List Char} {n : Nat} (h : readHex4 cs = some (n, [])) :
    readHex4 (cs ++ rest) = some (n, rest) := by
  rcases cs with _ | ⟨a, _ | ⟨b, _ | ⟨c, _ | ⟨d, cs⟩⟩⟩⟩
  iterate 4 contradiction
  simp only [readHex4] at h
  split at h
  · next ha hb hc hd =>
    cases h
    simp [readHex4, ha, hb, hc, hd]
  · contradiction

/-- Characters below the space are read back from their code points. -/
theorem readHex4_hexDigits {n : Nat} (small : n < 0x20) (rest : List Char) :
    readHex4 ((Text.hexDigits 4 n).map Char.toLower ++ rest) = some (n, rest) := by
  have each : ∀ n < 0x20,
      readHex4 ((Text.hexDigits 4 n).map Char.toLower) = some (n, []) := by decide
  exact readHex4_append (each n small)

/-- An escaped character is read with one unit of fuel. -/
theorem readBody_writeChar (fuel : Nat) (acc : List Char) (c : Char) (rest : List Char) :
    readBody (fuel + 1) acc (writeChar c rest) = readBody fuel (c :: acc) rest := by
  unfold writeChar
  split
  · next h => subst h; rfl
  split
  · next h => subst h; rfl
  split
  · next h => subst h; rfl
  split
  · next h => subst h; rfl
  split
  · next h => subst h; rfl
  split
  · next h => subst h; rfl
  split
  · next h => subst h; rfl
  split
  · next small =>
    have noSurrogate : ¬ (0xD800 ≤ c.toNat ∧ c.toNat < 0xDC00) := by omega
    rw [List.cons_append, List.cons_append]
    simp only [readBody, if_neg (show '\\' ≠ '"' by decide), ↓reduceIte,
      readHex4_hexDigits small, if_neg noSurrogate, Char.ofNat_toNat]
  · next noQuote noBackslash _ _ _ _ _ _ =>
    simp only [readBody, if_neg noQuote, if_neg noBackslash]

theorem length_lt_writeChar (c : Char) (rest : List Char) :
    rest.length < (writeChar c rest).length := by
  obtain ⟨w, nonempty, written⟩ := exists_writeChar c
  have := List.length_pos_iff.2 nonempty
  rw [written, List.length_append]
  omega

theorem readBody_foldr {fuel : Nat} {acc cs rest : List Char}
    (enough : (cs.foldr writeChar ['"']).length ≤ fuel) :
    readBody fuel acc (cs.foldr writeChar ('"' :: rest)) = some (acc.reverse ++ cs, rest) := by
  induction cs generalizing fuel acc with
  | nil =>
    obtain ⟨fuel, rfl⟩ := Nat.exists_eq_add_of_le' (show 1 ≤ fuel from enough)
    rw [List.append_nil]
    rfl
  | cons c cs ih =>
    have longer := length_lt_writeChar c (cs.foldr writeChar ['"'])
    rw [List.foldr_cons] at enough
    obtain ⟨fuel, rfl⟩ := Nat.exists_eq_add_of_le' (show 1 ≤ fuel by omega)
    rw [List.foldr_cons, readBody_writeChar, ih (by omega)]
    simp

/-- A string is read after its opening quote. -/
theorem readString_foldr {fuel : Nat} {s : String}
    (enough : (s.toList.foldr writeChar ['"']).length ≤ fuel) (rest : List Char) :
    readString fuel (s.toList.foldr writeChar ('"' :: rest)) = some (s, rest) := by
  rw [readString, readBody_foldr enough]
  simp

theorem length_writeString (s : String) (rest : List Char) :
    (writeString s rest).length =
      1 + (s.toList.foldr writeChar ['"']).length + rest.length := by
  have written := congrArg List.length (writeString_append s [] rest)
  rw [List.length_append, List.nil_append, writeString, List.length_cons] at written
  omega

theorem readValue_writeString {fuel : Nat} {s : String} {rest : List Char}
    (enough : (writeString s []).length ≤ fuel) :
    readValue fuel (writeString s rest) = some (.string s, rest) := by
  rw [writeString, List.length_cons] at enough
  obtain ⟨fuel, rfl⟩ := Nat.exists_eq_add_of_le' (show 1 ≤ fuel by omega)
  have read := readString_foldr (Nat.le_of_succ_le_succ enough) rest
  rw [writeString, readValue, skipSpace_cons (by decide)]
  simp only [↓reduceIte, read, Option.map_some]

/-! ### Integers -/

/-- What may follow a value: nothing, or a character that continues no number. -/
def EndsValue (rest : List Char) : Prop := ∀ c ∈ rest.head?, c = ',' ∨ c = ']' ∨ c = '}' ∨ c = '\n'

theorem EndsValue.nil : EndsValue [] := nofun

theorem EndsValue.cons {c : Char} (h : c = ',' ∨ c = ']' ∨ c = '}' ∨ c = '\n') (cs : List Char) :
    EndsValue (c :: cs) := by
  intro d first
  cases first
  exact h

theorem EndsValue.writeBreak {cs : List Char} (h : EndsValue cs) (style : Style) (level : Nat) :
    EndsValue (writeBreak style level cs) := by
  unfold Json.writeBreak
  split
  · exact h
  · exact EndsValue.cons (by simp) _

/-- A number ends where a value may end. -/
theorem EndsValue.noNumber {c : Char} {cs : List Char} (h : EndsValue (c :: cs)) :
    c.isDigit = false ∧ c ≠ '.' ∧ ¬ (c = 'e' ∨ c = 'E') := by
  rcases h c rfl with rfl | rfl | rfl | rfl <;> decide

theorem readDigits_append {ds rest : List Char} (digits : ∀ c ∈ ds, c.isDigit = true)
    (ends : EndsValue rest) : readDigits (ds ++ rest) = (ds, rest) := by
  have stop : rest.takeWhile Char.isDigit = [] ∧ rest.dropWhile Char.isDigit = rest := by
    cases rest with
    | nil => exact ⟨rfl, rfl⟩
    | cons c cs => simp [ends.noNumber.1]
  rw [readDigits, List.takeWhile_append_of_pos digits, List.dropWhile_append_of_pos digits, stop.1,
    stop.2, List.append_nil]

theorem readExponent_of_endsValue {rest : List Char} (ends : EndsValue rest) :
    readExponent rest = some (none, rest) := by
  cases rest with
  | nil => rfl
  | cons c cs => simp only [readExponent, if_neg ends.noNumber.2.2]

theorem readNumber_toDigits {rest : List Char} (ends : EndsValue rest) (negative : Bool) (n : Nat) :
    readNumber negative (Nat.toDigits 10 n ++ rest) =
      some (.int (if negative then -n else n), rest) := by
  have digits : ∀ c ∈ Nat.toDigits 10 n, c.isDigit = true := by
    intro c member
    exact Nat.isDigit_of_mem_toDigits (by decide) (by decide) member
  have value : digitsValue (Nat.toDigits 10 n) = n := Nat.ofDigitChars_ten_toDigits
  have exponent := readExponent_of_endsValue ends
  rw [readNumber, readDigits_append digits ends]
  cases rest with
  | nil => simp [exponent, value]
  | cons c cs => simp [ends.noNumber.2.1, exponent, value]

/-- An integer is written as its digits, after a minus sign if it is negative. -/
theorem toList_toString_int (n : Int) :
    (toString n).toList =
      if n < 0 then '-' :: Nat.toDigits 10 n.natAbs else Nat.toDigits 10 n.natAbs := by
  cases n with
  | ofNat n => exact Nat.toList_repr
  | negSucc n =>
    have written : (toString (Int.negSucc n)).toList = '-' :: (n + 1).repr.toList := by
      rw [Int.toString_eq_repr, Int.repr, String.toList_append]
      rfl
    rw [if_pos (Int.negSucc_lt_zero n), written, Nat.toList_repr]
    rfl

/-- A digit is no white space and begins no other value. -/
theorem distinct_of_isDigit {d : Char} (digit : d.isDigit = true) :
    isSpace d = false ∧ d ≠ '"' ∧ d ≠ '[' ∧ d ≠ ']' ∧ d ≠ '{' ∧ d ≠ '-' := by
  have distinct : ∀ c : Char, c.isDigit = false → d ≠ c := by
    rintro c noDigit rfl
    rw [digit] at noDigit
    cases noDigit
  refine ⟨?_, distinct _ rfl, distinct _ rfl, distinct _ rfl, distinct _ rfl, distinct _ rfl⟩
  simp [isSpace, distinct ' ' rfl, distinct '\n' rfl, distinct '\t' rfl, distinct '\r' rfl]

theorem exists_toDigits (n : Nat) : ∃ d ds, Nat.toDigits 10 n = d :: ds ∧ d.isDigit = true := by
  cases written : Nat.toDigits 10 n with
  | nil => exact absurd written Nat.toDigits_ne_nil
  | cons d ds =>
    refine ⟨d, ds, rfl, ?_⟩
    apply Nat.isDigit_of_mem_toDigits (b := 10) (n := n) (by decide) (by decide)
    rw [written]
    exact List.mem_cons_self

theorem readValue_int {fuel : Nat} (enough : 0 < fuel) {rest : List Char} (ends : EndsValue rest)
    (n : Int) : readValue fuel ((toString n).toList ++ rest) = some (.int n, rest) := by
  obtain ⟨fuel, rfl⟩ := Nat.exists_eq_add_of_le' enough
  rw [toList_toString_int]
  split
  · next negative =>
    have value : -(n.natAbs : Int) = n := by omega
    rw [List.cons_append, readValue, skipSpace_cons (by decide)]
    simp only [readNumber_toDigits ends, value, Char.reduceEq, ↓reduceIte]
  · next nonnegative =>
    have value : (n.natAbs : Int) = n := by omega
    have read := readNumber_toDigits ends false n.natAbs
    obtain ⟨d, ds, written, digit⟩ := exists_toDigits n.natAbs
    obtain ⟨noSpace, noQuote, noList, _, noObject, noSign⟩ := distinct_of_isDigit digit
    rw [written, List.cons_append] at read
    rw [written, List.cons_append, readValue, skipSpace_cons noSpace]
    simp only [noQuote, noList, noObject, noSign, digit, ↓reduceIte, read, value,
      Bool.false_eq_true]

/-! ### Values -/

/-- A value begins with a character that is no white space and closes no list. -/
theorem exists_write {v : Value} (plain : v.Plain True) (style : Style) (level : Nat)
    (rest : List Char) :
    ∃ c cs, write style level v rest = c :: cs ∧ isSpace c = false ∧ c ≠ ']' := by
  cases plain with
  | null => exact ⟨'n', _, rfl, by decide, by decide⟩
  | bool b =>
    cases b with
    | true => exact ⟨'t', _, rfl, by decide, by decide⟩
    | false => exact ⟨'f', _, rfl, by decide, by decide⟩
  | int n =>
    rw [write, toList_toString_int]
    split
    · exact ⟨'-', _, rfl, by decide, by decide⟩
    · obtain ⟨d, ds, written, digit⟩ := exists_toDigits n.natAbs
      obtain ⟨noSpace, _, _, noEnd, _⟩ := distinct_of_isDigit digit
      exact ⟨d, ds ++ rest, by rw [written]; rfl, noSpace, noEnd⟩
  | string | date | timestamp => exact ⟨'"', _, rfl, by decide, by decide⟩
  | @list vs _ => cases vs <;> exact ⟨'[', _, rfl, by decide, by decide⟩
  | @object ms _ => cases ms <;> exact ⟨'{', _, rfl, by decide, by decide⟩

theorem length_write (style : Style) (level : Nat) (v : Value) (rest : List Char) :
    (write style level v rest).length = (write style level v []).length + rest.length := by
  rw [← List.length_append, write_append, List.nil_append]

theorem length_write_pos {v : Value} (plain : v.Plain True) (style : Style) (level : Nat) :
    0 < (write style level v []).length := by
  obtain ⟨c, cs, written, _⟩ := exists_write plain style level []
  rw [written]
  exact Nat.succ_pos _

/-- The value is read back with its dates spelled, with a unit of fuel for each character of it. -/
def ReadBack (style : Style) (v : Value) : Prop :=
  ∀ (level fuel : Nat) (rest : List Char), EndsValue rest →
    (write style level v []).length ≤ fuel →
    readValue fuel (write style level v rest) = some (v.spelled style.timestamp, rest)

section items

variable {style : Style} {level outer fuel : Nat}

theorem EndsValue.writeItems (style : Style) (level outer : Nat) (vs : List Value)
    (rest : List Char) :
    EndsValue (writeItems style level vs (Json.writeBreak style outer (']' :: rest))) := by
  cases vs with
  | nil => exact (EndsValue.cons (by simp) rest).writeBreak style outer
  | cons v vs =>
    obtain ⟨w, separator⟩ := exists_writeSeparator style level
    rw [Json.writeItems, (separator _).1]
    exact EndsValue.cons (by simp) _

theorem EndsValue.writeMembers (style : Style) (level outer : Nat) (ms : Fields)
    (rest : List Char) :
    EndsValue (writeMembers style level ms (Json.writeBreak style outer ('}' :: rest))) := by
  cases ms with
  | nil => exact (EndsValue.cons (by simp) rest).writeBreak style outer
  | cons m ms =>
    obtain ⟨w, separator⟩ := exists_writeSeparator style level
    rw [Json.writeMembers, (separator _).1]
    exact EndsValue.cons (by simp) _

/-- The items of a list are read up to its closing bracket if each of them is read back. By
induction on the items after the first one. -/
theorem readItems_write {v : Value} {vs : List Value} (each : ∀ w ∈ v :: vs, ReadBack style w)
    (enough : (write style level v (writeItems style level vs
      (writeBreak style outer [']']))).length ≤ fuel) (rest : List Char) :
    readItems fuel (write style level v (writeItems style level vs
        (writeBreak style outer (']' :: rest)))) =
      some ((v :: vs).map (Value.spelled style.timestamp), rest) := by
  induction vs generalizing v fuel with
  | nil =>
    have closing := length_le_writeBreak style outer [']']
    rw [length_write, writeItems] at enough
    rw [List.length_singleton] at closing
    obtain ⟨fuel, rfl⟩ := Nat.exists_eq_add_of_le' (show 1 ≤ fuel by omega)
    have ends := EndsValue.writeItems style level outer [] rest
    have first := each v List.mem_cons_self level fuel _ ends (by omega)
    rw [readItems, first]
    simp only [writeItems, skipSpace_writeBreak]
    rfl
  | cons w vs ih =>
    obtain ⟨space, separator⟩ := exists_writeSeparator style level
    rw [length_write, writeItems, (separator _).1, List.length_cons, List.length_append] at enough
    obtain ⟨fuel, rfl⟩ := Nat.exists_eq_add_of_le' (show 1 ≤ fuel by omega)
    have ends := EndsValue.writeItems style level outer (w :: vs) rest
    have first := each v List.mem_cons_self level fuel _ ends (by omega)
    have others := ih (fun u member => each u (List.mem_cons_of_mem v member))
      (show _ ≤ fuel by omega)
    rw [readItems, first]
    simp only [writeItems, (separator _).1, skipSpace_cons (show isSpace ',' = false from rfl),
      readItems_congr (separator _).2, others]
    rfl

section member

variable {k : String} {v : Value} {as bs rest : List Char}
  (key : (k.toList.foldr writeChar ['"']).length ≤ fuel)
  (read : readValue fuel as = some (v, bs))

include key read

/-- A member with others behind it. -/
theorem readMembers_comma (more : skipSpace bs = ',' :: rest) :
    readMembers (fuel + 1) (writeString k (':' :: ' ' :: as)) =
      (readMembers fuel rest).map fun r => ((k, v) :: r.1, r.2) := by
  have blank : readValue fuel (' ' :: as) = readValue fuel as := readValue_congr rfl
  rw [writeString, readMembers, skipSpace_cons (by decide)]
  simp only [readString_foldr key _, skipSpace_cons (show isSpace ':' = false from rfl), blank,
    read, more]

/-- The last member. -/
theorem readMembers_closing (last : skipSpace bs = '}' :: rest) :
    readMembers (fuel + 1) (writeString k (':' :: ' ' :: as)) = some ([(k, v)], rest) := by
  have blank : readValue fuel (' ' :: as) = readValue fuel as := readValue_congr rfl
  rw [writeString, readMembers, skipSpace_cons (by decide)]
  simp only [readString_foldr key _, skipSpace_cons (show isSpace ':' = false from rfl), blank,
    read, last]

end member

/-- The members of an object are read up to its closing brace if the value of each of them is read
back. By induction on the members after the first one. -/
theorem readMembers_write {k : String} {v : Value} {ms : Fields}
    (each : ∀ m ∈ (k, v) :: ms, ReadBack style m.2)
    (enough : (writeString k (':' :: ' ' :: write style level v (writeMembers style level ms
      (writeBreak style outer ['}'])))).length ≤ fuel) (rest : List Char) :
    readMembers fuel (writeString k (':' :: ' ' :: write style level v
        (writeMembers style level ms (writeBreak style outer ('}' :: rest))))) =
      some (((k, v) :: ms).map fun m => (m.1, m.2.spelled style.timestamp), rest) := by
  induction ms generalizing k v fuel with
  | nil =>
    have closing := length_le_writeBreak style outer ['}']
    rw [length_writeString, List.length_cons, List.length_cons, length_write, writeMembers]
      at enough
    rw [List.length_singleton] at closing
    obtain ⟨fuel, rfl⟩ := Nat.exists_eq_add_of_le' (show 1 ≤ fuel by omega)
    have ends := EndsValue.writeMembers style level outer [] rest
    have read : ReadBack style v := each (k, v) List.mem_cons_self
    have last : skipSpace (writeMembers style level [] (writeBreak style outer ('}' :: rest))) =
        '}' :: rest := by
      rw [writeMembers, skipSpace_writeBreak, skipSpace_cons (by decide)]
    exact readMembers_closing (by omega) (read level fuel _ ends (by omega)) last
  | cons m ms ih =>
    obtain ⟨l, w⟩ := m
    obtain ⟨space, separator⟩ := exists_writeSeparator style level
    rw [length_writeString, List.length_cons, List.length_cons, length_write, writeMembers,
      (separator _).1, List.length_cons, List.length_append] at enough
    obtain ⟨fuel, rfl⟩ := Nat.exists_eq_add_of_le' (show 1 ≤ fuel by omega)
    have ends := EndsValue.writeMembers style level outer ((l, w) :: ms) rest
    have read : ReadBack style v := each (k, v) List.mem_cons_self
    have others := ih (fun e member => each e (List.mem_cons_of_mem _ member))
      (show _ ≤ fuel by omega)
    have more : skipSpace (writeMembers style level ((l, w) :: ms)
        (writeBreak style outer ('}' :: rest))) = ',' :: (space ++ writeString l (':' :: ' ' ::
          write style level w (writeMembers style level ms
            (writeBreak style outer ('}' :: rest))))) := by
      rw [writeMembers, (separator _).1, skipSpace_cons (by decide)]
    rw [readMembers_comma (by omega) (read level fuel _ ends (by omega)) more,
      readMembers_congr (separator _).2, others]
    rfl

end items

theorem readBack_null {style : Style} : ReadBack style .null := by
  intro level fuel rest ends enough
  have positive := length_write_pos .null style level
  obtain ⟨fuel, rfl⟩ := Nat.exists_eq_add_of_le' (show 1 ≤ fuel by omega)
  rfl

theorem readBack_bool {style : Style} (b : Bool) : ReadBack style (.bool b) := by
  intro level fuel rest ends enough
  have positive := length_write_pos (.bool b) style level
  obtain ⟨fuel, rfl⟩ := Nat.exists_eq_add_of_le' (show 1 ≤ fuel by omega)
  cases b <;> rfl

/-- A list that is not empty is read from its first item on. -/
theorem readValue_bracket {fuel : Nat} {c : Char} {cs ds : List Char} (noEnd : c ≠ ']')
    (begins : skipSpace ds = c :: cs) :
    readValue (fuel + 1) ('[' :: ds) =
      (readItems fuel (c :: cs)).map fun r => (.list r.1, r.2) := by
  rw [readValue, skipSpace_cons (by decide)]
  simp only [begins, ↓reduceIte, Char.reduceEq]
  split
  · next h => cases h; contradiction
  · rfl

/-- An object that is not empty is read from its first member on. -/
theorem readValue_brace {fuel : Nat} {c : Char} {cs ds : List Char} (noEnd : c ≠ '}')
    (begins : skipSpace ds = c :: cs) :
    readValue (fuel + 1) ('{' :: ds) =
      (readMembers fuel (c :: cs)).map fun r => (.object r.1, r.2) := by
  rw [readValue, skipSpace_cons (by decide)]
  simp only [begins, ↓reduceIte, Char.reduceEq]
  split
  · next h => cases h; contradiction
  · rfl

theorem readBack_list {style : Style} {vs : List Value} (plain : ∀ v ∈ vs, v.Plain True)
    (each : ∀ v ∈ vs, ReadBack style v) : ReadBack style (.list vs) := by
  intro level fuel rest ends enough
  have positive := length_write_pos (.list plain) style level
  obtain ⟨fuel, rfl⟩ := Nat.exists_eq_add_of_le' (show 1 ≤ fuel by omega)
  cases vs with
  | nil => rfl
  | cons v vs =>
    rw [write, List.length_cons] at enough
    have shorter := length_le_writeBreak style (level + 1)
      (write style (level + 1) v (writeItems style (level + 1) vs (writeBreak style level [']'])))
    have items := readItems_write each (Nat.le_trans shorter (Nat.le_of_succ_le_succ enough)) rest
    obtain ⟨c, cs, begins, noSpace, noEnd⟩ := exists_write (plain v List.mem_cons_self) style
      (level + 1) (writeItems style (level + 1) vs (writeBreak style level (']' :: rest)))
    have found :=
      (skipSpace_writeBreak style (level + 1) (c :: cs)).trans (skipSpace_cons noSpace cs)
    rw [begins] at items
    rw [write, begins, readValue_bracket noEnd found, items, Value.spelled,
      Value.spelledItems_eq_map]
    rfl

theorem readBack_object {style : Style} {ms : Fields} (plain : ∀ m ∈ ms, m.2.Plain True)
    (each : ∀ m ∈ ms, ReadBack style m.2) : ReadBack style (.object ms) := by
  intro level fuel rest ends enough
  have positive := length_write_pos (.object plain) style level
  obtain ⟨fuel, rfl⟩ := Nat.exists_eq_add_of_le' (show 1 ≤ fuel by omega)
  cases ms with
  | nil => rfl
  | cons m ms =>
    obtain ⟨k, v⟩ := m
    rw [write, List.length_cons] at enough
    have shorter := length_le_writeBreak style (level + 1)
      (writeString k (':' :: ' ' :: write style (level + 1) v
        (writeMembers style (level + 1) ms (writeBreak style level ['}']))))
    have members := readMembers_write each
      (Nat.le_trans shorter (Nat.le_of_succ_le_succ enough)) rest
    rw [writeString] at members
    rw [write, writeString, readValue_brace (by decide) (skipSpace_writeBreak _ _ _), members,
      Value.spelled, Value.spelledMembers_eq_map]
    rfl

/-- By induction on the value. -/
theorem readBack_of_plain (style : Style) {v : Value} (plain : v.Plain True) :
    ReadBack style v := by
  induction plain with
  | null => exact readBack_null
  | bool b => exact readBack_bool b
  | int n =>
    intro level fuel rest ends enough
    have positive := length_write_pos (.int n) style level
    exact readValue_int (by omega) ends n
  | string | date | timestamp =>
    intro level fuel rest ends enough
    exact readValue_writeString enough
  | list plain ih => exact readBack_list plain ih
  | object plain ih => exact readBack_object plain ih

/-- The JSON text of a value without floating-point numbers is read as the value with its dates
spelled. -/
theorem parse?_print (style : Style) {v : Value} (plain : v.Plain True) :
    parse? (print style v) = some (v.spelled style.timestamp) := by
  have read := readBack_of_plain style plain 0 ((write style 0 v []).length + 1) [] EndsValue.nil
    (Nat.le_succ _)
  rw [parse?, print, String.toList_ofList, read]
  rfl

/-! ### Dates -/

mutual

/-- Dates are written as their texts are. -/
theorem write_spelled (style : Style) (level : Nat) : ∀ (v : Value) (rest : List Char),
    write style level (v.spelled style.timestamp) rest = write style level v rest
  | .null, _ | .bool _, _ | .int _, _ | .float _, _ | .string _, _ | .date _, _
  | .timestamp _, _ => rfl
  | .list [], _ | .object [], _ => rfl
  | .list (v :: vs), _ => by
    simp only [Value.spelled, Value.spelledItems, write, write_spelled style (level + 1) v,
      writeItems_spelled style (level + 1) vs]
  | .object ((_, v) :: ms), _ => by
    simp only [Value.spelled, Value.spelledMembers, write, write_spelled style (level + 1) v,
      writeMembers_spelled style (level + 1) ms]

theorem writeItems_spelled (style : Style) (level : Nat) : ∀ (vs : List Value) (rest : List Char),
    writeItems style level (Value.spelledItems style.timestamp vs) rest =
      writeItems style level vs rest
  | [], _ => rfl
  | v :: vs, _ => by
    simp only [Value.spelledItems, writeItems, write_spelled style level v,
      writeItems_spelled style level vs]

theorem writeMembers_spelled (style : Style) (level : Nat) :
    ∀ (ms : List (String × Value)) (rest : List Char),
      writeMembers style level (Value.spelledMembers style.timestamp ms) rest =
        writeMembers style level ms rest
  | [], _ => rfl
  | (_, v) :: ms, _ => by
    simp only [Value.spelledMembers, writeMembers, write_spelled style level v,
      writeMembers_spelled style level ms]

end

theorem print_spelled (style : Style) (v : Value) :
    print style (v.spelled style.timestamp) = print style v := by
  rw [print, print, write_spelled]

end MarkdownTree.Json
