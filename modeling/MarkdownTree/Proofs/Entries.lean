import MarkdownTree.Entries
import Mathlib.Data.List.Find
import Mathlib.Data.List.Nodup

/-!
# Tables made of lists of entries

A table that is filled entry by entry holds the last entry of each key, and the keys stand in the
order of their first entries. `lastOfEach` says this of any list whose members have keys, without
mentioning a table, and `ofList_map` is the equation between the two.
-/

namespace MarkdownTree.Entries

variable {κ : Type u} {ν : Type v} {α : Type w} [DecidableEq κ]

/-- The members without repetitions, in the order in which they first occur. -/
def distinct (ks : List κ) : List κ := ks.eraseDups

/-- The last member with key `k`. -/
def last? (key : α → κ) (l : List α) (k : κ) : Option α := l.reverse.find? (key · = k)

/-- The last member of each key, in the order in which the keys first occur. -/
def lastOfEach (key : α → κ) (l : List α) : List α := (distinct (l.map key)).filterMap (last? key l)

theorem key_of_last? {key : α → κ} {l : List α} {k : κ} {a : α} (h : last? key l k = some a) :
    key a = k := by
  simpa using List.find?_some h

theorem mem_of_last? {key : α → κ} {l : List α} {k : κ} {a : α} (h : last? key l k = some a) :
    a ∈ l :=
  List.mem_reverse.1 (List.mem_of_find?_eq_some h)

theorem last?_isSome_of_mem {key : α → κ} {l : List α} {k : κ} (h : k ∈ l.map key) :
    ∃ a, last? key l k = some a := by
  obtain ⟨a, member, rfl⟩ := List.mem_map.1 h
  rw [← Option.isSome_iff_exists, last?, List.find?_isSome]
  exact ⟨a, by simpa using member, by simp⟩

/-- No key is lost: every key that occurs has a last member. -/
theorem map_lastOfEach (key : α → κ) (l : List α) :
    (lastOfEach key l).map key = distinct (l.map key) := by
  have general (ks : List κ) (h : ∀ k ∈ ks, k ∈ l.map key) :
      (ks.filterMap (last? key l)).map key = ks := by
    induction ks with
    | nil => rfl
    | cons k ks ih =>
        obtain ⟨a, ha⟩ := last?_isSome_of_mem (h k (by simp))
        rw [List.filterMap_cons_some ha, List.map_cons, key_of_last? ha,
          ih fun k' member => h k' (by simp [member])]
  exact general _ fun k member => List.mem_eraseDups.1 member

theorem mem_of_mem_lastOfEach {key : α → κ} {l : List α} {a : α} (h : a ∈ lastOfEach key l) :
    a ∈ l := by
  obtain ⟨k, _, found⟩ := List.mem_filterMap.1 h
  exact mem_of_last? found

theorem distinct_cons (k : κ) (ks : List κ) :
    distinct (k :: ks) = k :: distinct (ks.filter (· ≠ k)) := by
  simp [distinct, List.eraseDups_cons]
  rfl

theorem filter_ne_of_not_mem {k : κ} {ks : List κ} (h : k ∉ ks) : ks.filter (· ≠ k) = ks := by
  refine List.filter_eq_self.2 fun k' member => ?_
  simp only [ne_eq, decide_eq_true_eq]
  rintro rfl
  exact h member

theorem length_distinct_le (ks : List κ) : (distinct ks).length ≤ ks.length := by
  induction h : ks.length using Nat.strongRecOn generalizing ks with
  | ind m ih =>
      cases ks with
      | nil => simp [distinct]
      | cons k ks =>
          have shorter := List.length_filter_le (· ≠ k) ks
          rw [List.length_cons] at h
          have := ih _ (by omega) (ks.filter (· ≠ k)) rfl
          rw [distinct_cons, List.length_cons]
          omega

/-- Leaving out repetitions leaves out something exactly if there are any. -/
theorem length_distinct_eq_iff (ks : List κ) : (distinct ks).length = ks.length ↔ ks.Nodup := by
  induction ks with
  | nil => simp [distinct]
  | cons k ks ih =>
      rw [distinct_cons, List.length_cons, List.length_cons, List.nodup_cons, ← ih]
      have fewer := length_distinct_le (ks.filter (· ≠ k))
      have shorter := List.length_filter_le (· ≠ k) ks
      constructor
      · intro same
        have all : (ks.filter (· ≠ k)).length = ks.length := by omega
        have others := List.length_filter_eq_length_iff.1 all
        refine ⟨fun member => by simpa using others k member, ?_⟩
        rw [List.filter_eq_self.2 others] at same
        omega
      · rintro ⟨absent, same⟩
        rw [filter_ne_of_not_mem absent, same]

/-- Members can be replaced by others that have another key when they have the key. -/
theorem last?_map_of_iff {β κ' : Type*} [DecidableEq κ'] {key : α → κ} {key' : β → κ'} {g : α → β}
    {l : List α} {k : κ} {k' : κ'} (same : ∀ a ∈ l, key' (g a) = k' ↔ key a = k) :
    last? key' (l.map g) k' = (last? key l k).map g := by
  rw [last?, ← List.map_reverse, List.find?_map, last?]
  congr 1
  refine List.find?_congr fun a member => ?_
  exact decide_eq_decide.2 (same a (List.mem_reverse.1 member))

/-- Members can be replaced by others with the same keys. -/
theorem last?_map_of_key {β : Type v} {key : α → κ} {key' : β → κ} {g : α → β} {l : List α}
    (same : ∀ a ∈ l, key' (g a) = key a) (k : κ) : last? key' (l.map g) k = (last? key l k).map g :=
  last?_map_of_iff fun a member => by rw [same a member]

theorem lastOfEach_map_of_key {β : Type v} {key : α → κ} {key' : β → κ} {g : α → β} {l : List α}
    (same : ∀ a ∈ l, key' (g a) = key a) : lastOfEach key' (l.map g) = (lastOfEach key l).map g := by
  have keys : (l.map g).map key' = l.map key := by
    rw [List.map_map]
    exact List.map_congr_left same
  rw [lastOfEach, lastOfEach, keys, List.map_filterMap]
  congr 1
  funext k
  exact last?_map_of_key same k

theorem last?_map {key : α → κ} (val : α → ν) (l : List α) (k : κ) :
    last? Prod.fst (l.map fun a => (key a, val a)) k =
      (last? key l k).map fun a => (key a, val a) :=
  last?_map_of_key (fun _ _ => rfl) k

theorem lastOfEach_map {key : α → κ} (val : α → ν) (l : List α) :
    lastOfEach Prod.fst (l.map fun a => (key a, val a)) =
      (lastOfEach key l).map fun a => (key a, val a) :=
  lastOfEach_map_of_key fun _ _ => rfl

theorem last?_cons {key : α → κ} (a : α) (l : List α) (k : κ) :
    last? key (a :: l) k = (last? key l k).or (if key a = k then some a else none) := by
  rw [last?, List.reverse_cons, List.find?_append]
  congr 1
  by_cases h : key a = k <;> simp [h]

theorem merge_append (t l l' : Entries κ ν) : merge t (l ++ l') = merge (merge t l) l' :=
  List.foldl_append

/-- New keys come behind those of the table, in the order in which they first occur. -/
theorem keys_merge (t l : Entries κ ν) :
    keys (merge t l) = keys t ++ distinct ((l.map Prod.fst).removeAll (keys t)) := by
  induction l generalizing t with
  | nil => simp [distinct, List.removeAll]
  | cons e l ih =>
      obtain ⟨k, v⟩ := e
      rw [merge_cons, ih, keys_set, List.map_cons]
      by_cases h : k ∈ keys t
      · simp [List.removeAll, h]
      · have later : (l.map Prod.fst).removeAll (keys t ++ [k]) =
            ((l.map Prod.fst).removeAll (keys t)).filter fun k' => !(k' == k) := by
          rw [List.removeAll, List.removeAll, List.filter_filter]
          refine List.filter_congr fun k' _ => ?_
          by_cases same : k' = k <;> simp [same]
        rw [if_neg h, later, List.append_assoc]
        simp [distinct, List.removeAll, h, List.eraseDups_cons]

theorem keys_ofList (l : List (κ × ν)) : keys (ofList l) = distinct (l.map Prod.fst) := by
  rw [ofList, keys_merge, keys_nil, List.nil_append, List.removeAll_nil]

theorem nodup_distinct (ks : List κ) : (distinct ks).Nodup := by
  have filled := nodup_keys_ofList (ks.map fun k => (k, ()))
  simpa [keys_ofList, Function.comp_def] using filled

/-- What is found is the last new value, or else the one that was there. -/
theorem get?_merge (t l : Entries κ ν) (k : κ) :
    get? (merge t l) k = ((last? Prod.fst l k).map Prod.snd).or (get? t k) := by
  induction l generalizing t with
  | nil => rfl
  | cons e l ih =>
      obtain ⟨k', v⟩ := e
      rw [merge_cons, ih, get?_set, last?_cons]
      by_cases h : k' = k <;> cases last? Prod.fst l k <;> simp [h]

theorem get?_merge_of_not_mem {t l : Entries κ ν} {k : κ} (h : k ∉ keys l) :
    get? (merge t l) k = get? t k := by
  have none : last? Prod.fst l k = none := by
    rw [last?, List.find?_eq_none]
    intro e member
    have : e.1 ∈ keys l := List.mem_map_of_mem (List.mem_reverse.1 member)
    simp only [decide_eq_true_eq]
    rintro rfl
    exact h this
  rw [get?_merge, none]
  rfl

theorem mem_of_get? {t : Entries κ ν} {k : κ} {v : ν} (h : get? t k = some v) : (k, v) ∈ t := by
  induction t with
  | nil => cases h
  | cons e t ih =>
      rw [get?_cons] at h
      split at h
      · next same =>
          cases h
          rw [← same]
          exact List.mem_cons_self
      · exact List.mem_cons_of_mem e (ih h)

/-- Where no key stands twice, every entry is found. -/
theorem get?_of_mem {t : Entries κ ν} {k : κ} {v : ν} (distinct : (keys t).Nodup)
    (member : (k, v) ∈ t) : get? t k = some v := by
  induction t with
  | nil => contradiction
  | cons e t ih =>
      rw [keys, List.map_cons, List.nodup_cons] at distinct
      rw [get?_cons]
      rcases List.mem_cons.1 member with rfl | member
      · exact if_pos rfl
      · have other : e.1 ≠ k := fun same => distinct.1 (same ▸ List.mem_map_of_mem member)
        rw [if_neg other]
        exact ih distinct.2 member

theorem get?_eq_none_iff {t : Entries κ ν} {k : κ} : get? t k = none ↔ k ∉ keys t := by
  induction t with
  | nil => simp
  | cons e t ih =>
      obtain ⟨k', v⟩ := e
      by_cases same : k' = k
      · simp [get?_cons, same]
      · simp [get?_cons, same, Ne.symm same, ih]

theorem get?_ofList (l : List (κ × ν)) (k : κ) :
    get? (ofList l) k = (last? Prod.fst l k).map Prod.snd := by
  rw [ofList, get?_merge, get?_nil, Option.or_none]

/-- What is found in two lists of entries is what the second one says, or else the first one. -/
theorem get?_ofList_append (l l' : List (κ × ν)) (k : κ) :
    get? (ofList (l ++ l')) k = (get? (ofList l') k).or (get? (ofList l) k) := by
  rw [ofList, merge_append, get?_merge, get?_ofList l']
  rfl

theorem filterMap_congr {f g : α → Option ν} {l : List α} (h : ∀ a ∈ l, f a = g a) :
    l.filterMap f = l.filterMap g := by
  induction l with
  | nil => rfl
  | cons a l ih =>
      rw [List.filterMap_cons, List.filterMap_cons, h a (by simp),
        ih fun a' member => h a' (by simp [member])]

/-- A table without repeated keys is the list of its keys with what is found under them. -/
theorem eq_filterMap_keys {t : Entries κ ν} (h : (keys t).Nodup) :
    t = (keys t).filterMap fun k => (get? t k).map (k, ·) := by
  induction t with
  | nil => rfl
  | cons e t ih =>
      obtain ⟨k, v⟩ := e
      rw [keys_cons, List.nodup_cons] at h
      have rest : t = (keys t).filterMap fun k' => (get? ((k, v) :: t) k').map (k', ·) := by
        refine (ih h.2).trans (filterMap_congr fun k' member => ?_)
        have distinct : k ≠ k' := fun same => h.1 (same ▸ member)
        rw [get?_cons, if_neg distinct]
      rw [keys_cons, List.filterMap_cons_some (by rw [get?_cons, if_pos rfl, Option.map_some]),
        ← rest]

theorem ofList_eq (l : List (κ × ν)) : ofList l = lastOfEach Prod.fst l := by
  rw [eq_filterMap_keys (nodup_keys_ofList l), keys_ofList, lastOfEach]
  refine filterMap_congr fun k _ => ?_
  rw [get?_ofList]
  cases h : last? Prod.fst l k with
  | none => rfl
  | some e =>
      obtain rfl := key_of_last? h
      rfl

theorem ofList_map {key : α → κ} (val : α → ν) (l : List α) :
    ofList (l.map fun a => (key a, val a)) = (lastOfEach key l).map fun a => (key a, val a) := by
  rw [ofList_eq, lastOfEach_map]

/-- Where no key is repeated, every member is the last one of its key. -/
theorem lastOfEach_eq_self {key : α → κ} {l : List α} (h : (l.map key).Nodup) :
    lastOfEach key l = l := by
  induction l with
  | nil => rfl
  | cons a l ih =>
      rw [List.map_cons, List.nodup_cons] at h
      have first : last? key (a :: l) (key a) = some a := by
        have none : last? key l (key a) = none := by
          rw [last?, List.find?_eq_none]
          intro b member same
          refine h.1 (List.mem_map.2 ⟨b, List.mem_reverse.1 member, ?_⟩)
          simpa using same
        rw [last?_cons, none, if_pos rfl]
        rfl
      have others (k : κ) (member : k ∈ distinct (l.map key)) :
          last? key (a :: l) k = last? key l k := by
        obtain ⟨b, found⟩ := last?_isSome_of_mem (List.mem_eraseDups.1 member)
        rw [last?_cons, found]
        rfl
      rw [lastOfEach, List.map_cons, distinct_cons, filter_ne_of_not_mem h.1,
        List.filterMap_cons_some first, filterMap_congr others]
      exact congrArg (a :: ·) (ih h.2)

/-- Where no key is repeated, the order of the members does not count. -/
theorem last?_perm {key : α → κ} {l l' : List α} (perm : l'.Perm l) (distinct : (l.map key).Nodup)
    (k : κ) : last? key l' k = last? key l k := by
  have reversed := (l'.reverse_perm.trans perm).trans l.reverse_perm.symm
  refine List.find?_eq_find?_of_perm reversed fun a first b second => ?_
  obtain ⟨first, named⟩ := first
  obtain ⟨second, named'⟩ := second
  simp only [decide_eq_true_eq] at named named'
  refine List.inj_on_of_nodup_map distinct ?_ ?_ (named.trans named'.symm)
  · exact perm.mem_iff.1 (List.mem_reverse.1 first)
  · exact perm.mem_iff.1 (List.mem_reverse.1 second)

/-- Where no key stands twice among the new values, each of them counts. -/
theorem get?_merge_of_nodup {t l : Entries κ ν} (distinct : (keys l).Nodup) (k : κ) :
    get? (merge t l) k = (get? l k).or (get? t k) := by
  have last : get? l k = (last? Prod.fst l k).map Prod.snd := by
    rw [← get?_ofList, ofList_eq, lastOfEach_eq_self distinct]
  rw [get?_merge, last]

/-- A table made of some keys with what there is for them. -/
theorem get?_filterMap (value : κ → Option ν) (ks : List κ) (k : κ) :
    get? (ks.filterMap fun k => (value k).map (k, ·)) k = if k ∈ ks then value k else none := by
  induction ks with
  | nil => rfl
  | cons k' ks ih =>
      cases given : value k' with
      | none =>
          rw [List.filterMap_cons_none (by rw [given]; rfl), ih]
          by_cases same : k = k'
          · simp [same, given]
          · simp [same]
      | some v =>
          rw [List.filterMap_cons_some (by rw [given]; rfl), get?_cons, ih]
          by_cases same : k = k'
          · simp [same, given]
          · simp [same, Ne.symm same]

omit [DecidableEq κ] in
theorem keys_filterMap_sublist (value : κ → Option ν) (ks : List κ) :
    (keys (ks.filterMap fun k => (value k).map (k, ·))).Sublist ks := by
  induction ks with
  | nil => exact .slnil
  | cons k ks ih =>
      cases given : value k with
      | none =>
          rw [List.filterMap_cons_none (by rw [given]; rfl)]
          exact ih.cons k
      | some v =>
          rw [List.filterMap_cons_some (by rw [given]; rfl)]
          exact ih.cons_cons k

/-- Where no key stands twice, leaving out entries leaves the others to be found. -/
theorem get?_filter {t : Entries κ ν} (distinct : (keys t).Nodup) (p : ν → Bool) (k : κ) :
    get? (t.filter fun e => p e.2) k = (get? t k).filter p := by
  induction t with
  | nil => rfl
  | cons e t ih =>
      obtain ⟨k', v⟩ := e
      rw [keys_cons, List.nodup_cons] at distinct
      have rest := ih distinct.2
      by_cases same : k' = k
      · subst same
        rw [get?_eq_none_iff.2 distinct.1] at rest
        cases kept : p v <;> simp [get?_cons, kept, rest, Option.filter]
      · cases kept : p v <;> simp [get?_cons, kept, same, rest]

end MarkdownTree.Entries
