/-!
# Ordered tables

A table is the list of its entries in the order in which their keys were first given.
Setting a key that is already there changes its value and keeps its place; a new key goes to
the end. Props, definitions, overrides and the members of an object are tables of this kind.

The main statements say what `set` and `merge` do to the two views of a table, the lookup
`get?` and the list of `keys`.
-/

namespace MarkdownTree

/-- Entries in the order in which their keys were first given. -/
abbrev Entries (κ : Type u) (ν : Type v) := List (κ × ν)

namespace Entries

variable {κ : Type u} {ν : Type v}

/-- The keys of a table, in order. -/
def keys (t : Entries κ ν) : List κ := t.map Prod.fst

@[simp] theorem keys_nil : keys ([] : Entries κ ν) = [] := rfl

@[simp] theorem keys_cons (k : κ) (v : ν) (t : Entries κ ν) : keys ((k, v) :: t) = k :: keys t := rfl

variable [DecidableEq κ]

/-- The value of the first entry with key `k`. -/
def get? : Entries κ ν → κ → Option ν
  | [], _ => none
  | (k', v) :: t, k => if k' = k then some v else get? t k

@[simp] theorem get?_nil (k : κ) : get? ([] : Entries κ ν) k = none := rfl

theorem get?_cons (k' k : κ) (v : ν) (t : Entries κ ν) :
    get? ((k', v) :: t) k = if k' = k then some v else get? t k := rfl

/-- Gives `k` the value `v`: in its place if the key is there, at the end otherwise. -/
def set : Entries κ ν → κ → ν → Entries κ ν
  | [], k, v => [(k, v)]
  | (k', v') :: t, k, v => if k' = k then (k', v) :: t else (k', v') :: set t k v

theorem get?_set (t : Entries κ ν) (k k₁ : κ) (v : ν) :
    get? (set t k v) k₁ = if k = k₁ then some v else get? t k₁ := by
  induction t with
  | nil => simp [set, get?]
  | cons e t ih =>
    obtain ⟨k', v'⟩ := e
    by_cases h : k' = k
    · subst h
      by_cases h' : k' = k₁ <;> simp [set, get?, h']
    · by_cases h' : k' = k₁
      · subst h'
        simp [set, get?, h, Ne.symm h]
      · simp [set, get?, h, h', ih]

theorem keys_set (t : Entries κ ν) (k : κ) (v : ν) :
    keys (set t k v) = if k ∈ keys t then keys t else keys t ++ [k] := by
  induction t with
  | nil => simp [set, keys]
  | cons e t ih =>
    obtain ⟨k', v'⟩ := e
    by_cases h : k' = k
    · simp [set, h]
    · by_cases h' : k ∈ keys t <;> simp [set, h, Ne.symm h, ih, h']

theorem nodup_keys_set {t : Entries κ ν} (h : (keys t).Nodup) (k : κ) (v : ν) :
    (keys (set t k v)).Nodup := by
  rw [keys_set]
  split
  · exact h
  · next hk => exact List.nodup_append.2 ⟨h, by simp, by
      intro a ha b hb
      simp only [List.mem_singleton] at hb
      rintro rfl
      exact hk (hb ▸ ha)⟩

/-- The table `t` with every entry of `u` set, in the order of `u`. -/
def merge (t u : Entries κ ν) : Entries κ ν := u.foldl (fun acc e => set acc e.1 e.2) t

@[simp] theorem merge_nil (t : Entries κ ν) : merge t [] = t := rfl

@[simp] theorem merge_cons (t : Entries κ ν) (k : κ) (v : ν) (u : Entries κ ν) :
    merge t ((k, v) :: u) = merge (set t k v) u := rfl

theorem nodup_keys_merge {t : Entries κ ν} (h : (keys t).Nodup) (u : Entries κ ν) :
    (keys (merge t u)).Nodup := by
  induction u generalizing t with
  | nil => exact h
  | cons e u ih => exact ih (nodup_keys_set h e.1 e.2)

/-- The table that a list of entries describes when a later entry replaces an earlier one. -/
def ofList (l : List (κ × ν)) : Entries κ ν := merge [] l

theorem nodup_keys_ofList (l : List (κ × ν)) : (keys (ofList l)).Nodup :=
  nodup_keys_merge (by simp [keys]) l

end Entries

end MarkdownTree
