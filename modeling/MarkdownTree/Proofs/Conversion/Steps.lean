import MarkdownTree.Conversion.Progress

/-!
# Composing the steps of a conversion

A conversion is a sequence of steps that can fail and that carry a progress. The equations of
`>>=` say how one step follows another. `Ensures` is the postcondition of a conversion that
succeeds; it composes along `>>=`, `within` and `collectEach`, so that a property of the result
is proved without looking at the progress at all.

`Each` relates two lists position by position, which is how `collectEach` keys its results.
-/

namespace MarkdownTree

/-- Position by position, counted from the given one, the members of two lists are related. -/
inductive Each (R : Nat → α → β → Prop) : Nat → List α → List β → Prop where
  | nil {i : Nat} : Each R i [] []
  | cons {i : Nat} {a : α} {b : β} {as : List α} {bs : List β} :
      R i a b → Each R (i + 1) as bs → Each R i (a :: as) (b :: bs)

namespace Each

variable {R S : Nat → α → β → Prop} {i : Nat} {as : List α} {bs : List β}

theorem mono (h : Each R i as bs) (weaken : ∀ j a b, a ∈ as → R j a b → S j a b) :
    Each S i as bs := by
  induction h with
  | nil => exact .nil
  | cons head _ ih =>
      refine .cons (weaken _ _ _ (by simp) head) (ih ?_)
      intro j a b member
      exact weaken j a b (List.mem_cons_of_mem _ member)

theorem length_eq (h : Each R i as bs) : bs.length = as.length := by
  induction h with
  | nil => rfl
  | cons _ _ ih => simp only [List.length_cons, ih]

theorem exists_of_mem (h : Each R i as bs) {b : β} (member : b ∈ bs) :
    ∃ j, ∃ a ∈ as, R j a b := by
  induction h with
  | nil => contradiction
  | @cons j a _ as _ head _ ih =>
      rcases List.mem_cons.1 member with rfl | member
      · exact ⟨j, a, List.mem_cons_self, head⟩
      · obtain ⟨k, a', there, related⟩ := ih member
        exact ⟨k, a', List.mem_cons_of_mem a there, related⟩

theorem of_singleton {a : α} (h : Each R i [a] bs) : ∃ b, bs = [b] ∧ R i a b := by
  cases h with
  | cons head tail =>
      cases tail
      exact ⟨_, rfl, head⟩

theorem of_map {T : Nat → γ → β → Prop} {g : γ → α} {cs : List γ} (h : Each R i (cs.map g) bs)
    (back : ∀ j c b, c ∈ cs → R j (g c) b → T j c b) : Each T i cs bs := by
  induction cs generalizing i bs with
  | nil =>
      cases h
      exact .nil
  | cons c cs ih =>
      cases h with
      | cons head tail =>
          refine .cons (back _ _ _ (by simp) head) (ih tail ?_)
          intro j d b member
          exact back j d b (List.mem_cons_of_mem _ member)

/-- A list related to one in two parts has two parts itself. -/
theorem of_append {as' : List α} {cs : List β} (h : Each R i (as ++ as') cs) :
    ∃ bs bs', cs = bs ++ bs' ∧ Each R i as bs ∧ Each R (i + as.length) as' bs' := by
  induction as generalizing i cs with
  | nil => exact ⟨[], cs, rfl, .nil, by simpa using h⟩
  | cons a as ih =>
      cases h with
      | cons head tail =>
          obtain ⟨bs, bs', rfl, first, second⟩ := ih tail
          refine ⟨_ :: bs, bs', rfl, .cons head first, ?_⟩
          simpa only [List.length_cons, Nat.add_assoc, Nat.add_comm 1] using second

/-- A list made of another by a function of position and member is related as the members are. -/
theorem of_mapIdx {T : Nat → γ → β → Prop} {g : Nat → γ → α} {cs : List γ}
    (h : Each R i (cs.mapIdx fun j => g (i + j)) bs)
    (back : ∀ j c b, c ∈ cs → R j (g j c) b → T j c b) : Each T i cs bs := by
  induction cs generalizing i bs with
  | nil =>
      cases h
      exact .nil
  | cons c cs ih =>
      rw [List.mapIdx_cons] at h
      cases h with
      | cons head tail =>
          refine .cons (back _ _ _ (by simp) head) (ih ?_ ?_)
          · simpa only [Nat.add_assoc, Nat.add_comm 1] using tail
          · intro j d b member
            exact back j d b (List.mem_cons_of_mem _ member)

/-- If every related member is there, the list of those that are there is related. -/
theorem of_some {found : List (Option β)}
    (h : Each (fun j a b? => ∃ b, b? = some b ∧ R j a b) i as found) :
    Each R i as (found.flatMap Option.toList) := by
  induction h with
  | nil => exact .nil
  | cons head _ ih =>
      obtain ⟨b, rfl, related⟩ := head
      exact .cons related ih

end Each

/-! ### Steps that can fail and that carry a state -/

section run

variable {ε σ : Type} {m : ExceptT ε (StateM σ) α} {f : α → ExceptT ε (StateM σ) β} {p q : σ}

theorem bind_of_ok {a : α} (h : m p = (.ok a, q)) : (m >>= f) p = f a q := by
  change (ExceptT.bindCont f (m p).1 : StateM σ _) (m p).2 = _
  rw [h]
  rfl

theorem bind_of_error {e : ε} (h : m p = (.error e, q)) : (m >>= f) p = (.error e, q) := by
  change (ExceptT.bindCont f (m p).1 : StateM σ _) (m p).2 = _
  rw [h]
  rfl

end run

namespace Conversion

variable {m : Conversion α} {f : α → Conversion β} {p q r : Progress} {a : α} {b : β}

/-- A sequence succeeds if and only if both of its parts do. -/
theorem bind_eq_ok :
    (m >>= f) p = (.ok b, r) ↔ ∃ a q, m p = (.ok a, q) ∧ f a q = (.ok b, r) := by
  constructor
  · intro h
    rcases hm : m p with ⟨e | a, q⟩
    · rw [bind_of_error hm] at h
      cases h
    · exact ⟨a, q, rfl, by rwa [bind_of_ok hm] at h⟩
  · rintro ⟨a, q, hm, hf⟩
    rw [bind_of_ok hm, hf]

/-- There is always room for the outermost call. -/
theorem call_zero (c : Context) : call c 0 = pure () := by
  unfold call
  split
  · rfl
  · exact if_neg (Nat.not_lt_zero _)

theorem call_eq (c : Context) (frames : Nat) :
    call c frames = pure () ∨ call c frames = throw .stackExhausted := by
  unfold call
  split
  · exact .inl rfl
  · split
    · exact .inr rfl
    · exact .inl rfl

theorem call_of_room {c : Context} {frames : Nat}
    (room : ∀ limit ∈ c.stackLimit, frames ≤ limit) :
    call c frames = pure () := by
  unfold call
  cases h : c.stackLimit with
  | none => rfl
  | some limit => exact if_neg (Nat.not_lt.2 (room limit h))

/-- A node that is too deep fails and leaves the progress as it was. -/
theorem within_of_lt {limit : Nat} (h : limit < p.depth + 1) :
    within limit m p = (.error (.tooDeep limit), p) := by
  simp only [within, if_pos h, reported, Nat.add_sub_cancel]

theorem within_of_not_lt {limit : Nat} {x : Except Failure α} (h : ¬ limit < p.depth + 1)
    (run : m { p with depth := p.depth + 1 } = (x, q)) :
    within limit m p = (reported limit p.depth x, { q with depth := q.depth - 1 }) := by
  simp only [within, if_neg h, run]

theorem reported_eq_ok {limit depth : Nat} {x : Except Failure α} :
    reported limit depth x = .ok a ↔ x = .ok a := by
  unfold reported
  split
  · split <;> simp
  · rfl

/-- Mapping the result of a conversion keeps its failure and its progress. -/
theorem map_apply (f : α → β) (m : Conversion α) (p : Progress) :
    (f <$> m) p = ((m p).1.map f, (m p).2) := by
  rw [← bind_pure_comp]
  rcases run : m p with ⟨e | a, q⟩
  · rw [bind_of_error run]
    rfl
  · rw [bind_of_ok run]
    rfl

theorem within_map (limit : Nat) (f : α → β) (m : Conversion α) :
    within limit (f <$> m) = f <$> within limit m := by
  have mapped (depth : Nat) (x : Except Failure α) :
      reported limit depth (x.map f) = (reported limit depth x).map f := by
    rcases x with e | a
    · cases e <;> simp only [reported, Except.map]
      split <;> rfl
    · rfl
  funext p
  rw [map_apply]
  by_cases deep : limit < p.depth + 1
  · rw [within_of_lt deep, within_of_lt deep]
    rfl
  · rw [within_of_not_lt deep (map_apply f m _), within_of_not_lt (m := m) deep rfl, mapped]

theorem start_map (f : α → β) (m : Conversion α) :
    start (f <$> m) = ((start m).1.map f, (start m).2) := by
  change (((f <$> m) {}).1, ((f <$> m) {}).2.warnings) = _
  rw [map_apply]
  rfl

/-- The conversion can succeed with the given result. -/
def Yields (m : Conversion α) (a : α) : Prop := ∃ p q, m p = (.ok a, q)

theorem yields_of_bind (h : Yields (m >>= f) b) : ∃ a, Yields m a ∧ Yields (f a) b := by
  obtain ⟨p, r, run⟩ := h
  obtain ⟨a, q, first, second⟩ := bind_eq_ok.1 run
  exact ⟨a, ⟨p, q, first⟩, q, r, second⟩

theorem eq_of_yields_pure {a' : α} (h : Yields (pure a) a') : a' = a := by
  obtain ⟨p, q, run⟩ := h
  cases run
  rfl

theorem start_fst_eq {x : Except Failure α} : (start m).1 = x ↔ ∃ q, m {} = (x, q) := by
  constructor
  · intro h
    exact ⟨(m {}).2, Prod.ext h rfl⟩
  · rintro ⟨q, run⟩
    change (m {}).1 = x
    rw [run]

theorem exists_of_isOk {x : Except Failure α} (h : x.isOk = true) : ∃ a, x = .ok a := by
  cases x with
  | error e => cases h
  | ok a => exact ⟨a, rfl⟩

theorem eq_ok_of_join {x : Except Failure (Option α)} (h : x.toOption.join = some a) :
    x = .ok (some a) := by
  cases x with
  | error e => cases h
  | ok a? => exact congrArg Except.ok h

/-- Whenever the conversion succeeds, its result has the property. -/
def Ensures (m : Conversion α) (P : α → Prop) : Prop :=
  ∀ p a q, m p = (.ok a, q) → P a

namespace Ensures

variable {P P' : α → Prop} {Q : β → Prop}

theorem mono (h : Ensures m P) (weaken : ∀ a, P a → P' a) : Ensures m P' :=
  fun p a q run => weaken a (h p a q run)

theorem trivial (m : Conversion α) : Ensures m fun _ => True := fun _ _ _ _ => True.intro

/-- The strongest postcondition. -/
theorem yields (m : Conversion α) : Ensures m (Yields m) := fun p _ q run => ⟨p, q, run⟩

theorem of_yields (h : Ensures m P) (result : Yields m a) : P a := by
  obtain ⟨p, q, run⟩ := result
  exact h p a q run

theorem pure (h : P a) : Ensures (pure a) P := by
  intro p a' q run
  cases run
  exact h

theorem throw (e : Failure) : Ensures (throw e) P := by
  intro p a q run
  cases run

theorem bind (first : Ensures m P) (second : ∀ a, P a → Ensures (f a) Q) :
    Ensures (m >>= f) Q := by
  intro p b r run
  obtain ⟨a, q, hm, hf⟩ := bind_eq_ok.1 run
  exact second a (first p a q hm) q b r hf

/-- A first step of which nothing is used. -/
theorem seq (second : ∀ a, Ensures (f a) Q) : Ensures (m >>= f) Q :=
  bind (trivial m) fun a _ => second a

theorem within (limit : Nat) (h : Ensures m P) : Ensures (within limit m) P := by
  intro p a q run
  by_cases deep : limit < p.depth + 1
  · rw [within_of_lt deep] at run
    cases run
  · rcases hm : m { p with depth := p.depth + 1 } with ⟨x, q'⟩
    rw [within_of_not_lt deep hm, Prod.mk.injEq, reported_eq_ok] at run
    exact h _ a q' (by rw [hm, run.1])

/-- The results of `collectEach` are those of its steps that are there, in order. -/
theorem collectEach {g : Nat → α → Conversion (Option β)} {R : Nat → α → Option β → Prop}
    {l : List α} {i : Nat} (step : ∀ j a, a ∈ l → Ensures (g j a) (R j a)) :
    Ensures (collectEach g i l) fun bs =>
      ∃ found, Each R i l found ∧ bs = found.flatMap Option.toList := by
  induction l generalizing i with
  | nil => exact pure ⟨[], .nil, rfl⟩
  | cons a l ih =>
      refine bind (step i a (by simp)) ?_
      intro b? head
      refine bind (ih fun j a' member => step j a' (List.mem_cons_of_mem _ member)) ?_
      rintro bs ⟨found, tail, rfl⟩
      exact pure ⟨b? :: found, .cons head tail, rfl⟩

end Ensures

/-- At the given depth the conversion fails with `e`, whatever was recorded before. -/
def FailsAt (depth : Nat) (e : Failure) (m : Conversion α) : Prop :=
  ∀ before, ∃ q, m ⟨depth, before⟩ = (.error e, q)

namespace FailsAt

variable {depth : Nat} {e : Failure}

theorem throw (depth : Nat) (e : Failure) : FailsAt depth e (throw e : Conversion α) :=
  fun before => ⟨⟨depth, before⟩, rfl⟩

theorem bind (h : FailsAt depth e m) (f : α → Conversion β) : FailsAt depth e (m >>= f) := by
  intro before
  obtain ⟨q, run⟩ := h before
  exact ⟨q, bind_of_error run⟩

/-- A call for which there is no room fails like what comes after it on an exhausted stack. -/
theorem call {f : Unit → Conversion α} (c : Context) (frames : Nat)
    (rest : FailsAt depth .stackExhausted (f ())) :
    FailsAt depth .stackExhausted (call c frames >>= f) := by
  rcases call_eq c frames with room | full
  · rw [room, pure_bind]
    exact rest
  · rw [full]
    exact (throw depth _).bind f

/-- A node passes the failure of its inside on, except that the outermost one reports an exhausted
stack. -/
theorem within {limit : Nat} {e' : Failure} (shallow : depth + 1 ≤ limit)
    (passed : reported limit depth (.error e : Except Failure α) = .error e')
    (inside : FailsAt (depth + 1) e m) : FailsAt depth e' (within limit m) := by
  intro before
  obtain ⟨q, run⟩ := inside before
  refine ⟨{ q with depth := q.depth - 1 }, ?_⟩
  rw [within_of_not_lt (p := ⟨depth, before⟩) (Nat.not_lt.2 shallow) run, passed]

end FailsAt

end Conversion

end MarkdownTree
