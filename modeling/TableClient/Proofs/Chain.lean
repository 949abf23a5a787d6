import Mathlib.Data.List.Forall2

/-!
# Chains of Readings

What it means that a reading made of others succeeds, and for what it fails.

A reading may fail, and then so does every chain that it is part of. The lemmas
say what a success of the whole says about the parts. Where the parts are the
items of a list, what is read is a list too, and the two are related item by
item with `List.Forall₂`.

A chain stops at the first part that fails, so what it fails for is the first
fault of its parts. What can be wrong with a part is said for that part alone,
by a relation between items and errors. `FirstOf` puts an order on them, and
`failsFor_append` is the step that a chain takes for each of its parts. A part
may be a chain itself, so the step speaks of several items at once.

## Main definitions

* `FirstOf`: The error of the first item that is at fault.
* `FailsFor`: A reading fails for certain faults and for no other reason.

## Theorems

* `bind_eq_ok`, `map_eq_ok`: A chain of readings succeeds if each of them does.
* `mapM_eq_some`, `mapM_eq_ok`: A list is read if its items are.
* `map_eq_self_iff`: A list that a function leaves as it is.
* `forall₂_imp_of_mem`, `forall_mem_of_forall₂`, `map_eq_map_of_forall₂`,
  `exists_forall₂`: Lists related item by item.
* `firstOf_cons`, `firstOf_append`: The first fault is that of the first item or
  items, or comes later.
* `forall_not_firstOf_iff`: There is no first fault just if there is none.
* `firstOf_map`, `failsFor_mapError`: Faults told in other words.
* `failsFor_append`, `failsFor_bind`: A chain fails for the first fault of its
  parts.
-/

namespace TableClient

theorem bind_eq_ok {ε α β : Type} {x : Except ε α} {f : α → Except ε β} {b : β} :
    (x >>= f) = .ok b ↔ ∃ a, x = .ok a ∧ f a = .ok b := by
  cases x with
  | error e => exact ⟨fun h => (nomatch h), fun ⟨_, h, _⟩ => (nomatch h)⟩
  | ok a => exact ⟨fun h => ⟨a, rfl, h⟩, fun ⟨_, h, hf⟩ => by cases h; exact hf⟩

theorem map_eq_ok {ε α β : Type} {x : Except ε α} {f : α → β} {b : β} :
    x.map f = .ok b ↔ ∃ a, x = .ok a ∧ f a = b := by
  cases x <;> simp [Except.map]

/-- A reading of all items reads them one by one. -/
theorem mapM_eq_some {α β : Type} {f : α → Option β} {as : List α} {bs : List β} :
    as.mapM f = some bs ↔ List.Forall₂ (fun a b => f a = some b) as bs := by
  induction as generalizing bs with
  | nil => rw [List.mapM_nil, List.forall₂_nil_left_iff, Option.pure_def, Option.some.injEq, eq_comm]
  | cons a as ih =>
      rw [List.mapM_cons, List.forall₂_cons_left_iff]
      simp only [Option.bind_eq_bind, Option.bind_eq_some_iff, ih, Option.pure_def,
        Option.some.injEq]
      exact ⟨fun ⟨b, h, bs, hs, he⟩ => ⟨b, bs, h, hs, he.symm⟩,
        fun ⟨b, bs, h, hs, he⟩ => ⟨b, h, bs, hs, he.symm⟩⟩

theorem mapM_eq_ok {ε α β : Type} {f : α → Except ε β} {as : List α} {bs : List β} :
    as.mapM f = .ok bs ↔ List.Forall₂ (fun a b => f a = .ok b) as bs := by
  induction as generalizing bs with
  | nil =>
      simp only [List.mapM_nil, List.forall₂_nil_left_iff, pure, Except.pure, Except.ok.injEq,
        eq_comm]
  | cons a as ih =>
      rw [List.mapM_cons, List.forall₂_cons_left_iff]
      simp only [bind_eq_ok, ih, pure, Except.pure, Except.ok.injEq]
      exact ⟨fun ⟨b, h, bs, hs, he⟩ => ⟨b, bs, h, hs, he.symm⟩,
        fun ⟨b, bs, h, hs, he⟩ => ⟨b, h, bs, hs, he.symm⟩⟩

/-- A list stays as it is if each of its members does. -/
theorem map_eq_self_iff {α : Type} {f : α → α} {as : List α} :
    as.map f = as ↔ ∀ a ∈ as, f a = a := by
  simpa using List.map_eq_map_iff (f := f) (g := id) (l := as)

/-- What holds of the pairs of two lists may be replaced by what follows from it
    for members of these lists. -/
theorem forall₂_imp_of_mem {α β : Type} {R S : α → β → Prop} {as : List α} {bs : List β}
    (h : List.Forall₂ R as bs) (himp : ∀ a ∈ as, ∀ b ∈ bs, R a b → S a b) :
    List.Forall₂ S as bs := by
  induction h with
  | nil => exact .nil
  | cons hhead _ ih =>
      refine .cons (himp _ List.mem_cons_self _ List.mem_cons_self hhead) (ih ?_)
      exact fun a ha b hb => himp a (List.mem_cons_of_mem _ ha) b (List.mem_cons_of_mem _ hb)

/-- What follows for a member of a list from its partner holds of all members. -/
theorem forall_mem_of_forall₂ {α β : Type} {R : α → β → Prop} {P : α → Prop} {as : List α}
    {bs : List β} (h : List.Forall₂ R as bs) (himp : ∀ a ∈ as, ∀ b ∈ bs, R a b → P a) :
    ∀ a ∈ as, P a := by
  have hpairs : List.Forall₂ (fun a b => P a ∧ R a b) as bs :=
    forall₂_imp_of_mem h fun a ha b hb hab => ⟨himp a ha b hb hab, hab⟩
  exact ((List.forall₂_and_left as bs).1 hpairs).1

/-- Two lists become the same if partners do. -/
theorem map_eq_map_of_forall₂ {α β γ : Type} {R : α → β → Prop} {f : α → γ} {g : β → γ}
    {as : List α} {bs : List β} (h : List.Forall₂ R as bs)
    (hsame : ∀ a ∈ as, ∀ b ∈ bs, R a b → f a = g b) : as.map f = bs.map g := by
  rw [← List.forall₂_eq_eq_eq, List.forall₂_map_left_iff, List.forall₂_map_right_iff]
  exact forall₂_imp_of_mem h hsame

/-- If each member of a list has a partner, there is a list of partners. -/
theorem exists_forall₂ {α β : Type} {R : α → β → Prop} {as : List α} (h : ∀ a ∈ as, ∃ b, R a b) :
    ∃ bs, List.Forall₂ R as bs := by
  induction as with
  | nil => exact ⟨[], .nil⟩
  | cons a as ih =>
      rcases List.forall_mem_cons.1 h with ⟨⟨b, hfirst⟩, hrest⟩
      rcases ih hrest with ⟨bs, hpartners⟩
      exact ⟨b :: bs, .cons hfirst hpartners⟩

/-! ### What a chain fails for -/

section

variable {ι ε α β : Type} {faulty : ι → ε → Prop} {item : ι} {items others : List ι} {error : ε}

/-- The error of the first of some items that is at fault. -/
def FirstOf (faulty : ι → ε → Prop) (items : List ι) (error : ε) : Prop :=
  ∃ before item after, items = before ++ item :: after ∧
    (∀ earlier ∈ before, ∀ error, ¬faulty earlier error) ∧ faulty item error

/-- A reading fails for the given faults and for no other reason. -/
def FailsFor (reading : Except ε α) (fault : ε → Prop) : Prop :=
  ∀ error, reading = .error error ↔ fault error

/-- A reading has one error at most, so only one of the given faults is there. -/
theorem FailsFor.unique {reading : Except ε α} {fault : ε → Prop} (h : FailsFor reading fault)
    {other : ε} (hfault : fault error) (hother : fault other) : error = other :=
  Except.error.inj (((h error).2 hfault).symm.trans ((h other).2 hother))

theorem not_firstOf_nil : ¬FirstOf faulty [] error := by
  rintro ⟨before, item, after, hitems, -⟩
  cases before <;> cases hitems

theorem firstOf_cons : FirstOf faulty (item :: items) error ↔
    faulty item error ∨ (∀ error, ¬faulty item error) ∧ FirstOf faulty items error := by
  constructor
  · rintro ⟨_ | ⟨head, before⟩, found, after, hitems, hbefore, hfaulty⟩
    · cases hitems
      exact .inl hfaulty
    · cases hitems
      rcases List.forall_mem_cons.1 hbefore with ⟨hhead, hrest⟩
      exact .inr ⟨hhead, before, found, after, rfl, hrest, hfaulty⟩
  · rintro (hfaulty | ⟨hsound, before, found, after, rfl, hbefore, hfaulty⟩)
    · exact ⟨[], item, items, rfl, fun _ h => (nomatch h), hfaulty⟩
    · exact ⟨item :: before, found, after, rfl, List.forall_mem_cons.2 ⟨hsound, hbefore⟩, hfaulty⟩

theorem firstOf_singleton : FirstOf faulty [item] error ↔ faulty item error := by
  rw [firstOf_cons]
  simp only [not_firstOf_nil, and_false, or_false]

/-- There is no first fault just if there is none at all. -/
theorem forall_not_firstOf_iff :
    (∀ error, ¬FirstOf faulty items error) ↔ ∀ item ∈ items, ∀ error, ¬faulty item error := by
  induction items with
  | nil => exact ⟨fun _ _ h => (nomatch h), fun _ _ => not_firstOf_nil⟩
  | cons item items ih =>
      rw [List.forall_mem_cons, ← ih]
      simp only [firstOf_cons, not_or, not_and]
      constructor
      · intro h
        have hsound : ∀ error, ¬faulty item error := fun error => (h error).1
        exact ⟨hsound, fun error => (h error).2 hsound⟩
      · rintro ⟨hsound, hrest⟩ error
        exact ⟨hsound error, fun _ => hrest error⟩

/-- The first fault of items in a row is that of the first ones, or comes from
    the others if nothing is wrong with these. -/
theorem firstOf_append : FirstOf faulty (items ++ others) error ↔
    FirstOf faulty items error ∨
      (∀ error, ¬FirstOf faulty items error) ∧ FirstOf faulty others error := by
  induction items with
  | nil => simp only [List.nil_append, not_firstOf_nil, not_false_eq_true, implies_true, true_and,
      false_or]
  | cons item items ih =>
      rw [List.cons_append, firstOf_cons, firstOf_cons, ih]
      simp only [forall_not_firstOf_iff, List.forall_mem_cons]
      tauto

/-- Items that stand for others, with errors that stand for theirs, have the
    first fault that these have. -/
theorem firstOf_map {κ δ : Type} {faults : κ → δ → Prop} {place : ι → κ} {wrap : ε → δ}
    (h : ∀ item fault, faults (place item) fault ↔ ∃ error, faulty item error ∧ wrap error = fault)
    {fault : δ} :
    FirstOf faults (items.map place) fault
      ↔ ∃ error, FirstOf faulty items error ∧ wrap error = fault := by
  have hsound : ∀ item, (∀ fault, ¬faults (place item) fault) ↔ ∀ error, ¬faulty item error := by
    intro item
    simp only [h, not_exists, not_and]
    exact ⟨fun hnone error hfaulty => hnone (wrap error) error hfaulty rfl,
      fun hnone _ error hfaulty => absurd hfaulty (hnone error)⟩
  induction items with
  | nil => simp only [List.map_nil, not_firstOf_nil, false_and, exists_false]
  | cons item items ih =>
      rw [List.map_cons, firstOf_cons, hsound, h]
      simp only [ih, firstOf_cons, or_and_right, exists_or, and_assoc, exists_and_left]

theorem failsFor_ok (a : α) : FailsFor (.ok a) (FirstOf faulty []) :=
  fun _ => ⟨fun h => (nomatch h), fun h => absurd h not_firstOf_nil⟩

/-- A reading whose errors are told in other words fails for the same faults. -/
theorem failsFor_mapError {δ : Type} {reading : Except ε α} {fault : ε → Prop}
    (h : FailsFor reading fault) (wrap : ε → δ) :
    FailsFor (reading.mapError wrap) fun told => ∃ error, fault error ∧ wrap error = told := by
  intro told
  simp only [← h _]
  cases reading <;> simp [Except.mapError]

/-- A reading in front of others fails for the first fault of them all. The
    others are read only if nothing is wrong with this one, and may depend on
    what was read. -/
theorem failsFor_append {reading : Except ε α} {next : α → Except ε β}
    (hfirst : FailsFor reading (FirstOf faulty items))
    (hnext : ∀ a, reading = .ok a → FailsFor (next a) (FirstOf faulty others)) :
    FailsFor (reading >>= next) (FirstOf faulty (items ++ others)) := by
  intro error
  rw [firstOf_append]
  cases reading with
  | error found =>
      -- The chain ends here, so this fault is the first, whatever is behind it.
      have hfault : FirstOf faulty items found := (hfirst found).1 rfl
      constructor
      · intro h
        cases h
        exact .inl hfault
      · rintro (h | ⟨hsound, -⟩)
        · cases (hfirst error).2 h
          rfl
        · exact absurd hfault (hsound found)
  | ok a =>
      have hsound : ∀ error, ¬FirstOf faulty items error := fun found h => nomatch (hfirst found).2 h
      constructor
      · intro h
        exact .inr ⟨hsound, (hnext a rfl error).1 h⟩
      · rintro (h | ⟨-, h⟩)
        · exact absurd h (hsound error)
        · exact (hnext a rfl error).2 h

/-- The step of a chain whose next readings do not depend on this one. -/
theorem failsFor_bind {reading : Except ε α} {next : α → Except ε β}
    (hfirst : FailsFor reading (faulty item))
    (hnext : ∀ a, FailsFor (next a) (FirstOf faulty items)) :
    FailsFor (reading >>= next) (FirstOf faulty (item :: items)) := by
  have hitem : FailsFor reading (FirstOf faulty [item]) := by
    intro error
    rw [firstOf_singleton]
    exact hfirst error
  exact failsFor_append hitem fun a _ => hnext a

/-- A reading that fails for certain faults succeeds just if none of them is
    there. -/
theorem exists_eq_ok_iff {reading : Except ε α} {fault : ε → Prop} (h : FailsFor reading fault) :
    (∃ a, reading = .ok a) ↔ ∀ error, ¬fault error := by
  cases reading with
  | error found =>
      have hfault : fault found := (h found).1 rfl
      exact ⟨fun ⟨_, h⟩ => (nomatch h), fun hnone => absurd hfault (hnone found)⟩
  | ok a => exact ⟨fun _ error hfault => (nomatch (h error).2 hfault), fun _ => ⟨a, rfl⟩⟩

end

end TableClient
