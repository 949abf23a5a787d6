import TableClient.Json.Parse
import TableClient.Proofs.Chain
import TableClient.Proofs.Dictionary

/-!
# Values with Their Objects in Order

Where values come from whose objects are in order, and what is in them.

Every value that is read from a text is well formed. A reader puts each member
into the dictionary of the members before it, so the dictionary is in order at
every round of the loop over members, whatever the text says. The loops keep
any property of what they gather that each round keeps, and the value is then
an induction over the levels that may still be opened.

## Main definitions

* `ScalarAt`: A text starts with a scalar.

## Theorems

* `wellFormed_items`, `wellFormed_members`: Items and members one by one.
* `WellFormed.member`: What is inside is well formed too.
* `items_round`, `members_round`: What one round of a loop does.
* `items_forall`, `members_invariant`: What one round keeps, the loop keeps.
* `scalarAt_of_scalar`: Everything a scalar can be.
* `run_eq_ok_iff`, `parse_eq_ok_iff`: What it means that a whole text is read.
* `value_wellFormed`, `parse_wellFormed`: What is read is well formed.
-/

namespace TableClient

namespace Json

theorem wellFormed_items {items : List Json} :
    WellFormedItems items ↔ ∀ item ∈ items, item.WellFormed := by
  induction items with
  | nil => exact ⟨fun _ _ h => (nomatch h), fun _ => trivial⟩
  | cons item rest ih => rw [WellFormedItems, ih, List.forall_mem_cons]

theorem wellFormed_members {members : List (String × Json)} :
    WellFormedMembers members ↔ ∀ entry ∈ members, entry.2.WellFormed := by
  induction members with
  | nil => exact ⟨fun _ _ h => (nomatch h), fun _ => trivial⟩
  | cons entry rest ih =>
      rcases entry with ⟨key, value⟩
      rw [WellFormedMembers, ih, List.forall_mem_cons]

theorem wellFormed_arr {items : List Json} :
    (arr items).WellFormed ↔ ∀ item ∈ items, item.WellFormed := by
  rw [WellFormed, wellFormed_items]

theorem wellFormed_obj {members : List (String × Json)} :
    (obj members).WellFormed ↔
      Dictionary.Ordered members ∧ ∀ entry ∈ members, entry.2.WellFormed := by
  rw [WellFormed, wellFormed_members]

/-- The members of a well-formed value are well formed. -/
theorem WellFormed.member {value content : Json} {key : String} (h : value.WellFormed)
    (hmember : value.member? key = some content) : content.WellFormed := by
  cases value with
  | obj members => exact (wellFormed_obj.1 h).2 _ (Dictionary.mem_of_get? hmember)
  | _ => cases hmember

/-! ### Values read from a text -/

/-- One round of the loop over items: it finds the end, or it reads one more item and
    goes on behind it. -/
theorem items_round {α : Type} {item : Reader α} {c : Char} {bound : List Char} {first : Bool}
    {text rest : List Char} {xs : List α} :
    items item (c :: bound) first text = .ok (xs, rest) ↔
      (nextItem first text = .ok (false, rest) ∧ xs = []) ∨
        ∃ front x behind later, nextItem first text = .ok (true, front) ∧
          item front = .ok (x, behind) ∧ items item bound false behind = .ok (later, rest) ∧
          xs = x :: later := by
  rw [items, bind_eq_ok]
  constructor
  · rintro ⟨⟨_ | _, front⟩, hnext, h⟩
    · cases h
      exact .inl ⟨hnext, rfl⟩
    · simp only [if_true, bind_eq_ok, Prod.exists] at h
      rcases h with ⟨x, behind, hx, later, _, hlater, h⟩
      cases h
      exact .inr ⟨front, x, behind, later, hnext, hx, hlater, rfl⟩
  · rintro (⟨hnext, rfl⟩ | ⟨front, x, behind, later, hnext, hx, hlater, rfl⟩)
    · exact ⟨_, hnext, rfl⟩
    · refine ⟨_, hnext, ?_⟩
      simp only [if_true, bind_eq_ok, Prod.exists]
      exact ⟨x, behind, hx, later, rest, hlater, rfl⟩

/-- One round of the loop over members: it finds the end, or it finds one more key and
    goes on behind its entry. -/
theorem members_round {σ : Type} {entry : σ → String → Reader σ} {c : Char} {bound : List Char}
    {first : Bool} {state next : σ} {text rest : List Char} :
    members entry (c :: bound) first state text = .ok (next, rest) ↔
      (nextKey first text = .ok (none, rest) ∧ next = state) ∨
        ∃ key front middle behind, nextKey first text = .ok (some key, front) ∧
          entry state key front = .ok (middle, behind) ∧
          members entry bound false middle behind = .ok (next, rest) := by
  rw [members, bind_eq_ok]
  constructor
  · rintro ⟨⟨_ | key, front⟩, hnext, h⟩
    · cases h
      exact .inl ⟨hnext, rfl⟩
    · rcases bind_eq_ok.1 h with ⟨⟨middle, behind⟩, hread, hrest⟩
      exact .inr ⟨key, front, middle, behind, hnext, hread, hrest⟩
  · rintro (⟨hnext, rfl⟩ | ⟨key, front, middle, behind, hnext, hread, hrest⟩)
    · exact ⟨_, hnext, rfl⟩
    · exact ⟨_, hnext, bind_eq_ok.2 ⟨_, hread, hrest⟩⟩

/-- What holds of every item that is read holds of all items of an array. -/
theorem items_forall {α : Type} {item : Reader α} {P : α → Prop}
    (hitem : ∀ text x rest, item text = .ok (x, rest) → P x) (bound : List Char) {first : Bool}
    {text rest : List Char} {xs : List α} (h : items item bound first text = .ok (xs, rest)) :
    ∀ x ∈ xs, P x := by
  induction bound generalizing first text rest xs with
  | nil => cases h
  | cons c bound ih =>
      rcases items_round.1 h with ⟨-, rfl⟩ | ⟨_, x, _, later, -, hx, hlater, rfl⟩
      · exact List.forall_mem_nil _
      · exact List.forall_mem_cons.2 ⟨hitem _ _ _ hx, ih hlater⟩

/-- What every entry keeps of the state is kept by the loop over members. -/
theorem members_invariant {σ : Type} {entry : σ → String → Reader σ} {P : σ → Prop}
    (hentry : ∀ state key text state' rest, P state →
      entry state key text = .ok (state', rest) → P state')
    (bound : List Char) {first : Bool} {state state' : σ} {text rest : List Char}
    (hstate : P state) (h : members entry bound first state text = .ok (state', rest)) :
    P state' := by
  induction bound generalizing first state text with
  | nil => cases h
  | cons c bound ih =>
      rcases members_round.1 h with ⟨-, rfl⟩ | ⟨key, _, middle, _, -, hread, hrest⟩
      · exact hstate
      · exact ih (hentry _ _ _ _ _ hstate hread) hrest

/-! ### Scalars -/

/-- A text starts with a value that is neither array nor object, and what is left
    stands behind it. -/
inductive ScalarAt : List Char → Json → List Char → Prop where
  | null {inside rest : List Char} (h : word "ull".toList inside = .ok rest) :
    ScalarAt ('n' :: inside) .null rest
  | true {inside rest : List Char} (h : word "rue".toList inside = .ok rest) :
    ScalarAt ('t' :: inside) (.bool Bool.true) rest
  | false {inside rest : List Char} (h : word "alse".toList inside = .ok rest) :
    ScalarAt ('f' :: inside) (.bool Bool.false) rest
  | str {inside rest : List Char} {text : String} (h : string inside = .ok (text, rest)) :
    ScalarAt ('"' :: inside) (.str text) rest
  | num {c : Char} {inside rest : List Char} {n : Number} (hfront : c = '-' ∨ c.isDigit = Bool.true)
    (h : number (c :: inside) = .ok (n, rest)) : ScalarAt (c :: inside) (.num n) rest

/-- What is read as a scalar is one of these. -/
theorem scalarAt_of_scalar {text rest : List Char} {v : Json} (h : scalar text = .ok (v, rest)) :
    ScalarAt text v rest := by
  unfold scalar at h
  split at h
  case h_1 => cases h
  case h_5 =>
    simp only [bind_eq_ok, Prod.exists] at h
    rcases h with ⟨_, _, hstring, h⟩
    cases h
    exact .str hstring
  case h_6 c _ _ _ _ _ =>
    split at h
    · rename_i hfront
      simp only [bind_eq_ok, Prod.exists] at h
      rcases h with ⟨_, _, hnumber, h⟩
      cases h
      simp only [Bool.or_eq_true, beq_iff_eq] at hfront
      exact .num hfront hnumber
    · cases h
  all_goals
    rcases bind_eq_ok.1 h with ⟨_, hword, h⟩
    cases h
  · exact .null hword
  · exact .true hword
  · exact .false hword

/-- Scalars have no objects in them. -/
theorem scalar_wellFormed {text rest : List Char} {value : Json}
    (h : scalar text = .ok (value, rest)) : value.WellFormed := by
  cases scalarAt_of_scalar h <;> trivial

/-- A value is well formed if the arrays and objects at its top are. -/
theorem node_wellFormed {array object : Reader Json}
    (harray : ∀ text value rest, array text = .ok (value, rest) → value.WellFormed)
    (hobject : ∀ text value rest, object text = .ok (value, rest) → value.WellFormed)
    {text rest : List Char} {value : Json} (h : node array object text = .ok (value, rest)) :
    value.WellFormed := by
  unfold node at h
  split at h
  · exact harray _ _ _ h
  · exact hobject _ _ _ h
  · exact scalar_wellFormed h

/-- A value that is read is well formed. The induction is over the levels that
    may still be opened. -/
theorem value_wellFormed (depth : Nat) {text rest : List Char} {v : Json}
    (h : value depth text = .ok (v, rest)) : v.WellFormed := by
  induction depth generalizing text rest v with
  | zero =>
      have hdeep : ∀ text v rest, tooDeep text = .ok (v, rest) → v.WellFormed := by
        intro text v rest h
        cases h
      exact node_wellFormed hdeep hdeep h
  | succ depth ih =>
      refine node_wellFormed (fun text v rest h => ?_) (fun text v rest h => ?_) h
      · simp only [array, bind_eq_ok, Prod.exists] at h
        rcases h with ⟨items, behind, hitems, h⟩
        cases h
        exact wellFormed_arr.2 (items_forall (fun _ _ _ h => ih h) text hitems)
      · simp only [objectOf, bind_eq_ok, Prod.exists] at h
        rcases h with ⟨entries, behind, hentries, h⟩
        cases h
        refine members_invariant (P := fun entries => (obj entries).WellFormed) ?_ text
          (wellFormed_obj.2 ⟨.nil, fun _ h => (nomatch h)⟩) hentries
        intro entries key text entries' rest hentries hmember
        simp only [member, bind_eq_ok, Prod.exists] at hmember
        rcases hmember with ⟨behind, -, value, behind', hvalue, h⟩
        cases h
        -- The new member is put in its place, and it was read with fewer levels.
        rcases wellFormed_obj.1 hentries with ⟨hordered, hvalues⟩
        refine wellFormed_obj.2 ⟨Dictionary.ordered_insert hordered, fun entry hentry => ?_⟩
        rcases Dictionary.mem_insert hentry with rfl | hentry
        · exact ih hvalue
        · exact hvalues entry hentry

/-- A whole text is read if it can be read from its front and nothing but blanks is
    left. -/
theorem run_eq_ok_iff {α : Type} {reader : Reader α} {text : String} {a : α} :
    reader.run text = .ok a ↔
      ∃ rest, reader text.toList = .ok (a, rest) ∧ skipBlanks rest = [] := by
  have hfinish : ∀ (x : α) (rest : List Char),
      finish x rest = .ok a ↔ x = a ∧ skipBlanks rest = [] := by
    intro x rest
    unfold finish
    split
    · rename_i hrest
      rw [Except.ok.injEq]
      exact (and_iff_left hrest).symm
    · rename_i hrest
      exact ⟨fun h => (nomatch h), fun h => absurd h.2 hrest⟩
  unfold Reader.run
  constructor
  · intro h
    split at h
    · rename_i w hread
      cases h
      rcases bind_eq_ok.1 hread with ⟨⟨x, rest⟩, hx, hrest⟩
      rcases (hfinish x rest).1 hrest with ⟨rfl, hblank⟩
      exact ⟨rest, hx, hblank⟩
    · cases h
  · rintro ⟨rest, hread, hblank⟩
    have hdone : finish a rest = .ok a := (hfinish a rest).2 ⟨rfl, hblank⟩
    simp only [hread, bind, Except.bind, hdone]

/-- A text spells a value if the value can be read from its front and nothing but
    blanks is left. -/
theorem parse_eq_ok_iff {text : String} {v : Json} :
    parse text = .ok v ↔
      ∃ rest, value maxDepth text.toList = .ok (v, rest) ∧ skipBlanks rest = [] :=
  run_eq_ok_iff

/-- Every value that is read from a text is well formed. -/
theorem parse_wellFormed {text : String} {value : Json} (h : parse text = .ok value) :
    value.WellFormed := by
  rcases parse_eq_ok_iff.1 h with ⟨rest, hread, -⟩
  exact value_wellFormed maxDepth hread

end Json

end TableClient
