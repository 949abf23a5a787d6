import TableClient.Proofs.Expression.Reading

/-!
# What Is Refused as a Condition

Which values have the form of a condition, and which of these are refused all
the same.

The form is a grammar, `Form`, and a value that does not derive from it is
reported whole, however deep the part that spoils it. A value that has the
form may still hold groups without operands, and one of these is reported
instead: the first that a walk from left to right comes to.

Which one is the first is said with paths. A path lists, from the top down, the
place of the operand to go to in each node, so the order in which a walk visits
nodes is the lexicographic order of their paths. `FirstVacancy` names the
connective of an empty group with no empty group at an earlier path. There is
at most one such connective, since a path leads to one node only.

The reader looks first and builds then. Looking is deciding the form. Building
has errors for whatever is not as it should be, but on a value of the form it
ends either with a condition or for the lack of operands, and `Judged` says of
both what they mean for the value. That is an induction over the form, and it is
all there is to know of the second pass: the other errors in it are out of
reach. In a group the operands are built from left to right, and a place in the
list becomes the first number of a path, so that the first operand to fail is the
first in the order of paths too.

## Main definitions

* `Condition.Form`: The values that have the form of a condition.
* `Json.Reaches`: A path leads from a value to a node in it.
* `Json.VacantAt`, `VacantAmong`: An empty group at the end of a path.
* `First`, `Json.FirstVacancy`: The one whose path is the least.
* `Judged`: What the end of building means.
* `Condition.Verdict`: What the end of reading means.

## Theorems

* `Reaches.unique`: A path leads to one node.
* `vacantAt_not`, `vacantAt_group`: Where a node has empty groups in it.
* `First.unique`: At most one connective is the first.
* `hasForm_iff`: The first pass decides the form.
* `Judged.map`, `Judged.singleton`: Ends carried over to what holds a value.
* `judged_mapM`, `judged_build`: The second finds the first empty group.
* `exists_emptyGroup_of_build`: It has no other error for a value of the form.
* `ofJson_verdict`: Reading ends with one of three verdicts.
* `ofJson_eq_emptyGroup_iff`, `ofJson_eq_notCondition_iff`: Which errors there are.
* `ofJson_classifies`: What reading a value as a condition ends with.
-/

namespace TableClient

open Expression (Error)

namespace Condition

/-- The values that have the form of a condition: strings, and values tagged as
    a negation or a group of values that have it. -/
inductive Form : Json → Prop where
  | literal (text : String) : Form (.str text)
  | not {value content : Json} (h : value.Negates content) (hcontent : Form content) : Form value
  | group {value : Json} {connective : Connective} {items : List Json}
    (h : value.Groups connective items) (hitems : ∀ item ∈ items, Form item) : Form value

end Condition

namespace Json

theorem Negates.unique {value content other : Json} (h : value.Negates content)
    (hother : value.Negates other) : content = other := by
  have heq : some content = some other := h.2.symm.trans hother.2
  exact Option.some.inj heq

theorem Groups.unique {value : Json} {connective other : Connective} {items others : List Json}
    (h : value.Groups connective items) (hother : value.Groups other others) :
    connective = other ∧ items = others := by
  have htag : some connective.tag = some other.tag := h.1.symm.trans hother.1
  have hread := congrArg (·.bind Connective.ofTag?) htag
  have hitems : some (Json.arr items) = some (Json.arr others) := h.2.symm.trans hother.2
  simp only [Option.bind_some, Connective.ofTag?_tag, Option.some.injEq] at hread
  simp only [Option.some.injEq, Json.arr.injEq] at hitems
  exact ⟨hread, hitems⟩

/-- No value is tagged as a negation and as a group. -/
theorem Negates.not_groups {value content : Json} {connective : Connective} {items : List Json}
    (h : value.Negates content) : ¬value.Groups connective items := by
  intro hgroups
  have htag : some "Not" = some connective.tag := h.1.symm.trans hgroups.1
  have hne : "Not" ≠ connective.tag := by cases connective <;> decide
  exact hne (Option.some.inj htag)

/-- A path leads from a value to a node in it: from a negation to what it
    negates, from a group to the operand with the given number. -/
inductive Reaches : Json → List Nat → Json → Prop where
  | here (value : Json) : Reaches value [] value
  | operand {value content node : Json} {path : List Nat} (h : value.Negates content)
    (hrest : Reaches content path node) : Reaches value (0 :: path) node
  | item {value item node : Json} {connective : Connective} {items : List Json} {index : Nat}
    {path : List Nat} (h : value.Groups connective items) (hitem : items[index]? = some item)
    (hrest : Reaches item path node) : Reaches value (index :: path) node

/-- A path leads to one node only. -/
theorem Reaches.unique {value node other : Json} {path : List Nat} (h : value.Reaches path node)
    (hother : value.Reaches path other) : node = other := by
  induction h with
  | here value =>
      cases hother
      rfl
  | operand hnegates _ ih =>
      cases hother with
      | operand hnegates' hrest =>
          rw [← hnegates.unique hnegates'] at hrest
          exact ih hrest
      | item hgroups => exact absurd hgroups hnegates.not_groups
  | item hgroups hitem _ ih =>
      cases hother with
      | operand hnegates => exact absurd hgroups hnegates.not_groups
      | item hgroups' hitem' hrest =>
          rw [← (hgroups.unique hgroups').2, hitem, Option.some.injEq] at hitem'
          rw [← hitem'] at hrest
          exact ih hrest

/-- At the end of a path is a group without operands. -/
def VacantAt (value : Json) (path : List Nat) (connective : Connective) : Prop :=
  ∃ node, value.Reaches path node ∧ node.Groups connective []

/-- At the end of a path that starts with a place in a list is a group without
    operands. -/
def VacantAmong (items : List Json) (path : List Nat) (connective : Connective) : Prop :=
  ∃ index item rest, path = index :: rest ∧ items[index]? = some item ∧
    item.VacantAt rest connective

theorem VacantAt.unique {value : Json} {path : List Nat} {connective other : Connective}
    (h : value.VacantAt path connective) (hother : value.VacantAt path other) :
    connective = other := by
  rcases h with ⟨node, hreaches, hvacant⟩
  rcases hother with ⟨node', hreaches', hvacant'⟩
  rw [← hreaches.unique hreaches'] at hvacant'
  exact (hvacant.unique hvacant').1

theorem not_vacantAt_str (text : String) (path : List Nat) (connective : Connective) :
    ¬(Json.str text).VacantAt path connective := by
  rintro ⟨node, hreaches, hvacant⟩
  cases hreaches with
  | here => cases hvacant.1
  | operand h => cases h.1
  | item h => cases h.1

/-- The empty groups in a negation are those in what it negates. -/
theorem vacantAt_not {value content : Json} (h : value.Negates content) :
    value.VacantAt = VacantAmong [content] := by
  funext path connective
  refine propext ⟨?_, ?_⟩
  · rintro ⟨node, hreaches, hvacant⟩
    cases hreaches with
    | here => exact absurd hvacant h.not_groups
    | operand h' hrest =>
        rw [← h.unique h'] at hrest
        exact ⟨0, content, _, rfl, rfl, node, hrest, hvacant⟩
    | item hgroups => exact absurd hgroups h.not_groups
  · rintro ⟨_ | index, found, rest, rfl, hitem, node, hreaches, hvacant⟩
    · cases hitem
      exact ⟨node, .operand h hreaches, hvacant⟩
    · cases hitem

/-- The empty groups in a group with operands are those in its operands. -/
theorem vacantAt_group {value item : Json} {connective : Connective} {items : List Json}
    (h : value.Groups connective (item :: items)) :
    value.VacantAt = VacantAmong (item :: items) := by
  funext path other
  refine propext ⟨?_, ?_⟩
  · rintro ⟨node, hreaches, hvacant⟩
    cases hreaches with
    | here => cases (h.unique hvacant).2
    | operand hnegates => exact absurd h hnegates.not_groups
    | item h' hitem hrest =>
        rw [← (h.unique h').2] at hitem
        exact ⟨_, _, _, rfl, hitem, node, hrest, hvacant⟩
  · rintro ⟨index, found, rest, rfl, hitem, node, hreaches, hvacant⟩
    exact ⟨node, .item h hitem hreaches, hvacant⟩

theorem not_vacantAmong_nil (path : List Nat) (connective : Connective) :
    ¬VacantAmong [] path connective := by
  rintro ⟨index, item, rest, -, hitem, -⟩
  cases hitem

/-- The empty groups among some values are those in the first of them, and those
    among the others at places moved by one. -/
theorem vacantAmong_cons {item : Json} {items : List Json} {path : List Nat}
    {connective : Connective} : VacantAmong (item :: items) path connective ↔
      (∃ rest, path = 0 :: rest ∧ item.VacantAt rest connective) ∨
      ∃ index rest, path = (index + 1) :: rest ∧ VacantAmong items (index :: rest) connective := by
  constructor
  · rintro ⟨_ | index, found, rest, rfl, hitem, hvacant⟩
    · rw [List.getElem?_cons_zero, Option.some.injEq] at hitem
      exact .inl ⟨rest, rfl, hitem ▸ hvacant⟩
    · exact .inr ⟨index, rest, rfl, index, found, rest, rfl, hitem, hvacant⟩
  · rintro (⟨rest, rfl, hvacant⟩ | ⟨index, rest, rfl, _, found, _, heq, hitem, hvacant⟩)
    · exact ⟨0, item, rest, rfl, rfl, hvacant⟩
    · cases heq
      exact ⟨index + 1, found, rest, rfl, hitem, hvacant⟩

end Json

/-- A connective found at a path such that nothing is found at earlier ones. -/
def First (found : List Nat → Connective → Prop) (connective : Connective) : Prop :=
  ∃ path, found path connective ∧ ∀ earlier < path, ∀ other, ¬found earlier other

/-- At most one connective is the first, if each path leads to one at most. -/
theorem First.unique {found : List Nat → Connective → Prop} {connective other : Connective}
    (hfound : ∀ path c d, found path c → found path d → c = d) (h : First found connective)
    (hother : First found other) : connective = other := by
  rcases h with ⟨path, hpath, hleast⟩
  rcases hother with ⟨path', hpath', hleast'⟩
  rcases Std.lt_trichotomy path path' with hlt | heq | hlt
  · exact absurd hpath (hleast' path hlt connective)
  · rw [heq] at hpath
    exact hfound path' connective other hpath hpath'
  · exact absurd hpath' (hleast path' hlt other)

/-- The connective of the first group without operands that a walk through a
    value comes to. -/
def Json.FirstVacancy (value : Json) (connective : Connective) : Prop :=
  First value.VacantAt connective

namespace Json

theorem first_among_head {item : Json} {items : List Json} {connective : Connective}
    (h : First item.VacantAt connective) : First (VacantAmong (item :: items)) connective := by
  rcases h with ⟨path, hpath, hleast⟩
  refine ⟨0 :: path, vacantAmong_cons.2 (.inl ⟨path, rfl, hpath⟩), ?_⟩
  intro earlier hlt other hother
  rcases vacantAmong_cons.1 hother with ⟨rest, rfl, hrest⟩ | ⟨index, rest, rfl, -⟩
  · -- Both are in the first value, where the order is that of the rests.
    rcases List.cons_lt_cons_iff.1 hlt with hzero | ⟨-, hlt⟩
    · exact Nat.lt_irrefl 0 hzero
    · exact hleast rest hlt other hrest
  · rcases List.cons_lt_cons_iff.1 hlt with hzero | ⟨hzero, -⟩
    · exact Nat.not_lt_zero _ hzero
    · cases hzero

theorem first_among_tail {item : Json} {items : List Json} {connective : Connective}
    (hhead : ∀ path other, ¬item.VacantAt path other)
    (h : First (VacantAmong items) connective) :
    First (VacantAmong (item :: items)) connective := by
  rcases h with ⟨_, ⟨index, found, path, rfl, hitem, hvacant⟩, hleast⟩
  have hpath : VacantAmong items (index :: path) connective :=
    ⟨index, found, path, rfl, hitem, hvacant⟩
  refine ⟨(index + 1) :: path, vacantAmong_cons.2 (.inr ⟨index, path, rfl, hpath⟩), ?_⟩
  intro earlier hlt other hother
  rcases vacantAmong_cons.1 hother with ⟨rest, rfl, hrest⟩ | ⟨index', rest, rfl, hrest⟩
  · exact hhead rest other hrest
  · -- The places of both are moved by one, so their order is what it was.
    have hlt' : index' :: rest < index :: path := by
      rcases List.cons_lt_cons_iff.1 hlt with hlt | ⟨heq, hlt⟩
      · exact List.cons_lt_cons_iff.2 (.inl (Nat.lt_of_succ_lt_succ hlt))
      · exact List.cons_lt_cons_iff.2 (.inr ⟨Nat.succ.inj heq, hlt⟩)
    exact hleast (index' :: rest) hlt' other hrest

theorem not_among_singleton {item : Json} (h : ∀ path connective, ¬item.VacantAt path connective)
    (path : List Nat) (connective : Connective) : ¬VacantAmong [item] path connective := by
  intro hvacant
  rcases vacantAmong_cons.1 hvacant with ⟨rest, -, hvacant⟩ | ⟨_, rest, -, hvacant⟩
  · exact h rest connective hvacant
  · exact not_vacantAmong_nil _ connective hvacant

end Json

namespace Condition

open Json (VacantAmong)

/-- The first pass passes just the values of the form. -/
theorem hasForm_iff {value : Json} : hasForm value = true ↔ Form value := by
  constructor
  · intro h
    induction value using Json.nesting with
    | fragment text => exact .literal text
    | negation value content hnegates ih =>
        rw [hasForm_of_negates hnegates] at h
        exact .not hnegates (ih h)
    | group value connective items hgroups ih =>
        rw [hasForm_of_groups hgroups, List.all_eq_true] at h
        exact .group hgroups fun item hmem => ih item hmem (h item hmem)
    | shapeless value hshapeless =>
        rw [hasForm_of_shapeless hshapeless] at h
        cases h
  · intro h
    induction h with
    | literal text => rw [hasForm]
    | not hnegates _ ih => rw [hasForm_of_negates hnegates, ih]
    | group hgroups _ ih => rw [hasForm_of_groups hgroups, List.all_eq_true.2 ih]

/-- What the end of building means for the empty groups that are there: a result
    means that there are none, and the only error is that of the first. -/
inductive Judged {α : Type} (found : List Nat → Connective → Prop) : Except Error α → Prop where
  | sound {a : α} (h : ∀ path connective, ¬found path connective) : Judged found (.ok a)
  | vacant {connective : Connective} (h : First found connective) :
    Judged found (.error (.emptyGroup connective))

theorem Judged.map {α β : Type} {found : List Nat → Connective → Prop} {result : Except Error α}
    (h : Judged found result) (f : α → β) : Judged found (result.map f) := by
  cases h with
  | sound hnone => exact .sound hnone
  | vacant hfirst => exact .vacant hfirst

/-- What was found in the only value is what was found among the values. -/
theorem Judged.singleton {α : Type} {item : Json} {result : Except Error α}
    (h : Judged item.VacantAt result) : Judged (VacantAmong [item]) result := by
  cases h with
  | sound hnone => exact .sound (Json.not_among_singleton hnone)
  | vacant hfirst => exact .vacant (Json.first_among_head hfirst)

/-- Building values from left to right finds the first empty group among them, if
    building each of them finds the first in it. -/
theorem judged_mapM {items : List Json} (h : ∀ item ∈ items, Judged item.VacantAt (build item)) :
    Judged (VacantAmong items) (items.mapM build) := by
  induction items with
  | nil => exact .sound Json.not_vacantAmong_nil
  | cons item items ih =>
      rcases List.forall_mem_cons.1 h with ⟨hitem, hitems⟩
      have hjudged := ih hitems
      rw [List.mapM_cons]
      generalize build item = result at hitem
      cases hitem with
      | vacant hfirst =>
          -- The others are not built at all, and they are behind this item.
          exact .vacant (Json.first_among_head hfirst)
      | sound hhead =>
          generalize items.mapM build = results at hjudged
          cases hjudged with
          | vacant hfirst => exact .vacant (Json.first_among_tail hhead hfirst)
          | sound hrest =>
              refine .sound fun path connective hvacant => ?_
              rcases Json.vacantAmong_cons.1 hvacant with ⟨rest, -, hvacant⟩ | ⟨_, rest, -, hvacant⟩
              · exact hhead rest connective hvacant
              · exact hrest _ connective hvacant

/-- Building a value of the form finds the first empty group in it. -/
theorem judged_build {value : Json} (h : Form value) : Judged value.VacantAt (build value) := by
  induction h with
  | literal text =>
      rw [build]
      exact .sound (Json.not_vacantAt_str text)
  | not hnegates _ ih =>
      rw [Json.vacantAt_not hnegates, build_of_negates hnegates]
      exact ih.singleton.map Condition.not
  | @group value connective items hgroups _ ih =>
      have hjudged := judged_mapM ih
      rw [build_of_groups hgroups]
      cases items with
      | nil =>
          -- The group itself is the empty one, at the path that goes nowhere.
          refine .vacant ⟨[], ⟨value, .here value, hgroups⟩, fun earlier hlt => ?_⟩
          exact absurd hlt (List.not_lt_nil earlier)
      | cons item items =>
          rw [Json.vacantAt_group hgroups]
          cases hbuild : (item :: items).mapM build with
          | error error =>
              rw [hbuild] at hjudged
              cases hjudged with
              | vacant hfirst => exact .vacant hfirst
          | ok operands =>
              rw [hbuild] at hjudged
              -- One item at least was built, so the group is made.
              cases mapM_eq_ok.1 hbuild with
              | cons =>
                  cases hjudged with
                  | sound hnone => exact .sound hnone

/-- Behind the first pass the second has no error but for the lack of operands. -/
theorem exists_emptyGroup_of_build {value : Json} {error : Error} (h : hasForm value = true)
    (herror : build value = .error error) : ∃ connective, error = .emptyGroup connective := by
  have hjudged := judged_build (hasForm_iff.1 h)
  rw [herror] at hjudged
  cases hjudged with
  | vacant => exact ⟨_, rfl⟩

/-- What reading a value as a condition may end with, and what each end means. -/
inductive Verdict (value : Json) : Except Error Condition → Prop where
  | sound {condition : Condition} (hform : Form value)
    (hnone : ∀ path connective, ¬value.VacantAt path connective) : Verdict value (.ok condition)
  | vacant {connective : Connective} (hform : Form value)
    (hfirst : value.FirstVacancy connective) : Verdict value (.error (.emptyGroup connective))
  | formless (hform : ¬Form value) : Verdict value (.error (.notCondition value))

theorem ofJson_verdict (value : Json) : Verdict value (ofJson value) := by
  unfold ofJson
  split
  · rename_i h
    have hform : Form value := hasForm_iff.1 h
    have hjudged := judged_build hform
    generalize build value = result at hjudged
    cases hjudged with
    | sound hnone => exact .sound hform hnone
    | vacant hfirst => exact .vacant hform hfirst
  · rename_i h
    exact .formless fun hform => h (hasForm_iff.2 hform)

/-- Just the values of the form without an empty group are read. -/
theorem exists_ofJson_eq_ok_iff {value : Json} :
    (∃ condition, ofJson value = .ok condition) ↔
      Form value ∧ ∀ path connective, ¬value.VacantAt path connective := by
  have hverdict := ofJson_verdict value
  generalize ofJson value = result at hverdict
  cases hverdict with
  | sound hform hnone => exact ⟨fun _ => ⟨hform, hnone⟩, fun _ => ⟨_, rfl⟩⟩
  | vacant hform hfirst =>
      rcases hfirst with ⟨path, hpath, -⟩
      exact ⟨fun ⟨_, h⟩ => (nomatch h), fun ⟨_, hnone⟩ => absurd hpath (hnone path _)⟩
  | formless hno => exact ⟨fun ⟨_, h⟩ => (nomatch h), fun ⟨hform, _⟩ => absurd hform hno⟩

theorem firstVacancy_unique {value : Json} {connective other : Connective}
    (h : value.FirstVacancy connective) (hother : value.FirstVacancy other) : connective = other :=
  h.unique (fun _ _ _ hc hd => hc.unique hd) hother

/-- A value is refused for an empty group if it has the form, and then for the
    first one. -/
theorem ofJson_eq_emptyGroup_iff {value : Json} {connective : Connective} :
    ofJson value = .error (.emptyGroup connective) ↔
      Form value ∧ value.FirstVacancy connective := by
  have hverdict := ofJson_verdict value
  generalize ofJson value = result at hverdict
  cases hverdict with
  | sound hform hnone =>
      exact ⟨fun h => (nomatch h), fun ⟨_, path, hpath, _⟩ => absurd hpath (hnone path _)⟩
  | vacant hform hfirst =>
      refine ⟨fun h => ?_, fun ⟨_, h⟩ => ?_⟩
      · cases h
        exact ⟨hform, hfirst⟩
      · rw [firstVacancy_unique h hfirst]
  | formless hno => exact ⟨fun h => (nomatch h), fun ⟨hform, _⟩ => absurd hform hno⟩

/-- A value is reported whole just if it does not have the form. -/
theorem ofJson_eq_notCondition_iff {value : Json} :
    ofJson value = .error (.notCondition value) ↔ ¬Form value := by
  have hverdict := ofJson_verdict value
  generalize ofJson value = result at hverdict
  cases hverdict with
  | sound hform => exact ⟨fun h => (nomatch h), fun hno => absurd hform hno⟩
  | vacant hform => exact ⟨fun h => (nomatch h), fun hno => absurd hform hno⟩
  | formless hno => exact ⟨fun _ => hno, fun _ => rfl⟩

/-- What reading a value as a condition ends with. The first pass decides the
    form, and behind it the second has no error but for the lack of operands. So
    reading succeeds for the values that have the form and no empty group in
    them. A value of the form with an empty group is refused for the first one,
    by its connective. A value that does not have the form is reported whole. No
    other error occurs. -/
theorem ofJson_classifies (value : Json) :
    (hasForm value = true ↔ Form value) ∧
    (hasForm value = true → ∀ error, build value = .error error →
      ∃ connective, error = .emptyGroup connective) ∧
    ((∃ condition, ofJson value = .ok condition) ↔
      Form value ∧ ∀ path connective, ¬value.VacantAt path connective) ∧
    ((∃ connective, ofJson value = .error (.emptyGroup connective)) ↔
      Form value ∧ ∃ path connective, value.VacantAt path connective) ∧
    (∀ connective, ofJson value = .error (.emptyGroup connective) ↔
      Form value ∧ value.FirstVacancy connective) ∧
    (ofJson value = .error (.notCondition value) ↔ ¬Form value) ∧
    (Error.notCondition value).message = "not a condition expression: " ++ value.compact ∧
    ∀ error, ofJson value = .error error →
      error = .notCondition value ∨ ∃ connective, error = .emptyGroup connective := by
  refine ⟨hasForm_iff, fun hform _ => exists_emptyGroup_of_build hform, exists_ofJson_eq_ok_iff, ?_,
    fun _ => ofJson_eq_emptyGroup_iff, ofJson_eq_notCondition_iff, rfl, fun error herror => ?_⟩
  · have hverdict := ofJson_verdict value
    generalize ofJson value = result at hverdict
    cases hverdict with
    | sound hform hnone =>
        exact ⟨fun ⟨_, h⟩ => (nomatch h), fun ⟨_, path, c, hpath⟩ => absurd hpath (hnone path c)⟩
    | vacant hform hfirst =>
        rcases hfirst with ⟨path, hpath, -⟩
        exact ⟨fun _ => ⟨hform, path, _, hpath⟩, fun _ => ⟨_, rfl⟩⟩
    | formless hno => exact ⟨fun ⟨_, h⟩ => (nomatch h), fun ⟨hform, _⟩ => absurd hform hno⟩
  · have hverdict := ofJson_verdict value
    rw [herror] at hverdict
    cases hverdict with
    | vacant => exact .inr ⟨_, rfl⟩
    | formless => exact .inl rfl

/-- A group of a fragment, the negation of an empty group with a member of no
    interest, and another empty group. -/
def twoVacancies : Json :=
  .obj [("conditions", .arr [.str "[A] = 1",
      .obj [("condition", .obj [("conditions", .arr []), ("type", .str "Or")]),
        ("note", .null), ("type", .str "Not")],
      .obj [("conditions", .arr []), ("type", .str "And")]]), ("type", .str "And")]

/-- Of two empty groups the deeper one is reported if it is further to the left.
    Next to a null neither is, since the whole has lost the form, though the
    second pass on its own would come to the empty group first. -/
theorem ofJson_classifies_twoVacancies :
    (hasForm twoVacancies = true ∧ build twoVacancies = .error (.emptyGroup .or) ∧
      ∃ connective, Error.emptyGroup .or = .emptyGroup connective) ∧
    ofJson twoVacancies = .error (.emptyGroup .or) ∧
    (Form twoVacancies ∧ twoVacancies.FirstVacancy .or) ∧
    (Error.emptyGroup .or = .notCondition twoVacancies ∨
      ∃ connective, Error.emptyGroup .or = .emptyGroup connective) ∧
    ¬Form (.obj [("conditions", .arr [twoVacancies, .null]), ("type", .str "And")]) ∧
    build (.obj [("conditions", .arr [twoVacancies, .null]), ("type", .str "And")])
      = .error (.emptyGroup .or) := by
  have hread : ofJson twoVacancies = .error (.emptyGroup .or) := rfl
  have hbuild : build twoVacancies = .error (.emptyGroup .or) := rfl
  rcases ofJson_classifies twoVacancies with ⟨-, hbehind, -, -, hvacant, -, -, herror⟩
  rcases ofJson_classifies
    (.obj [("conditions", .arr [twoVacancies, .null]), ("type", .str "And")]) with
    ⟨-, -, -, -, -, hwhole, -, -⟩
  exact ⟨⟨rfl, hbuild, hbehind rfl _ hbuild⟩, hread, (hvacant .or).1 hread, herror _ hread,
    hwhole.1 rfl, rfl⟩

end Condition

end TableClient
