import TableClient.Expression.Codec
import TableClient.Proofs.Chain
import TableClient.Proofs.Dictionary

/-!
# What Values Denote

The expressions that JSON values stand for, said without the readers.

A value denotes a condition when it is tagged as one and the values in its
place for operands denote the operands. `Condition.Denotes` says this for each
form of a condition and looks at nothing else in the value, so that members
with other keys make no difference. Flags, sort keys, rows and queries have
relations of the same kind.

The readers agree with these relations in both directions. For conditions both
passes of the reader follow the value down, and what each of them does at a
node is known from what the node is: a string, a negation, a group or
`Shapeless`. There is one equation for each pass and each of these, and with
`Json.nesting`, which is induction along the same four cases, nobody has to
look into the passes again. In the other direction the tree is known and the
value is not, so that induction is over the condition, and it is taken twice:
what denotes a condition passes the first time, and is built the second.

## Main definitions

* `Json.Negates`, `Json.Groups`: What a tagged value holds.
* `Json.Shapeless`: A value with nothing in it for a condition.
* `Json.IsFlag`: A value is a flag.
* `Condition.Misses`: What the second pass has against such a value.
* `Condition.Denotes`, `RowFilter.Denotes`, `SortKey.Denotes`,
  `Query.Denotes`: What a value stands for.

## Theorems

* `Json.nesting`: Induction over values as conditions nest in them.
* `hasForm_of_negates`, `hasForm_of_groups`, `hasForm_of_shapeless`: What the
  first pass does at a node.
* `build_of_negates`, `build_of_groups`, `build_of_shapeless`: What the second
  pass does.
* `hasForm_of_denotes`, `build_eq_ok_iff`: Who passes, and what is built.
* `ofJson_eq_ok_iff`: What is read is what is denoted.
-/

namespace TableClient

open Expression (Error FieldShape)

namespace Json

/-- A value is tagged as the negation of another. -/
def Negates (value operand : Json) : Prop :=
  value.tag? = some "Not" ∧ value.member? "condition" = some operand

/-- A value is tagged as the group of some others. -/
def Groups (value : Json) (connective : Connective) (items : List Json) : Prop :=
  value.tag? = some connective.tag ∧ value.member? "conditions" = some (.arr items)

/-- A value is no string and tagged neither as the negation of a value nor as the
    group of some. -/
def Shapeless (value : Json) : Prop :=
  (∀ text, value ≠ .str text) ∧ (∀ content, ¬value.Negates content) ∧
    ∀ connective items, ¬value.Groups connective items

theorem Shapeless.member?_condition {value : Json} (h : value.Shapeless)
    (htag : value.tag? = some "Not") : value.member? "condition" = none :=
  Option.eq_none_iff_forall_ne_some.2 fun content hmember => h.2.1 content ⟨htag, hmember⟩

theorem Shapeless.items?_conditions {value : Json} {connective : Connective} (h : value.Shapeless)
    (htag : value.tag? = some connective.tag) :
    (value.member? "conditions").bind Json.items? = none := by
  refine Option.bind_eq_none_iff.2 fun content hmember => ?_
  cases content with
  | arr items => exact absurd ⟨htag, hmember⟩ (h.2.2 connective items)
  | _ => rfl

theorem sizeOf_lt_of_member? {value content : Json} {key : String}
    (h : value.member? key = some content) : sizeOf content < sizeOf value := by
  cases value with
  | obj members =>
      have hlt := List.sizeOf_lt_of_mem (Dictionary.mem_of_get? h)
      simp only [Prod.mk.sizeOf_spec, Json.obj.sizeOf_spec] at hlt ⊢
      omega
  | _ => cases h

theorem Groups.sizeOf_lt {value item : Json} {connective : Connective} {items : List Json}
    (h : value.Groups connective items) (hmem : item ∈ items) : sizeOf item < sizeOf value := by
  have harr := sizeOf_lt_of_member? h.2
  have hitem := List.sizeOf_lt_of_mem hmem
  rw [Json.arr.sizeOf_spec] at harr
  omega

/-- Induction over values as conditions nest in them. In a negation the statement
    is known for what is negated, in a group for every item. -/
@[elab_as_elim]
theorem nesting {motive : Json → Prop} (fragment : ∀ text, motive (.str text))
    (negation : ∀ value content, value.Negates content → motive content → motive value)
    (group : ∀ value connective items, value.Groups connective items →
      (∀ item ∈ items, motive item) → motive value)
    (shapeless : ∀ value, value.Shapeless → motive value) (value : Json) : motive value := by
  -- What is left when the first three cases are ruled out is the last one.
  by_cases hstr : ∃ text, value = .str text
  · rcases hstr with ⟨text, rfl⟩
    exact fragment text
  by_cases hnegates : ∃ content, value.Negates content
  · rcases hnegates with ⟨content, h⟩
    exact negation value content h (nesting fragment negation group shapeless content)
  by_cases hgroups : ∃ connective items, value.Groups connective items
  · rcases hgroups with ⟨connective, items, h⟩
    exact group value connective items h fun item _ =>
      nesting fragment negation group shapeless item
  · refine shapeless value ⟨not_exists.1 hstr, not_exists.1 hnegates, fun connective items h => ?_⟩
    exact hgroups ⟨connective, items, h⟩
termination_by sizeOf value
decreasing_by
  · exact sizeOf_lt_of_member? h.2
  · exact h.sizeOf_lt ‹_›

/-- A value is a flag, as a boolean or as a text. -/
inductive IsFlag : Json → Bool → Prop where
  | bool (value : Bool) : IsFlag (.bool value) value
  | text (value : Bool) : IsFlag (.str (Formula.flag value)) value

theorem flagOfJson?_eq_some_iff {content : Json} {value : Bool} :
    Formula.flagOfJson? content = some value ↔ content.IsFlag value := by
  refine ⟨fun h => ?_, fun h => ?_⟩
  · unfold Formula.flagOfJson? at h
    split at h
    · cases h
      exact .bool value
    · rw [Formula.flag?_eq_some_iff.1 h]
      exact .text value
    · cases h
  · cases h with
    | bool => rfl
    | text => exact Formula.flag?_flag value

end Json

namespace Condition

section

variable {value content : Json} {connective : Connective} {items : List Json}

/-! ### The two passes at a node -/

theorem hasForm_of_negates (h : value.Negates content) : hasForm value = hasForm content := by
  cases value with
  | obj members =>
      have hmember : Dictionary.get? "condition" members = some content := h.2
      rw [hasForm, h.1]
      simp only [operandHasForm_eq, hmember, Option.any_some]
  | _ => cases h.1

theorem hasForm_of_groups (h : value.Groups connective items) :
    hasForm value = items.all hasForm := by
  cases value with
  | obj members =>
      have hmember : Dictionary.get? "conditions" members = some (.arr items) := h.2
      rw [hasForm, h.1]
      -- Only with the tag at hand it is plain that it is not the one of a negation.
      cases connective <;>
        simp [Connective.tag, Connective.ofTag?, operandsHaveForm_eq, hmember, Json.items?]
  | _ => cases h.1

theorem build_of_negates (h : value.Negates content) :
    build value = (build content).map .not := by
  cases value with
  | obj members =>
      have hmember : Dictionary.get? "condition" members = some content := h.2
      rw [build, h.1]
      simp only [buildOperand_eq, hmember, Option.elim_some]
      cases build content <;> rfl
  | _ => cases h.1

/-- The operands of a group are built first, and then the group, if there are
    operands. -/
theorem build_of_groups (h : value.Groups connective items) :
    build value = items.mapM build >>= join connective := by
  cases value with
  | obj members =>
      have hmember : Dictionary.get? "conditions" members = some (.arr items) := h.2
      rw [build, h.1]
      cases connective <;>
        simp [Connective.tag, Connective.ofTag?, buildOperands_eq, hmember, Json.items?]
  | _ => cases h.1

theorem hasForm_of_shapeless (h : value.Shapeless) : hasForm value = false := by
  cases value with
  | str text => exact absurd rfl (h.1 text)
  | obj members =>
      rw [hasForm]
      split
      · rfl
      · rename_i htag
        have hmember : Dictionary.get? "condition" members = none := h.member?_condition htag
        rw [operandHasForm_eq, hmember, Option.any_none]
      · rename_i tag _ htag
        cases hread : Connective.ofTag? tag with
        | none => rfl
        | some connective =>
            -- The tag is that of a group, so it is the array that is missing.
            rw [Connective.ofTag?_eq_some_iff.1 hread] at htag
            have hitems : (Dictionary.get? "conditions" members).bind Json.items? = none :=
              h.items?_conditions htag
            rw [operandsHaveForm_eq, hitems, Option.any_none, Bool.and_false]
  | _ => rfl

/-- What the second pass has against a value with nothing in it for a condition:
    it does not know the tag, or misses the member that the tag asks for. -/
inductive Misses (value : Json) : Error → Prop where
  | tag (hnot : value.tag? ≠ some "Not")
    (hgroup : ∀ connective : Connective, value.tag? ≠ some connective.tag) :
    Misses value (.notCondition value)
  | operand (htag : value.tag? = some "Not") : Misses value (.missingField "Not" "condition")
  | operands {connective : Connective} (htag : value.tag? = some connective.tag) :
    Misses value (.missingField connective.tag "conditions")

/-- A value with nothing in it for a condition is not built, and the error is its
    own and not that of a value in it. -/
theorem build_of_shapeless (h : value.Shapeless) :
    ∃ error, build value = .error error ∧ Misses value error := by
  cases value with
  | str text => exact absurd rfl (h.1 text)
  | obj members =>
      rw [build]
      split
      · rename_i htag
        exact ⟨_, rfl, .tag (by rw [htag]; nofun) fun _ => by rw [htag]; nofun⟩
      · rename_i htag
        have hmember : Dictionary.get? "condition" members = none := h.member?_condition htag
        rw [buildOperand_eq, hmember]
        exact ⟨_, rfl, .operand htag⟩
      · rename_i tag hnot htag
        cases hread : Connective.ofTag? tag with
        | none =>
            refine ⟨_, rfl, .tag (fun h => hnot ?_) fun connective h => ?_⟩
            · exact Option.some.inj (htag.symm.trans h)
            · rw [Option.some.inj (htag.symm.trans h), Connective.ofTag?_tag] at hread
              cases hread
        | some connective =>
            rw [Connective.ofTag?_eq_some_iff.1 hread] at htag
            have hitems : (Dictionary.get? "conditions" members).bind Json.items? = none :=
              h.items?_conditions htag
            simp only [buildOperands_eq, hitems, Option.elim_none]
            exact ⟨_, rfl, .operands htag⟩
  | _ => exact ⟨_, rfl, .tag nofun nofun⟩

theorem join_eq_ok {operands : List Condition} {condition : Condition} :
    join connective operands = .ok condition ↔
      ∃ first rest, operands = first :: rest ∧ condition = .group connective first rest := by
  cases operands with
  | nil => simp [join, join?]
  | cons first rest => simp [join, join?, eq_comm]

end

/-! ### What is built -/

/-- What a value denotes as a condition: a string is a fragment, and a tagged
    value is made of what the values in it denote. -/
inductive Denotes : Json → Condition → Prop where
  | literal (text : String) : Denotes (.str text) (.literal text)
  | not {value content : Json} {operand : Condition} (h : value.Negates content)
    (hoperand : Denotes content operand) : Denotes value (.not operand)
  | group {value : Json} {connective : Connective} {items : List Json} {first : Condition}
    {rest : List Condition} (h : value.Groups connective items)
    (hoperands : List.Forall₂ Denotes items (first :: rest)) :
    Denotes value (.group connective first rest)

/-- What denotes a condition passes the first time. -/
theorem hasForm_of_denotes {value : Json} {condition : Condition} (h : Denotes value condition) :
    hasForm value = true := by
  induction condition using Condition.induction generalizing value with
  | literal text =>
      cases h
      rw [hasForm]
  | not operand ih =>
      cases h with
      | not hnegates hoperand => rw [hasForm_of_negates hnegates, ih hoperand]
  | group connective first rest ih =>
      cases h with
      | group hgroups hoperands =>
          rw [hasForm_of_groups hgroups, List.all_eq_true]
          exact forall_mem_of_forall₂ hoperands fun _ _ operand hmem h => ih operand hmem h

/-- What denotes a condition is built into it the second time. -/
theorem build_of_denotes {value : Json} {condition : Condition} (h : Denotes value condition) :
    build value = .ok condition := by
  induction condition using Condition.induction generalizing value with
  | literal text =>
      cases h
      rw [build]
  | not operand ih =>
      cases h with
      | not hnegates hoperand => rw [build_of_negates hnegates, ih hoperand, Except.map]
  | group connective first rest ih =>
      cases h with
      | group hgroups hoperands =>
          rw [build_of_groups hgroups]
          have hbuild := forall₂_imp_of_mem hoperands fun _ _ operand hmem h => ih operand hmem h
          exact bind_eq_ok.2 ⟨_, mapM_eq_ok.2 hbuild, join_eq_ok.2 ⟨first, rest, rfl, rfl⟩⟩

/-- A condition is built from the values that denote it, whether or not they were
    looked at before. -/
theorem build_eq_ok_iff {value : Json} {condition : Condition} :
    build value = .ok condition ↔ Denotes value condition := by
  refine ⟨fun h => ?_, build_of_denotes⟩
  induction value using Json.nesting generalizing condition with
  | fragment text =>
      rw [build] at h
      cases h
      exact .literal text
  | negation value content hnegates ih =>
      rw [build_of_negates hnegates] at h
      rcases map_eq_ok.1 h with ⟨operand, hoperand, rfl⟩
      exact .not hnegates (ih hoperand)
  | group value connective items hgroups ih =>
      rw [build_of_groups hgroups] at h
      rcases bind_eq_ok.1 h with ⟨operands, hbuild, hjoin⟩
      rcases join_eq_ok.1 hjoin with ⟨first, rest, rfl, rfl⟩
      refine .group hgroups (forall₂_imp_of_mem (mapM_eq_ok.1 hbuild) ?_)
      exact fun item hmem _ _ h => ih item hmem h
  | shapeless value hshapeless =>
      rcases build_of_shapeless hshapeless with ⟨error, herror, -⟩
      rw [herror] at h
      cases h

/-- What is read as a condition is what is denoted. -/
theorem ofJson_eq_ok_iff {value : Json} {condition : Condition} :
    ofJson value = .ok condition ↔ Denotes value condition := by
  unfold ofJson
  rw [← build_eq_ok_iff]
  split
  · rfl
  · rename_i hform
    -- A value that is built has the form, so nothing is lost by looking first.
    refine ⟨fun h => (nomatch h), fun h => ?_⟩
    exact absurd (hasForm_of_denotes (build_eq_ok_iff.1 h)) hform

end Condition

/-! ### Rows, sort keys and queries -/

namespace RowFilter

/-- What a value denotes as rows: a string is formula text, everything else a
    condition. -/
inductive Denotes : Json → RowFilter → Prop where
  | raw (text : String) : Denotes (.str text) (.raw text)
  | condition {value : Json} {condition : Condition} (hstr : ∀ text, value ≠ .str text)
    (h : Condition.Denotes value condition) : Denotes value (.condition condition)

/-- Apart from strings, rows are read in two passes as conditions are, but that a
    value which does not pass the first time is reported as a field. -/
theorem ofJson_of_ne_str {value : Json} (hstr : ∀ text, value ≠ .str text) :
    ofJson value = if Condition.hasForm value then (Condition.build value).map .condition
      else .error (.invalidField "selectRow" .rows) := by
  unfold ofJson
  split
  · split
    · exact absurd rfl (hstr _)
    · rfl
  · rfl

theorem ofJson_eq_ok_iff {value : Json} {rows : RowFilter} :
    ofJson value = .ok rows ↔ Denotes value rows := by
  constructor
  · intro h
    by_cases hstr : ∃ text, value = .str text
    · rcases hstr with ⟨text, rfl⟩
      cases h
      exact .raw text
    · have hstr : ∀ text, value ≠ .str text := fun text heq => hstr ⟨text, heq⟩
      rw [ofJson_of_ne_str hstr] at h
      split at h
      · rcases map_eq_ok.1 h with ⟨c, hbuild, rfl⟩
        exact .condition hstr (Condition.build_eq_ok_iff.1 hbuild)
      · cases h
  · intro h
    cases h with
    | raw text => rfl
    | condition hstr h =>
        rw [ofJson_of_ne_str hstr, if_pos (Condition.hasForm_of_denotes h),
          Condition.build_of_denotes h]
        rfl

end RowFilter

namespace SortKey

/-- What a value denotes as a sort key: a pair of a column and a flag. -/
inductive Denotes : Json → SortKey → Prop where
  | pair (column : String) {direction : Json} {ascending : Bool}
    (h : direction.IsFlag ascending) : Denotes (.arr [.str column, direction]) ⟨column, ascending⟩

theorem ofJson?_eq_some_iff {value : Json} {key : SortKey} :
    ofJson? value = some key ↔ Denotes value key := by
  refine ⟨fun h => ?_, fun h => ?_⟩
  · unfold ofJson? at h
    split at h
    · rcases Option.map_eq_some_iff.1 h with ⟨ascending, hflag, rfl⟩
      exact .pair _ (Json.flagOfJson?_eq_some_iff.1 hflag)
    · cases h
  · cases h with
    | pair column hflag => rw [ofJson?, Json.flagOfJson?_eq_some_iff.2 hflag]; rfl

end SortKey

namespace Query

/-- What a value denotes as a query: it has the tag of one, and a member for
    each field that denotes what the field holds. -/
inductive Denotes (value : Json) : Query → Prop where
  | select {column : String} {row flag : Json} {rows : RowFilter} {distinct : Bool}
    (htag : value.tag? = some "Select")
    (hcolumn : value.member? "fromDatasetColumn" = some (.str column))
    (hrow : value.member? "selectRow" = some row) (hrows : RowFilter.Denotes row rows)
    (hflag : value.member? "distinctOnly" = some flag) (hdistinct : flag.IsFlag distinct) :
    Denotes value (.select column rows distinct)
  | filter {dataset : String} {row : Json} {rows : RowFilter}
    (htag : value.tag? = some "Filter")
    (hdataset : value.member? "dataset" = some (.str dataset))
    (hrow : value.member? "selectRow" = some row) (hrows : RowFilter.Denotes row rows) :
    Denotes value (.filter dataset rows)
  | orderBy {keys : String} {items : List Json} {order : List SortKey}
    (htag : value.tag? = some "OrderBy")
    (hkeys : value.member? "keys" = some (.str keys))
    (hitems : value.member? "orderBy" = some (.arr items))
    (horder : List.Forall₂ SortKey.Denotes items order) : Denotes value (.orderBy keys order)

theorem kindOf?_eq_some_iff {value : Json} {kind : Kind} :
    kindOf? value = some kind ↔ value.tag? = some kind.tag := by
  unfold kindOf?
  simp only [Option.bind_eq_some_iff, Kind.ofTag?_eq_some_iff, exists_eq_right]

theorem kindOf?_eq_none_iff {value : Json} :
    kindOf? value = none ↔ ∀ kind : Kind, value.tag? ≠ some kind.tag := by
  simp only [Option.eq_none_iff_forall_ne_some, ne_eq, kindOf?_eq_some_iff]

theorem kindOf?_of_tag {value : Json} (kind : Kind) (h : value.tag? = some kind.tag) :
    kindOf? value = some kind :=
  kindOf?_eq_some_iff.2 h

theorem field_eq_ok {α : Type} {kind : Kind} {value : Json} {name : String}
    {read : Json → Except Error α} {a : α} :
    field kind value name read = .ok a ↔
      ∃ content, value.member? name = some content ∧ read content = .ok a := by
  unfold field
  cases value.member? name <;> simp

theorem shaped_eq_ok {α : Type} {name : String} {shape : FieldShape} {read : Json → Option α}
    {content : Json} {a : α} : shaped name shape read content = .ok a ↔ read content = some a := by
  unfold shaped
  cases read content <;> simp

theorem textField_eq_ok {kind : Kind} {value : Json} {name text : String} :
    textField kind value name = .ok text ↔ value.member? name = some (.str text) := by
  simp only [textField, field_eq_ok, shaped_eq_ok, Json.string?_eq_some_iff, exists_eq_right]

theorem rowsField_eq_ok {kind : Kind} {value : Json} {rows : RowFilter} :
    rowsField kind value = .ok rows ↔
      ∃ row, value.member? "selectRow" = some row ∧ RowFilter.Denotes row rows := by
  simp only [rowsField, field_eq_ok, RowFilter.ofJson_eq_ok_iff]

theorem flagField_eq_ok {kind : Kind} {value : Json} {name : String} {distinct : Bool} :
    field kind value name (shaped name .flag Formula.flagOfJson?) = .ok distinct ↔
      ∃ flag, value.member? name = some flag ∧ flag.IsFlag distinct := by
  simp only [field_eq_ok, shaped_eq_ok, Json.flagOfJson?_eq_some_iff]

theorem orderOfJson?_eq_some_iff {content : Json} {order : List SortKey} :
    orderOfJson? content = some order ↔
      ∃ items, content = .arr items ∧ List.Forall₂ SortKey.Denotes items order := by
  cases content <;> simp [orderOfJson?, Json.items?, mapM_eq_some, SortKey.ofJson?_eq_some_iff]

theorem orderField_eq_ok {kind : Kind} {value : Json} {name : String} {order : List SortKey} :
    field kind value name (shaped name .order orderOfJson?) = .ok order ↔
      ∃ items, value.member? name = some (.arr items) ∧
        List.Forall₂ SortKey.Denotes items order := by
  simp only [field_eq_ok, shaped_eq_ok, orderOfJson?_eq_some_iff]
  exact ⟨fun ⟨_, hmember, items, he, h⟩ => ⟨items, he ▸ hmember, h⟩,
    fun ⟨items, hmember, h⟩ => ⟨_, hmember, items, rfl, h⟩⟩

/-- What is read as a query is what is denoted. The fields are read one after
    the other, so each of them was read if the query was. -/
theorem ofJson_eq_ok_iff {value : Json} {query : Query} :
    ofJson value = .ok query ↔ Denotes value query := by
  constructor
  · intro h
    unfold ofJson at h
    split at h
    · cases h
    · rename_i hkind
      simp only [bind_eq_ok, textField_eq_ok, rowsField_eq_ok, flagField_eq_ok] at h
      rcases h with ⟨column, hcolumn, rows, ⟨row, hrow, hrows⟩, distinct,
        ⟨flag, hflag, hdistinct⟩, hquery⟩
      cases hquery
      exact .select (kindOf?_eq_some_iff.1 hkind) hcolumn hrow hrows hflag hdistinct
    · rename_i hkind
      simp only [bind_eq_ok, textField_eq_ok, rowsField_eq_ok] at h
      rcases h with ⟨dataset, hdataset, rows, ⟨row, hrow, hrows⟩, hquery⟩
      cases hquery
      exact .filter (kindOf?_eq_some_iff.1 hkind) hdataset hrow hrows
    · rename_i hkind
      simp only [bind_eq_ok, textField_eq_ok, orderField_eq_ok] at h
      rcases h with ⟨keys, hkeys, order, ⟨items, hitems, horder⟩, hquery⟩
      cases hquery
      exact .orderBy (kindOf?_eq_some_iff.1 hkind) hkeys hitems horder
  · intro h
    cases h with
    | select htag hcolumn hrow hrows hflag hdistinct =>
        rw [ofJson, kindOf?_of_tag .select htag]
        simp only [bind_eq_ok, textField_eq_ok, rowsField_eq_ok, flagField_eq_ok]
        exact ⟨_, hcolumn, _, ⟨_, hrow, hrows⟩, _, ⟨_, hflag, hdistinct⟩, rfl⟩
    | filter htag hdataset hrow hrows =>
        rw [ofJson, kindOf?_of_tag .filter htag]
        simp only [bind_eq_ok, textField_eq_ok, rowsField_eq_ok]
        exact ⟨_, hdataset, _, ⟨_, hrow, hrows⟩, rfl⟩
    | orderBy htag hkeys hitems horder =>
        rw [ofJson, kindOf?_of_tag .orderBy htag]
        simp only [bind_eq_ok, textField_eq_ok, orderField_eq_ok]
        exact ⟨_, hkeys, _, ⟨_, hitems, horder⟩, rfl⟩

end Query

end TableClient
