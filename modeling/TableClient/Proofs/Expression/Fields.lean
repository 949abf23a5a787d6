import TableClient.Proofs.Expression.Vacancy

/-!
# The Fields of a Query

Which field of a query is reported, and for what.

A value with the tag of a query is judged field by field. What can be wrong
with one field is a matter of that field alone: it is missing, it is not of the
shape that it has to be, or it holds the rows and there is an empty group in
them. `Faulty` says which error each of these is, without any order among the
fields. `Kind.fields` lists the fields of a kind of query, and `FirstFault` is
the error of the first one in the list that has anything wrong with it; the
fields behind it are not looked at.

A reading `Reports` certain faults when it fails for these and for no other
reason. Each reader of a field reports the faults of that field, and a chain of
readers reports the first fault of its fields: that is the one step
`reports_bind`, taken once for each field. So a query is read if and only if no
field is at fault, and `Denotes` says which query that is.

## Main definitions

* `Query.Field`, `Kind.fields`: The fields of each kind of query.
* `Fits`: What values are of a shape.
* `Misfit`, `Faulty`, `Sound`: What is wrong with a field, if anything.
* `FirstFault`: The error of the first field that is at fault.
* `Reports`: A reading fails for certain faults and for no other reason.

## Theorems

* `forall_not_firstFault_iff`: There is no first fault just if there is none.
* `judged_rows`: Rows are judged as conditions are.
* `reports_field`, `reports_shaped`, `reports_rows`: Readers of fields report
  their faults.
* `reports_bind`: A chain of readers reports the first fault.
* `reports_ofJson`: So does the reader of queries.
* `ofJson_judges`: What reading a value as a query ends with.
-/

namespace TableClient

open Expression (Error FieldShape)

namespace Query

/-- A field of a query: the key of its member and what its value has to be. -/
structure Field where
  name : String
  shape : FieldShape

/-- The fields of a kind of query, in the order in which they are judged. -/
def Kind.fields : Kind → List Field
  | .select => [⟨"fromDatasetColumn", .text⟩, ⟨"selectRow", .rows⟩, ⟨"distinctOnly", .flag⟩]
  | .filter => [⟨"dataset", .text⟩, ⟨"selectRow", .rows⟩]
  | .orderBy => [⟨"keys", .text⟩, ⟨"orderBy", .order⟩]

/-- A value is of a shape: a string, a value of the form of a condition, a flag,
    or an array of pairs of a string and a flag. -/
inductive Fits : FieldShape → Json → Prop where
  | text (text : String) : Fits .text (.str text)
  | rows {content : Json} (h : Condition.Form content) : Fits .rows content
  | flag {content : Json} {value : Bool} (h : content.IsFlag value) : Fits .flag content
  | order {items : List Json} (h : ∀ item ∈ items, ∃ column direction value,
      item = .arr [.str column, direction] ∧ direction.IsFlag value) : Fits .order (.arr items)

/-- What is wrong with the value of a field, and the error that it makes: it is
    not of the shape, or there is an empty group in the rows. -/
inductive Misfit (field : Field) (content : Json) : Error → Prop where
  | invalid (h : ¬Fits field.shape content) :
    Misfit field content (.invalidField field.name field.shape)
  | vacant {connective : Connective} (hshape : field.shape = .rows)
    (hform : Condition.Form content) (hfirst : content.FirstVacancy connective) :
    Misfit field content (.emptyGroup connective)

/-- What is wrong with a field: it is missing, or its value is at fault. -/
inductive Faulty (kind : Kind) (value : Json) (field : Field) : Error → Prop where
  | missing (h : value.member? field.name = none) :
    Faulty kind value field (.missingField kind.tag field.name)
  | misfit {content : Json} {error : Error} (h : value.member? field.name = some content)
    (hmisfit : Misfit field content error) : Faulty kind value field error

/-- There is nothing wrong with a field. -/
def Sound (kind : Kind) (value : Json) (field : Field) : Prop :=
  ∀ error, ¬Faulty kind value field error

/-- The error of the first of some fields that is at fault. -/
def FirstFault (kind : Kind) (value : Json) (fields : List Field) (error : Error) : Prop :=
  ∃ before field after, fields = before ++ field :: after ∧
    (∀ earlier ∈ before, Sound kind value earlier) ∧ Faulty kind value field error

section

variable {kind : Kind} {value : Json} {fields : List Field}

/-- There is no first fault just if there is none at all. -/
theorem forall_not_firstFault_iff :
    (∀ error, ¬FirstFault kind value fields error) ↔
      ∀ field ∈ fields, Sound kind value field :=
  forall_not_firstOf_iff

end

/-- A reading fails for the given faults and for no other reason. -/
def Reports {α : Type} (reading : Except Error α) (fault : Error → Prop) : Prop :=
  ∀ error, reading = .error error ↔ fault error

section

variable {α β : Type} {kind : Kind} {value : Json}

theorem reports_ok (a : α) : Reports (.ok a) (FirstFault kind value []) :=
  failsFor_ok a

/-- A reading of one field in front of the others reports the first fault of them
    all. The others are read only if nothing is wrong with this one. -/
theorem reports_bind {field : Field} {fields : List Field} {reading : Except Error α}
    {next : α → Except Error β} (hfield : Reports reading (Faulty kind value field))
    (hnext : ∀ a, Reports (next a) (FirstFault kind value fields)) :
    Reports (reading >>= next) (FirstFault kind value (field :: fields)) :=
  failsFor_bind hfield hnext

/-- A field is reported if it is missing, and for what is wrong with its value
    otherwise. -/
theorem reports_field {name : String} {shape : FieldShape} {read : Json → Except Error α}
    (hread : ∀ content, Reports (read content) (Misfit ⟨name, shape⟩ content)) :
    Reports (field kind value name read) (Faulty kind value ⟨name, shape⟩) := by
  intro error
  unfold field
  cases hmember : value.member? name with
  | none =>
      constructor
      · intro h
        cases h
        exact .missing hmember
      · intro h
        cases h with
        | missing => rfl
        | misfit h => exact nomatch hmember.symm.trans h
  | some content =>
      constructor
      · intro h
        exact .misfit hmember ((hread content error).1 h)
      · intro h
        cases h with
        | missing h => exact nomatch hmember.symm.trans h
        | misfit h hmisfit =>
            have heq := Option.some.inj (hmember.symm.trans h)
            exact (hread content error).2 (heq ▸ hmisfit)

/-- A value is reported for its shape alone if there is a reading of just the
    values of that shape, and the shape is not that of rows. -/
theorem reports_shaped {name : String} {shape : FieldShape} {read : Json → Option α}
    (hread : ∀ content, (∃ a, read content = some a) ↔ Fits shape content)
    (hshape : shape ≠ .rows) (content : Json) :
    Reports (shaped name shape read content) (Misfit ⟨name, shape⟩ content) := by
  intro error
  unfold shaped
  cases hcontent : read content with
  | none =>
      have hnot : ¬Fits shape content := by
        intro hfits
        rcases (hread content).2 hfits with ⟨a, ha⟩
        exact nomatch hcontent.symm.trans ha
      constructor
      · intro h
        cases h
        exact .invalid hnot
      · intro h
        cases h with
        | invalid => rfl
        | vacant h => exact absurd h hshape
  | some a =>
      have hfits : Fits shape content := (hread content).1 ⟨a, hcontent⟩
      constructor
      · intro h
        cases h
      · intro h
        cases h with
        | invalid h => exact absurd hfits h
        | vacant h => exact absurd h hshape

theorem fits_text_iff (content : Json) :
    (∃ text, content.string? = some text) ↔ Fits .text content := by
  simp only [Json.string?_eq_some_iff]
  constructor
  · rintro ⟨text, rfl⟩
    exact .text text
  · intro h
    cases h with
    | text text => exact ⟨text, rfl⟩

theorem fits_flag_iff (content : Json) :
    (∃ value, Formula.flagOfJson? content = some value) ↔ Fits .flag content := by
  simp only [Json.flagOfJson?_eq_some_iff]
  constructor
  · rintro ⟨value, h⟩
    exact .flag h
  · intro h
    cases h with
    | flag h => exact ⟨_, h⟩

/-- The value of an order is read if each of its items is a pair. -/
theorem fits_order_iff (content : Json) :
    (∃ order, orderOfJson? content = some order) ↔ Fits .order content := by
  simp only [orderOfJson?_eq_some_iff]
  constructor
  · rintro ⟨order, items, rfl, hkeys⟩
    refine .order (forall_mem_of_forall₂ hkeys fun item _ key _ hkey => ?_)
    cases hkey with
    | pair column hflag => exact ⟨column, _, _, rfl, hflag⟩
  · intro h
    cases h with
    | @order items hitems =>
        have hkeys : ∀ item ∈ items, ∃ key, SortKey.Denotes item key := by
          intro item hmem
          rcases hitems item hmem with ⟨column, direction, ascending, rfl, hflag⟩
          exact ⟨⟨column, ascending⟩, .pair column hflag⟩
        rcases exists_forall₂ hkeys with ⟨order, horder⟩
        exact ⟨order, items, rfl, horder⟩

/-- Rows of the form of a condition are judged as the condition is. A string has
    no group in it, so it makes no difference that it is taken as it stands. -/
theorem judged_rows {content : Json} (h : Condition.Form content) :
    Condition.Judged content.VacantAt (RowFilter.ofJson content) := by
  by_cases hstr : ∃ text, content = .str text
  · rcases hstr with ⟨text, rfl⟩
    exact .sound (Json.not_vacantAt_str text)
  · rw [RowFilter.ofJson_of_ne_str fun text h => hstr ⟨text, h⟩,
      if_pos (Condition.hasForm_iff.2 h)]
    exact (Condition.judged_build h).map RowFilter.condition

/-- Rows are reported for their shape, or for the first empty group in them. -/
theorem reports_rows (content : Json) :
    Reports (RowFilter.ofJson content) (Misfit ⟨"selectRow", .rows⟩ content) := by
  intro error
  by_cases hform : Condition.Form content
  · have hjudged := judged_rows hform
    generalize RowFilter.ofJson content = result at hjudged
    cases hjudged with
    | sound hnone =>
        constructor
        · intro h
          cases h
        · intro h
          cases h with
          | invalid h => exact absurd (.rows hform) h
          | vacant _ _ hfirst =>
              rcases hfirst with ⟨path, hpath, -⟩
              exact absurd hpath (hnone path _)
    | vacant hfirst =>
        constructor
        · intro h
          cases h
          exact .vacant rfl hform hfirst
        · intro h
          cases h with
          | invalid h => exact absurd (.rows hform) h
          | vacant _ _ hother => rw [Condition.firstVacancy_unique hfirst hother]
  · unfold RowFilter.ofJson
    rw [if_neg fun h => hform (Condition.hasForm_iff.1 h)]
    constructor
    · intro h
      cases h
      refine .invalid fun h => ?_
      cases h with
      | rows h => exact hform h
    · intro h
      cases h with
      | invalid => rfl
      | vacant _ h => exact absurd h hform

theorem reports_textField (name : String) :
    Reports (textField kind value name) (Faulty kind value ⟨name, .text⟩) :=
  reports_field (reports_shaped fits_text_iff nofun)

theorem reports_rowsField :
    Reports (rowsField kind value) (Faulty kind value ⟨"selectRow", .rows⟩) :=
  reports_field reports_rows

end

/-- A value with the tag of a kind is reported for the first fault of the fields
    of that kind. -/
theorem reports_ofJson {value : Json} {kind : Kind} (htag : value.tag? = some kind.tag) :
    Reports (ofJson value) (FirstFault kind value kind.fields) := by
  have hkind : kindOf? value = some kind := kindOf?_of_tag kind htag
  unfold ofJson
  rw [hkind]
  cases kind with
  | select =>
      refine reports_bind (reports_textField "fromDatasetColumn") fun column => ?_
      refine reports_bind reports_rowsField fun rows => ?_
      exact reports_bind (reports_field (reports_shaped fits_flag_iff nofun)) fun _ => reports_ok _
  | filter =>
      refine reports_bind (reports_textField "dataset") fun dataset => ?_
      exact reports_bind reports_rowsField fun rows => reports_ok _
  | orderBy =>
      refine reports_bind (reports_textField "keys") fun keys => ?_
      exact reports_bind (reports_field (reports_shaped fits_order_iff nofun)) fun _ => reports_ok _

/-- A value without the tag of a query is reported whole, and no other value is
    reported so. -/
theorem ofJson_eq_notQuery_iff {value other : Json} :
    ofJson value = .error (.notQuery other) ↔
      other = value ∧ ∀ kind : Kind, value.tag? ≠ some kind.tag := by
  constructor
  · intro h
    -- With the tag of a query the error would be that of a field.
    have hnone : ∀ kind : Kind, value.tag? ≠ some kind.tag := by
      intro kind htag
      rcases (reports_ofJson htag _).1 h with ⟨_, field, _, -, -, hfaulty⟩
      cases hfaulty with
      | misfit _ hmisfit => cases hmisfit
    rw [ofJson, kindOf?_eq_none_iff.2 hnone] at h
    cases h
    exact ⟨rfl, hnone⟩
  · rintro ⟨rfl, hnone⟩
    rw [ofJson, kindOf?_eq_none_iff.2 hnone]

/-- What reading a value as a query ends with. A value without the tag of one is
    reported whole. A value with the tag is reported for the first of the fields
    of that kind that is at fault, whatever is behind it, and is read if none
    is. What is read is the query whose fields the members denote. -/
theorem ofJson_judges (value : Json) :
    (∀ other, ofJson value = .error (.notQuery other) ↔
      other = value ∧ ∀ kind : Kind, value.tag? ≠ some kind.tag) ∧
    (Error.notQuery value).message = "not a query expression: " ++ value.compact ∧
    (∀ kind : Kind, value.tag? = some kind.tag →
      (∀ error, ofJson value = .error error ↔ FirstFault kind value kind.fields error) ∧
      ((∃ query, ofJson value = .ok query) ↔
        ∀ field ∈ kind.fields, Sound kind value field)) ∧
    ∀ query, ofJson value = .ok query ↔ Denotes value query := by
  refine ⟨fun other => ofJson_eq_notQuery_iff, rfl, fun kind htag => ?_,
    fun query => ofJson_eq_ok_iff⟩
  have hreports := reports_ofJson htag
  refine ⟨hreports, ?_⟩
  rw [← forall_not_firstFault_iff]
  cases hread : ofJson value with
  | error error =>
      have hfirst := (hreports error).1 hread
      exact ⟨fun ⟨_, h⟩ => (nomatch h), fun hnone => absurd hfirst (hnone error)⟩
  | ok query =>
      refine ⟨fun _ error hfirst => ?_, fun _ => ⟨query, rfl⟩⟩
      exact nomatch hread.symm.trans ((hreports error).2 hfirst)

/-- A filter without a dataset is reported for that, though its rows are at fault
    as well. A selection is reported for the empty group in its rows, though it
    lacks a flag. A sort key that is a triple is at fault for its length. -/
theorem ofJson_judges_first :
    (Json.obj [("selectRow", .null), ("type", .str "Filter")]).tag? = some Kind.filter.tag ∧
    ofJson (.obj [("selectRow", .null), ("type", .str "Filter")])
      = .error (.missingField "Filter" "dataset") ∧
    FirstFault .filter (.obj [("selectRow", .null), ("type", .str "Filter")]) Kind.filter.fields
      (.missingField "Filter" "dataset") ∧
    FirstFault .select (.obj [("fromDatasetColumn", .str "T[C]"),
        ("selectRow", .obj [("conditions", .arr []), ("type", .str "Or")]),
        ("type", .str "Select")]) Kind.select.fields (.emptyGroup .or) ∧
    FirstFault .orderBy (.obj [("keys", .str "T[C]"),
        ("orderBy", .arr [.arr [.str "[A]", .bool true], .arr [.str "[B]", .bool true, .null]]),
        ("type", .str "OrderBy")]) Kind.orderBy.fields (.invalidField "orderBy" .order) := by
  refine ⟨rfl, rfl, ?_, ?_, ?_⟩
  · exact (((ofJson_judges _).2.2.1 .filter rfl).1 _).1 rfl
  · exact (((ofJson_judges _).2.2.1 .select rfl).1 _).1 rfl
  · exact (((ofJson_judges _).2.2.1 .orderBy rfl).1 _).1 rfl

end Query

end TableClient
