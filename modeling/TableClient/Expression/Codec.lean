import TableClient.Expression.Reader

/-!
# Expressions in JSON

Conditions and queries as JSON values, and back.

A fragment is a string; everything else is an object with a tag in its member
`type`. Flags are written as the texts `TRUE` and `FALSE` and may be given as
booleans too. The rows of a query are given like a condition, except that a
string means formula text used as it stands.

An expression is a query when it carries the tag of one, whatever else it
holds, and a condition otherwise.

## Main definitions

* `Condition.toJson`, `Query.toJson`: The value that spells an expression.
* `RowFilter.ofJson`, `Query.ofJson`: The rows or the query a value spells.
* `Query.hasTag`: Whether a value is to be read as a query.
* `Expression`: A condition or a query.
* `Expression.ofJson`: The expression a value spells, by its tag.
-/

namespace TableClient

open Expression (Error FieldShape)

namespace Condition

mutual

/-- The value that spells a condition. -/
def toJson : Condition → Json
  | .literal text => .str text
  | .not operand => .obj [("condition", toJson operand), ("type", .str "Not")]
  | .group connective first rest =>
    .obj [("conditions", .arr (toJson first :: toJsonAll rest)), ("type", .str connective.tag)]

/-- The values that spell several conditions. -/
def toJsonAll : List Condition → List Json
  | [] => []
  | condition :: rest => toJson condition :: toJsonAll rest

end

end Condition

namespace RowFilter

/-- The rows a value spells; a string is formula text. A value that does not
    have the form of a condition is a fault of the field. -/
def ofJson (value : Json) : Except Error RowFilter :=
  if Condition.hasForm value then
    match value with
    | .str text => .ok (.raw text)
    | value => (Condition.build value).map .condition
  else .error (.invalidField "selectRow" .rows)

/-- The value that spells the rows. -/
def toJson : RowFilter → Json
  | .raw text => .str text
  | .condition c => c.toJson

end RowFilter

/-- The flag a value spells, as a boolean or as a text. -/
def Formula.flagOfJson? : Json → Option Bool
  | .bool value => some value
  | .str text => Formula.flag? text
  | _ => none

namespace SortKey

/-- The sort key a pair of a column and a flag spells. -/
def ofJson? : Json → Option SortKey
  | .arr [.str column, direction] =>
    (Formula.flagOfJson? direction).map fun ascending => ⟨column, ascending⟩
  | _ => none

/-- The pair that spells a sort key. -/
def toJson (key : SortKey) : Json :=
  .arr [.str key.column, .str (Formula.flag key.ascending)]

end SortKey

namespace Query

/-- The kind of query a value is tagged as. -/
def kindOf? (value : Json) : Option Kind :=
  value.tag?.bind Kind.ofTag?

/-- Whether a value carries the tag of a query. -/
def hasTag (value : Json) : Bool :=
  (kindOf? value).isSome

/-- A field of a query, read as `read` says. -/
def field {α : Type} (kind : Kind) (value : Json) (name : String)
    (read : Json → Except Error α) : Except Error α :=
  match value.member? name with
  | none => .error (.missingField kind.tag name)
  | some content => read content

/-- A reading that may have no result, which is then a fault of the field. -/
def shaped {α : Type} (name : String) (shape : FieldShape) (read : Json → Option α)
    (value : Json) : Except Error α :=
  match read value with
  | none => .error (.invalidField name shape)
  | some result => .ok result

/-- A field that holds a text. -/
def textField (kind : Kind) (value : Json) (name : String) : Except Error String :=
  field kind value name (shaped name .text Json.string?)

/-- The field that says which rows a query is about. -/
def rowsField (kind : Kind) (value : Json) : Except Error RowFilter :=
  field kind value "selectRow" RowFilter.ofJson

/-- The sort keys an array of pairs spells. -/
def orderOfJson? (value : Json) : Option (List SortKey) :=
  value.items?.bind fun items => items.mapM SortKey.ofJson?

/-- The query a value spells. Its fields are judged one after the other, and
    the first bad one is reported. -/
def ofJson (value : Json) : Except Error Query :=
  match kindOf? value with
  | none => .error (.notQuery value)
  | some .select => do
    let column ← textField .select value "fromDatasetColumn"
    let rows ← rowsField .select value
    let distinct ←
      field .select value "distinctOnly" (shaped "distinctOnly" .flag Formula.flagOfJson?)
    .ok (.select column rows distinct)
  | some .filter => do
    let dataset ← textField .filter value "dataset"
    let rows ← rowsField .filter value
    .ok (.filter dataset rows)
  | some .orderBy => do
    let keys ← textField .orderBy value "keys"
    let order ← field .orderBy value "orderBy" (shaped "orderBy" .order orderOfJson?)
    .ok (.orderBy keys order)

/-- The value that spells a query. -/
def toJson (query : Query) : Json :=
  let tag := ("type", .str query.kind.tag)
  match query with
  | .select column rows distinct =>
    .obj
      [("distinctOnly", .str (Formula.flag distinct)), ("fromDatasetColumn", .str column),
        ("selectRow", rows.toJson), tag]
  | .filter dataset rows => .obj [("dataset", .str dataset), ("selectRow", rows.toJson), tag]
  | .orderBy keys order =>
    .obj [("keys", .str keys), ("orderBy", .arr (order.map SortKey.toJson)), tag]

end Query

/-- A condition or a query. -/
inductive Expression where
  | condition (condition : Condition)
  | query (query : Query)
deriving DecidableEq, Repr

namespace Expression

/-- The expression a value spells: a query if it carries the tag of one, and
    a condition otherwise. -/
def ofJson (value : Json) : Except Error Expression :=
  if Query.hasTag value then (Query.ofJson value).map .query
  else (Condition.ofJson value).map .condition

/-- The value that spells an expression. -/
def toJson : Expression → Json
  | .condition c => c.toJson
  | .query q => q.toJson

/-- The formula an expression stands for. -/
def formula : Expression → String
  | .condition c => c.formula
  | .query q => q.formula

/-- The tag of an expression in JSON; a fragment has none. -/
def tag? : Expression → Option String
  | .condition c => c.tag?
  | .query q => some q.kind.tag

end Expression

end TableClient
