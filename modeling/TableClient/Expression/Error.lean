import TableClient.Expression.Query
import TableClient.Json.Print

/-!
# Faults in Expressions

Why a JSON value is no condition or no query.

A value that does not even look like what was asked for is reported whole. A
query that carries its tag is judged field by field, and the first bad field
is reported by name.

## Main definitions

* `FieldShape`: What the value of a field has to be.
* `Expression.Error`: Why a value was refused.
* `Expression.Error.message`: The sentence that reports it.
-/

namespace TableClient

namespace Expression

/-- What the value of a field has to be. -/
inductive FieldShape where
  | text
  | rows
  | flag
  | order
deriving DecidableEq, Repr

/-- The words for what a field has to be. -/
def FieldShape.description : FieldShape → String
  | .text => "a string"
  | .rows => "a formula string or a condition expression"
  | .flag => "\"TRUE\" or \"FALSE\""
  | .order => "an array of [column, TRUE|FALSE] pairs"

/-- Why a value was refused as an expression. -/
inductive Error where
  /-- The value is not of the form of a condition. -/
  | notCondition (value : Json)
  /-- The value does not carry the tag of a query. -/
  | notQuery (value : Json)
  /-- A group has no operands. -/
  | emptyGroup (connective : Connective)
  /-- An expression with the tag lacks a field. -/
  | missingField (tag : String) (field : String)
  /-- A field of a query is not what it has to be. -/
  | invalidField (field : String) (shape : FieldShape)

/-- The sentence that reports why a value was refused. -/
def Error.message : Error → String
  | .notCondition value => "not a condition expression: " ++ value.compact
  | .notQuery value => "not a query expression: " ++ value.compact
  | .emptyGroup connective => connective.tag ++ " requires at least one condition"
  | .missingField tag field => tag ++ " expression is missing field '" ++ field ++ "'"
  | .invalidField field shape => "field '" ++ field ++ "' must be " ++ shape.description

end Expression

end TableClient
