import TableClient.Expression.Condition

/-!
# Queries

What to read from a table, and the selector formulas that ask for it.

A query reads the values of a column in matching rows, the keys of matching
rows, or keys in the order of some columns. The rows are picked by formula
text used as it stands or by a condition; the two may have the same text and
are different all the same.

## Main definitions

* `RowFilter`: Which rows a query is about.
* `SortKey`: A column to sort by and its direction.
* `Query`: What to read.
* `Query.Kind`: The three kinds of query, as JSON tags them.
* `Query.formula`: The selector that asks for it.
-/

namespace TableClient

/-- Which rows a query is about. -/
inductive RowFilter where
  /-- Formula text, used as it stands. -/
  | raw (text : String)
  /-- A condition on the rows. -/
  | condition (condition : Condition)
deriving DecidableEq, Repr

/-- The formula that picks the rows. -/
def RowFilter.formula : RowFilter → String
  | .raw text => text
  | .condition c => c.formula

/-- A column to sort by and whether its values ascend. -/
structure SortKey where
  column : String
  ascending : Bool
deriving DecidableEq, Repr

/-- The two arguments a sort key takes in a formula. -/
def SortKey.arguments (key : SortKey) : List String :=
  [key.column, Formula.flag key.ascending]

/-- What to read from a table. -/
inductive Query where
  /-- The values of a column in the matching rows, each once or as often as
      it occurs. -/
  | select (column : String) (rows : RowFilter) (distinct : Bool)
  /-- The keys of the matching rows. -/
  | filter (dataset : String) (rows : RowFilter)
  /-- Keys in the order of some columns. -/
  | orderBy (keys : String) (order : List SortKey)
deriving DecidableEq, Repr

namespace Query

/-- The kinds of query. -/
inductive Kind where
  | select
  | filter
  | orderBy
deriving DecidableEq, Repr

/-- The tag of a kind in JSON. -/
def Kind.tag : Kind → String
  | .select => "Select"
  | .filter => "Filter"
  | .orderBy => "OrderBy"

/-- The kind a tag names. -/
def Kind.ofTag? : String → Option Kind
  | "Select" => some .select
  | "Filter" => some .filter
  | "OrderBy" => some .orderBy
  | _ => none

/-- The kind of a query. -/
def kind : Query → Kind
  | .select .. => .select
  | .filter .. => .filter
  | .orderBy .. => .orderBy

/-- The selector formula that asks for what the query reads. -/
def formula : Query → String
  | .select column rows distinct =>
    Formula.call "SELECT" [column, rows.formula, Formula.flag distinct]
  | .filter dataset rows => Formula.call "FILTER" [dataset, rows.formula]
  | .orderBy keys order => Formula.call "ORDERBY" (keys :: order.flatMap SortKey.arguments)

@[simp]
theorem Kind.ofTag?_tag (kind : Kind) : Kind.ofTag? kind.tag = some kind := by
  cases kind <;> rfl

theorem Kind.ofTag?_eq_some_iff {tag : String} {kind : Kind} :
    Kind.ofTag? tag = some kind ↔ tag = kind.tag := by
  refine ⟨fun h => ?_, fun h => h ▸ Kind.ofTag?_tag kind⟩
  unfold Kind.ofTag? at h
  split at h
  · cases h
    rfl
  · cases h
    rfl
  · cases h
    rfl
  · cases h

end Query

end TableClient
