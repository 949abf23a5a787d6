import TableClient.Dictionary
import TableClient.Number.Double

/-!
# JSON Values

Values of the data format that expressions, rows and properties travel in.

A number is an integer or a double. The two never meet: what is written
without a point and without an exponent is an integer as long as it fits into
64 bits, and everything else, minus zero included, is a double.

The members of an object are a dictionary, kept in the order of their keys.
`WellFormed` says so of a value and of everything inside it. Objects are
built with `object`, which puts the members in order.

## Main definitions

* `Json`: A value.
* `Json.object`: The object with the given members.
* `Json.member?`: The member of an object with a key.
* `Json.string?`: The text of a string.
* `Json.WellFormed`: Every object in a value is in order.

## Theorems

* `string?_eq_some_iff`: Which values are strings.
-/

namespace TableClient

namespace Json

/-- A number of the data format. -/
inductive Number where
  | int (value : Int)
  | real (value : Double)
deriving DecidableEq, Repr

end Json

/-- A value of the data format. -/
inductive Json where
  | null
  | bool (value : Bool)
  | num (value : Json.Number)
  | str (value : String)
  | arr (items : List Json)
  | obj (members : List (String × Json))

namespace Json

/-- The object with the given members; of several with one key the last one
    stays. -/
def object (members : List (String × Json)) : Json :=
  .obj (Dictionary.ofList members)

/-- The member of an object with the key. -/
def member? (key : String) : Json → Option Json
  | .obj members => Dictionary.get? key members
  | _ => none

/-- The text of a string. -/
def string? : Json → Option String
  | .str value => some value
  | _ => none

theorem string?_eq_some_iff {content : Json} {text : String} :
    content.string? = some text ↔ content = .str text := by
  cases content <;> simp [string?]

/-- The items of an array. -/
def items? : Json → Option (List Json)
  | .arr items => some items
  | _ => none

mutual

/-- Every object in a value has its members in the order of their keys. -/
def WellFormed : Json → Prop
  | .arr items => WellFormedItems items
  | .obj members => Dictionary.Ordered members ∧ WellFormedMembers members
  | _ => True

/-- Every object in some values has its members in order. -/
def WellFormedItems : List Json → Prop
  | [] => True
  | item :: rest => WellFormed item ∧ WellFormedItems rest

/-- Every object in the values of some members has its members in order. -/
def WellFormedMembers : List (String × Json) → Prop
  | [] => True
  | (_, value) :: rest => WellFormed value ∧ WellFormedMembers rest

end

end Json

end TableClient
