import TableClient.Expression.Error

/-!
# Reading Conditions

The condition that a JSON value spells, in two passes over the value.

The first pass only looks. A value has the form of a condition when it is a
string, an object tagged `Not` whose `condition` has the form, or an object
tagged `And` or `Or` whose `conditions` are an array of values that have it.
Other members of the object are of no interest, and the array may be empty.

The second pass builds. It looks for the tag and the members once more and has
an error for each of them that it does not find. Groups are made here, so a
group without operands is refused here as well, and the operands are built
from left to right.

A value that does not pass the first time is reported whole, wherever the fault
in it is.

## Main definitions

* `tag?`: The tag of an object.
* `Condition.hasForm`: Whether a value has the form of a condition.
* `Condition.build`: The condition a value of that form spells.
* `Condition.ofJson`: The condition a value spells.

## Theorems

* `operandHasForm_eq`, `operandsHaveForm_eq`: The first pass over the members of
  an object.
* `buildOperand_eq`, `buildOperands_eq`: The second, with its errors for members
  that are not there.
-/

namespace TableClient

open Expression (Error)

/-- The tag of an object, the text of its member `type`. -/
def Json.tag? (value : Json) : Option String :=
  (value.member? "type").bind Json.string?

namespace Condition

/-! ### The form -/

mutual

/-- Whether a value has the form of a condition, empty groups included. -/
def hasForm : Json → Bool
  | .str _ => true
  | .obj members =>
    match (Json.obj members).tag? with
    | none => false
    | some "Not" => operandHasForm members
    | some tag => (Connective.ofTag? tag).isSome && operandsHaveForm members
  | _ => false

/-- Whether the member `condition` is there and has the form. -/
def operandHasForm : List (String × Json) → Bool
  | [] => false
  | (key, value) :: rest => if key = "condition" then hasForm value else operandHasForm rest

/-- Whether the member `conditions` is there and its items have the form. -/
def operandsHaveForm : List (String × Json) → Bool
  | [] => false
  | (key, value) :: rest => if key = "conditions" then itemsHaveForm value else operandsHaveForm rest

/-- Whether a value is an array whose items have the form. -/
def itemsHaveForm : Json → Bool
  | .arr items => allHaveForm items
  | _ => false

/-- Whether all of some values have the form. -/
def allHaveForm : List Json → Bool
  | [] => true
  | value :: rest => hasForm value && allHaveForm rest

end

theorem operandHasForm_eq (members : List (String × Json)) :
    operandHasForm members = (Dictionary.get? "condition" members).any hasForm := by
  induction members with
  | nil => rw [operandHasForm, Dictionary.get?, Option.any_none]
  | cons member rest ih =>
    obtain ⟨key, value⟩ := member
    rw [operandHasForm, Dictionary.get?, ih]
    split <;> rfl

theorem allHaveForm_eq (items : List Json) : allHaveForm items = items.all hasForm := by
  induction items with
  | nil => rw [allHaveForm, List.all_nil]
  | cons item rest ih => rw [allHaveForm, ih, List.all_cons]

theorem itemsHaveForm_eq (value : Json) :
    itemsHaveForm value = value.items?.any (List.all · hasForm) := by
  cases value with
  | arr items => rw [itemsHaveForm, allHaveForm_eq, Json.items?, Option.any_some]
  | _ => rfl

theorem operandsHaveForm_eq (members : List (String × Json)) :
    operandsHaveForm members
      = ((Dictionary.get? "conditions" members).bind Json.items?).any (List.all · hasForm) := by
  induction members with
  | nil => rfl
  | cons member rest ih =>
    obtain ⟨key, value⟩ := member
    rw [operandsHaveForm, Dictionary.get?, ih, itemsHaveForm_eq]
    split <;> rfl

/-! ### The condition -/

/-- The group of a list of operands, which is refused if there are none. -/
def join (connective : Connective) (operands : List Condition) : Except Error Condition :=
  match join? connective operands with
  | none => .error (.emptyGroup connective)
  | some condition => .ok condition

mutual

/-- The condition a value of the form spells. -/
def build : Json → Except Error Condition
  | .str text => .ok (.literal text)
  | .obj members =>
    match (Json.obj members).tag? with
    | none => .error (.notCondition (.obj members))
    | some "Not" => do
      let operand ← buildOperand members
      .ok (.not operand)
    | some tag =>
      match Connective.ofTag? tag with
      | none => .error (.notCondition (.obj members))
      | some connective => do
        let operands ← buildOperands connective members
        join connective operands
  | value => .error (.notCondition value)

/-- The condition of the member `condition`. -/
def buildOperand : List (String × Json) → Except Error Condition
  | [] => .error (.missingField "Not" "condition")
  | (key, value) :: rest => if key = "condition" then build value else buildOperand rest

/-- The conditions of the items of the member `conditions`. -/
def buildOperands (connective : Connective) :
    List (String × Json) → Except Error (List Condition)
  | [] => .error (.missingField connective.tag "conditions")
  | (key, value) :: rest =>
    if key = "conditions" then buildItems connective value else buildOperands connective rest

/-- The conditions of the items of an array. What is no array is as good as
    missing. -/
def buildItems (connective : Connective) : Json → Except Error (List Condition)
  | .arr items => buildAll items
  | _ => .error (.missingField connective.tag "conditions")

/-- The conditions of some values. -/
def buildAll : List Json → Except Error (List Condition)
  | [] => .ok []
  | value :: rest => do
    let condition ← build value
    let conditions ← buildAll rest
    .ok (condition :: conditions)

end

theorem buildOperand_eq (members : List (String × Json)) :
    buildOperand members
      = (Dictionary.get? "condition" members).elim
        (.error (.missingField "Not" "condition")) build := by
  induction members with
  | nil => rw [buildOperand, Dictionary.get?, Option.elim_none]
  | cons member rest ih =>
    obtain ⟨key, value⟩ := member
    rw [buildOperand, Dictionary.get?, ih]
    split <;> rfl

theorem buildAll_eq (items : List Json) : buildAll items = items.mapM build := by
  induction items with
  | nil => rw [buildAll, List.mapM_nil]; rfl
  | cons item rest ih => rw [buildAll, ih, List.mapM_cons]; rfl

theorem buildItems_eq (connective : Connective) (value : Json) :
    buildItems connective value
      = value.items?.elim (.error (.missingField connective.tag "conditions")) (List.mapM build) := by
  cases value with
  | arr items => rw [buildItems, buildAll_eq, Json.items?, Option.elim_some]
  | _ => rfl

theorem buildOperands_eq (connective : Connective) (members : List (String × Json)) :
    buildOperands connective members
      = ((Dictionary.get? "conditions" members).bind Json.items?).elim
        (.error (.missingField connective.tag "conditions")) (List.mapM build) := by
  induction members with
  | nil => rfl
  | cons member rest ih =>
    obtain ⟨key, value⟩ := member
    rw [buildOperands, Dictionary.get?, ih, buildItems_eq]
    split <;> rfl

/-- The condition a value spells. A value that does not have the form is
    reported whole. -/
def ofJson (value : Json) : Except Error Condition :=
  if hasForm value then build value else .error (.notCondition value)

end Condition

end TableClient
