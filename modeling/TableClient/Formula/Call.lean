/-!
# Function Calls in a Formula

The text of a call and of a truth value.

Every compound formula is a call: a function's name, an opening parenthesis,
the arguments parted by a comma and a blank, and the closing parenthesis.
Arguments are put in as they stand; nothing is quoted or escaped.

## Main definitions

* `arguments`: Argument texts parted by a comma and a blank.
* `call`: The text of a function applied to its arguments.
* `flag`: The text of a truth value.

## Theorems

* `toList_call`: The characters of a call in order.
* `arguments_singleton`: One argument stands alone.
* `arguments_cons`: A further argument follows a comma and a blank.
-/

namespace TableClient

namespace Formula

/-- The texts of arguments, each but the first after a comma and a blank. -/
def arguments : List String → String
  | [] => ""
  | [argument] => argument
  | argument :: rest => argument ++ ", " ++ arguments rest

/-- The text of a function applied to its arguments. -/
def call (function : String) (args : List String) : String :=
  function ++ "(" ++ arguments args ++ ")"

/-- The text of a truth value. -/
def flag : Bool → String
  | true => "TRUE"
  | false => "FALSE"

/-- The truth value a text spells. -/
def flag? : String → Option Bool
  | "TRUE" => some true
  | "FALSE" => some false
  | _ => none

@[simp]
theorem arguments_singleton (argument : String) : arguments [argument] = argument :=
  rfl

theorem arguments_cons (argument next : String) (rest : List String) :
    arguments (argument :: next :: rest) = argument ++ ", " ++ arguments (next :: rest) :=
  rfl

theorem toList_call (function : String) (args : List String) :
    (call function args).toList
      = function.toList ++ '(' :: (arguments args).toList ++ [')'] := by
  simp [call]

@[simp]
theorem flag?_flag (value : Bool) : flag? (flag value) = some value := by
  cases value <;> rfl

theorem flag?_eq_some_iff {text : String} {value : Bool} :
    flag? text = some value ↔ text = flag value := by
  refine ⟨fun h => ?_, fun h => h ▸ flag?_flag value⟩
  unfold flag? at h
  split at h
  · cases h
    rfl
  · cases h
    rfl
  · cases h

end Formula

end TableClient
