/-!
# Brackets of a Formula

Which formula texts close every bracket they open.

A formula is read from left to right with a stack of the brackets still
open. An opening character is pushed, a closing one has to meet its own kind
on top, and every other character leaves the stack alone. Quotes have no
meaning here: a bracket inside a quoted word counts like any other, so the
check is a property of the characters and of nothing else.

`scan` is a fold, so the stack after a text is the stack after its first part
carried through its second. That is what lets a formula be checked piece by
piece, each piece from the stack that the pieces before it left.

## Main definitions

* `Bracket`: The three kinds of bracket.
* `push`: What one character does to the stack of open brackets.
* `scan`: What a text does to the stack of open brackets.
* `Balanced`: A text that starts and ends with nothing open.

## Theorems

* `scan_append`: A text in two parts is scanned part by part.
* `push_opening`: An opening character is pushed.
* `push_closing_self`: A closing character pops its own kind.
* `push_other`: A character that is no bracket changes nothing.
-/

namespace TableClient

namespace Formula

/-- The kinds of bracket a formula may hold. -/
inductive Bracket where
  | round
  | curly
  | square
deriving DecidableEq, Repr

namespace Bracket

/-- The character that opens a bracket of this kind. -/
def opening : Bracket → Char
  | .round => '('
  | .curly => '{'
  | .square => '['

/-- The character that closes a bracket of this kind. -/
def closing : Bracket → Char
  | .round => ')'
  | .curly => '}'
  | .square => ']'

/-- The kind of bracket a character opens, if it opens one. -/
def opened? : Char → Option Bracket
  | '(' => some .round
  | '{' => some .curly
  | '[' => some .square
  | _ => none

/-- The kind of bracket a character closes, if it closes one. -/
def closed? : Char → Option Bracket
  | ')' => some .round
  | '}' => some .curly
  | ']' => some .square
  | _ => none

end Bracket

/-- The brackets still open, the innermost first. -/
abbrev Openings := List Bracket

/-- What one character does to the open brackets; `none` is a closing
    character that does not meet its own kind. -/
def push (stack : Openings) (c : Char) : Option Openings :=
  match Bracket.opened? c with
  | some b => some (b :: stack)
  | none =>
    match Bracket.closed? c with
    | none => some stack
    | some b =>
      match stack with
      | [] => none
      | top :: rest => if top = b then some rest else none

/-- What a text does to the open brackets, character by character. -/
def scan (stack : Openings) (text : List Char) : Option Openings :=
  text.foldlM push stack

/-- A text is balanced when reading it from nothing open ends with nothing
    open. -/
def Balanced (text : String) : Prop :=
  scan [] text.toList = some []

instance (text : String) : Decidable (Balanced text) :=
  inferInstanceAs (Decidable (scan [] text.toList = some []))

@[simp]
theorem scan_nil (stack : Openings) : scan stack [] = some stack :=
  rfl

theorem scan_cons (stack : Openings) (c : Char) (text : List Char) :
    scan stack (c :: text) = (push stack c).bind (scan · text) :=
  rfl

theorem scan_append (stack : Openings) (first second : List Char) :
    scan stack (first ++ second) = (scan stack first).bind (scan · second) := by
  simp only [scan, List.foldlM_append]
  rfl

@[simp]
theorem push_opening (stack : Openings) (b : Bracket) :
    push stack b.opening = some (b :: stack) := by
  cases b <;> rfl

@[simp]
theorem push_closing_self (stack : Openings) (b : Bracket) :
    push (b :: stack) b.closing = some stack := by
  cases b <;> rfl

theorem push_other (stack : Openings) (c : Char) (hopen : Bracket.opened? c = none)
    (hclose : Bracket.closed? c = none) : push stack c = some stack := by
  simp [push, hopen, hclose]

end Formula

end TableClient
