import TableClient.Log.Level
import TableClient.Log.Pattern
import TableClient.Text.Bytes
import TableClient.Text.Split

/-!
# Directives of the Log

What a directive says about how much is shown.

A directive sets a limit for the targets that start with a given text, or for
all. In brackets it can name a span and a field, with a pattern for the value
of the field. A directive with a span or a field is for what happens within
such spans; one that names a field without a value and no span is also for
events that have the field. The limit stands behind an equals sign, and
without one everything is shown. A directive without brackets may also be a
limit alone.

Blanks around a directive do not count when its parts are told apart, but they
do when the parts are cut out: these are taken from the places they would
have without the blanks.

## Main definitions

* `FieldValue`, `Field`: What a directive asks of a field.
* `Directive`: A limit and what it is for.
* `Directive.ofText?`: The directive a text spells.
-/

namespace TableClient

namespace Log

/-- What the value of a field has to be. -/
inductive FieldValue where
  /-- A truth value or a number, which no text is. -/
  | noText
  /-- A text that matches a pattern. -/
  | like (source : String) (pattern : Pattern)
deriving DecidableEq, Repr

/-- A field with the value it has to have, if any. -/
structure Field where
  name : String
  value : Option FieldValue
deriving DecidableEq, Repr

/-- How much is shown, and of what. -/
structure Directive where
  target : Option String
  span : Option String
  field : Option Field
  limit : Limit
deriving DecidableEq, Repr

namespace FieldValue

/-- Whether a text spells a number, with a point or an exponent or not. -/
def isNumber (text : List Char) : Bool :=
  let isSign (c : Char) : Bool := c == '+' || c == '-'
  let dropSign (text : List Char) := if text.head?.any isSign then text.drop 1 else text
  let text := dropSign text
  let word := String.ofList (text.map Char.toLower)
  let whole := text.takeWhile Char.isDigit
  let rest := text.dropWhile Char.isDigit
  let (decimals, rest) := match rest with
    | '.' :: rest => (rest.takeWhile Char.isDigit, rest.dropWhile Char.isDigit)
    | rest => ([], rest)
  let endsWell := match rest with
    | [] => true
    | mark :: digits =>
      (mark == 'e' || mark == 'E')
        && !(dropSign digits).isEmpty && (dropSign digits).all Char.isDigit
  ["inf", "infinity", "nan"].contains word
    || (!(whole.isEmpty && decimals.isEmpty) && endsWell)

/-- The value a text asks for. -/
def ofText? (text : String) : Option FieldValue :=
  if text == "true" || text == "false" || isNumber text.toList then some .noText
  else (Pattern.ofText? text).map (.like text)

/-- Whether a text is such a value. -/
def allows : FieldValue → String → Bool
  | .noText, _ => false
  | .like _ pattern, text => pattern.accepts text

end FieldValue

/-- The field a text asks for, with a value behind an equals sign. -/
def Field.ofText? (text : String) : Option Field :=
  match (Text.split (· == '=') text.toList).map String.ofList with
  | name :: value :: _ => (FieldValue.ofText? value).map fun value => ⟨name, some value⟩
  | _ => if text.isEmpty then none else some ⟨text, none⟩

namespace Directive

/-- Whether a directive without brackets can start with a character. -/
def isStart (c : Char) : Bool :=
  Text.isAlphanumeric c || c == '-' || c == ':' || c == '_'

/-- The limit behind an equals sign. -/
def limitOf? (text : String) : Option Limit :=
  if text.isEmpty then some Level.trace.rank else limit? text

/-- The directive of a text without brackets and without an equals sign. -/
def ofWord (text : String) : Directive :=
  match limit? text with
  | some limit => ⟨none, none, none, limit⟩
  | none => ⟨some text, none, none, Level.trace.rank⟩

/-- The size of a text in bytes. -/
def size (text : List Char) : Nat :=
  (Text.utf8 text).length

/-- The directive whose parts stand at certain places. The text is the one
    with blanks; the places are those of the same text without them. -/
structure Cut where
  bytes : List UInt8

/-- The part between two places, if characters start there. -/
def Cut.part? (cut : Cut) (first last : Nat) : Option String :=
  Text.ofUtf8? ((cut.bytes.take last).drop first)

/-- The part from a place on. -/
def Cut.rest? (cut : Cut) (first : Nat) : Option String :=
  Text.ofUtf8? (cut.bytes.drop first)

/-- The limit of what follows the brackets, which starts at a place. -/
def limitBehind? (cut : Cut) (place : Nat) : List Char → Option Limit
  | [] => some Level.trace.rank
  | '=' :: _ => do limitOf? (← cut.rest? (place + 1))
  | _ => none

/-- The directive of a target and of what follows its opening bracket, which
    starts at a place. -/
def ofBrackets? (cut : Cut) (target : Option String) (place : Nat) (text : List Char) :
    Option Directive := do
  let span := text.takeWhile fun c => c != ']' && c != '\x7b'
  let stop := place + size span
  let name ← cut.part? place stop
  match text.drop span.length with
  | ']' :: rest =>
    let limit ← limitBehind? cut (stop + 1) rest
    some ⟨target, some name, none, limit⟩
  | _ :: rest =>
    let inner := rest.takeWhile (· != '\x7d')
    let last := stop + 1 + size inner
    let field ← Field.ofText? (← cut.part? (stop + 1) last)
    match rest.drop inner.length with
    | _ :: ']' :: rest =>
      let limit ← limitBehind? cut (last + 2) rest
      some ⟨target, if span.isEmpty then none else some name, some field, limit⟩
    | _ => none
  | [] => none

/-- The directive a text spells. -/
def ofText? (text : String) : Option Directive := do
  let cut : Cut := ⟨Text.utf8 text.toList⟩
  match (Text.trim text).toList with
  | [] => none
  | '[' :: rest => ofBrackets? cut none 1 rest
  | first :: rest =>
    if !isStart first then none
    let word := (first :: rest).takeWhile fun c => c != '=' && c != '['
    let place := size word
    match (first :: rest).drop word.length with
    | [] => some (ofWord text)
    | '=' :: _ =>
      let limit ← limitOf? (← cut.rest? (place + 1))
      some ⟨← cut.part? 0 place, none, none, limit⟩
    | _ :: rest => ofBrackets? cut (← cut.part? 0 place) (place + 1) rest

end Directive

end Log

end TableClient
