import TableClient.Json.Lexical

/-!
# Reading JSON

A text as a value.

The reader of the items of an array and the reader of the members of an object
are given the reader of what they hold, so that a value is read by recursion
on the number of levels that may still be opened. A value may nest arrays and
objects 127 levels deep.

The loops over items and members are bounded by the text in front of them, as
the loop over the characters of a string is.

## Main definitions

* `nextItem`: The front of an item, or the end of an array.
* `nextKey`: The key of a member, or the end of an object.
* `items`: The items of an array.
* `members`: The members of an object, folded into a state.
* `value`: A value with a bound on its nesting.
* `Reader.run`: A reader on a whole text.
* `parse`: The value a text spells.
-/

namespace TableClient

namespace Json

/-- The number of levels of arrays and objects a value may have. -/
def maxDepth : Nat := 127

/-- The front of the next item of an array, or `false` behind its closing
    bracket. A comma stands in front of every item but the first. -/
def nextItem (first : Bool) : Reader Bool := fun text =>
  match skipBlanks text with
  | [] => .error (.behind .endInArray [])
  | ']' :: rest => .ok (false, rest)
  | ',' :: rest =>
    if first then .ok (true, ',' :: rest)
    else
      match skipBlanks rest with
      | [] => .error (.behind .endInValue [])
      | ']' :: rest => .error (.behind .trailingComma (']' :: rest))
      | rest => .ok (true, rest)
  | rest => if first then .ok (true, rest) else .error (.behind .expectedArrayEnd rest)

/-- The key of the next member of an object, or `none` behind its closing
    brace. A comma stands in front of every key but the first. -/
def nextKey (first : Bool) : Reader (Option String) := fun text =>
  match skipBlanks text with
  | [] => .error (.behind .endInObject [])
  | '\x7d' :: rest => .ok (none, rest)
  | ',' :: rest =>
    if first then .error (.behind .keyNotString (',' :: rest))
    else
      match skipBlanks rest with
      | [] => .error (.behind .endInValue [])
      | '\x7d' :: rest => .error (.behind .trailingComma ('\x7d' :: rest))
      | '"' :: rest => do
        let (key, rest) ← string rest
        .ok (some key, rest)
      | rest => .error (.behind .keyNotString rest)
  | '"' :: rest =>
    if first then do
      let (key, rest) ← string rest
      .ok (some key, rest)
    else .error (.behind .expectedObjectEnd ('"' :: rest))
  | rest => .error (.behind (if first then .keyNotString else .expectedObjectEnd) rest)

/-- Reads the colon between a key and its value. -/
def colon (text : List Char) : Except Failure (List Char) :=
  match skipBlanks text with
  | [] => .error (.behind .endInObject [])
  | ':' :: rest => .ok rest
  | rest => .error (.behind .expectedColon rest)

/-- Reads the items of an array up to its closing bracket, in at most as many
    rounds as the bound is long. -/
def items {α : Type} (item : Reader α) : List Char → Bool → Reader (List α)
  | [], _, text => .error (.behind .endInArray text)
  | _ :: bound, first, text => do
    let (more, rest) ← nextItem first text
    if more then
      let (x, rest) ← item rest
      let (xs, rest) ← items item bound false rest
      .ok (x :: xs, rest)
    else .ok ([], rest)

/-- Reads the members of an object up to its closing brace, in at most as many
    rounds as the bound is long. `entry` reads what follows a key and says what
    it does to the state. -/
def members {σ : Type} (entry : σ → String → Reader σ) :
    List Char → Bool → σ → Reader σ
  | [], _, _, text => .error (.behind .endInObject text)
  | _ :: bound, first, state, text => do
    match ← nextKey first text with
    | (none, rest) => .ok (state, rest)
    | (some key, rest) =>
      let (state, rest) ← entry state key rest
      members entry bound false state rest

/-- Reads an array behind its opening bracket. -/
def array (item : Reader Json) : Reader Json := fun text => do
  let (values, rest) ← items item text true text
  .ok (.arr values, rest)

/-- Reads the value of a member and puts it in its place. -/
def member (item : Reader Json) (entries : List (String × Json)) (key : String) :
    Reader (List (String × Json)) := fun text => do
  let rest ← colon text
  let (value, rest) ← item rest
  .ok (Dictionary.insert key value entries, rest)

/-- Reads an object behind its opening brace. -/
def objectOf (item : Reader Json) : Reader Json := fun text => do
  let (entries, rest) ← members (member item) text true [] text
  .ok (.obj entries, rest)

/-- Refuses an array or an object behind its bracket. -/
def tooDeep : Reader Json := fun rest =>
  .error (.before .tooDeep rest)

/-- Reads a value that is neither array nor object, with no blanks in
    front. -/
def scalar : Reader Json
  | [] => .error (.behind .endInValue [])
  | 'n' :: rest => do
    let rest ← word "ull".toList rest
    .ok (.null, rest)
  | 't' :: rest => do
    let rest ← word "rue".toList rest
    .ok (.bool true, rest)
  | 'f' :: rest => do
    let rest ← word "alse".toList rest
    .ok (.bool false, rest)
  | '"' :: rest => do
    let (text, rest) ← string rest
    .ok (.str text, rest)
  | c :: rest =>
    if c == '-' || c.isDigit then do
      let (value, rest) ← number (c :: rest)
      .ok (.num value, rest)
    else .error (.behind .expectedValue (c :: rest))

/-- Reads a value, its blanks in front as well; arrays and objects are read
    as given. -/
def node (array object : Reader Json) : Reader Json := fun text =>
  match skipBlanks text with
  | '[' :: rest => array rest
  | '\x7b' :: rest => object rest
  | rest => scalar rest

/-- Reads a value that nests arrays and objects at most so deep. -/
def value : Nat → Reader Json
  | 0 => node tooDeep tooDeep
  | depth + 1 => node (array (value depth)) (objectOf (value depth))

/-- A failure in a text as an error with its place. -/
def Failure.locate (text : String) (failure : Failure) : Error :=
  ⟨failure.fault, some (Position.behind text (text.utf8ByteSize - failure.unread))⟩

/-- Refuses anything but blanks behind a value. -/
def finish {α : Type} (value : α) (rest : List Char) : Except Failure α :=
  match skipBlanks rest with
  | [] => .ok value
  | rest => .error (.behind .trailingCharacters rest)

/-- Reads a whole text. -/
def Reader.run {α : Type} (reader : Reader α) (text : String) : Except Error α :=
  match (do let (value, rest) ← reader text.toList; finish value rest) with
  | .ok value => .ok value
  | .error failure => .error (failure.locate text)

/-- The value a text spells. -/
def parse (text : String) : Except Error Json :=
  (value maxDepth).run text

/-! ### Values of a type asked for -/

/-- Refuses the value in front of a text because it is not what was asked
    for. A scalar is read first, the bracket of an array or an object is
    not. -/
def refuse {α : Type} (wanted : Wanted) : Reader α
  | '[' :: rest => .error (.before (.wrongType .arr wanted) ('[' :: rest))
  | '\x7b' :: rest => .error (.before (.wrongType .obj wanted) ('\x7b' :: rest))
  | text => do
    let (value, rest) ← scalar text
    .error (.before (.wrongType (.ofJson value) wanted) rest)

/-- Reads a value that has to be a string. -/
def stringValue : Reader String := fun text =>
  match skipBlanks text with
  | '"' :: rest => string rest
  | rest => refuse .string rest

/-- Reads a value, or `none` from a null. -/
def optional {α : Type} (reader : Reader α) : Reader (Option α) := fun text =>
  match skipBlanks text with
  | 'n' :: rest => do
    let rest ← word "ull".toList rest
    .ok (none, rest)
  | rest => do
    let (value, rest) ← reader rest
    .ok (some value, rest)

end Json

end TableClient
