import TableClient.Json.Basic
import TableClient.Number.Shortest
import TableClient.Text.Hex

/-!
# Writing JSON

The text of a value, on one line or spread over several.

In a string, the quote, the backslash and the control characters below the
blank are escaped; everything else stands as it is, the characters outside
ASCII as well. The five control characters with a letter of their own use it,
the others are written as four hexadecimal digits.

The spread form puts every item and every member on a line of its own, two
blanks further in than the bracket around it. An empty array or object keeps
its two brackets together.

## Main definitions

* `escaped`: One character inside a string.
* `quoted`: A string with its quotes.
* `compactChars`: The characters of a value on one line.
* `compact`: The text of a value on one line.
* `prettyChars`: The characters of a value over several lines.
* `pretty`: The text of a value over several lines.
-/

namespace TableClient

namespace Json

/-- The characters one character of a string is written with. -/
def escaped (c : Char) : List Char :=
  match c with
  | '"' => ['\\', '"']
  | '\\' => ['\\', '\\']
  | '\x08' => ['\\', 'b']
  | '\x09' => ['\\', 't']
  | '\x0a' => ['\\', 'n']
  | '\x0c' => ['\\', 'f']
  | '\x0d' => ['\\', 'r']
  | c =>
    if c.toNat < 0x20 then
      ['\\', 'u', '0', '0', Text.hexDigit (c.toNat / 16), Text.hexDigit (c.toNat % 16)]
    else [c]

/-- The characters of a string, quotes included. -/
def quoted (text : String) : List Char :=
  '"' :: text.toList.flatMap escaped ++ ['"']

/-- The text of a number. -/
def Number.text : Number → String
  | .int value => toString value
  | .real value => value.text

/-- The text of a truth value. -/
def boolText : Bool → String
  | true => "true"
  | false => "false"

mutual

/-- The characters of a value on one line. -/
def compactChars : Json → List Char
  | .null => "null".toList
  | .bool value => (boolText value).toList
  | .num value => value.text.toList
  | .str value => quoted value
  | .arr items => '[' :: compactItems items ++ [']']
  | .obj members => '\x7b' :: compactMembers members ++ ['\x7d']

/-- The characters of items, parted by commas. -/
def compactItems : List Json → List Char
  | [] => []
  | item :: rest => compactChars item ++ compactItemsTail rest

/-- The characters of further items, each after a comma. -/
def compactItemsTail : List Json → List Char
  | [] => []
  | item :: rest => ',' :: compactChars item ++ compactItemsTail rest

/-- The characters of members, parted by commas. -/
def compactMembers : List (String × Json) → List Char
  | [] => []
  | (key, value) :: rest => quoted key ++ ':' :: compactChars value ++ compactMembersTail rest

/-- The characters of further members, each after a comma. -/
def compactMembersTail : List (String × Json) → List Char
  | [] => []
  | (key, value) :: rest =>
    ',' :: quoted key ++ ':' :: compactChars value ++ compactMembersTail rest

end

/-- The text of a value on one line. -/
def compact (value : Json) : String :=
  .ofList value.compactChars

/-- The start of a line, two blanks further in for each level. -/
def newline (level : Nat) : List Char :=
  '\n' :: List.replicate (2 * level) ' '

mutual

/-- The characters of a value over several lines, the first of them starting
    at the given level. -/
def prettyChars (level : Nat) : Json → List Char
  | .arr [] => ['[', ']']
  | .arr (item :: rest) =>
    '[' :: newline (level + 1) ++ prettyChars (level + 1) item
      ++ prettyItemsTail (level + 1) rest ++ newline level ++ [']']
  | .obj [] => ['\x7b', '\x7d']
  | .obj ((key, value) :: rest) =>
    '\x7b' :: newline (level + 1) ++ quoted key ++ ':' :: ' ' :: prettyChars (level + 1) value
      ++ prettyMembersTail (level + 1) rest ++ newline level ++ ['\x7d']
  | .null => "null".toList
  | .bool value => (boolText value).toList
  | .num value => value.text.toList
  | .str value => quoted value

/-- The characters of further items, each on a line of its own. -/
def prettyItemsTail (level : Nat) : List Json → List Char
  | [] => []
  | item :: rest =>
    ',' :: newline level ++ prettyChars level item ++ prettyItemsTail level rest

/-- The characters of further members, each on a line of its own. -/
def prettyMembersTail (level : Nat) : List (String × Json) → List Char
  | [] => []
  | (key, value) :: rest =>
    ',' :: newline level ++ quoted key ++ ':' :: ' ' :: prettyChars level value
      ++ prettyMembersTail level rest

end

/-- The text of a value over several lines. -/
def pretty (value : Json) : String :=
  .ofList (value.prettyChars 0)

end Json

end TableClient
