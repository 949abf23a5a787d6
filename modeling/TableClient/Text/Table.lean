import TableClient.Text.Hex
import TableClient.Text.Split

/-!
# Tables of Characters

Properties of characters that no rule gives, as tables in a short form.

A table is some lines of words, parted by blanks, in which code points are
given in hexadecimal digits. In a table of ranges a word is the first and the
last character of a range with a hyphen between them, or a single character.
In a table of rows a line names a character, and the words behind it are the
texts that belong to this character and to those that follow it, each text
with a plus sign between its characters.

## Main definitions

* `Ranges`: A set of characters, as ranges of code points.
* `Ranges.ofLines`, `Ranges.has`: The set of a table, and membership in it.
* `Rows`: Texts that belong to characters.
* `Rows.ofLines`, `Rows.text?`: The texts of a table, and that of a character.
-/

namespace TableClient

namespace Text

/-- The number that hexadecimal digits spell. -/
def hexNumber (digits : List Char) : Nat :=
  digits.foldl (fun n c => 16 * n + (hexValue? c).getD 0) 0

/-- The words of a line. -/
def words (line : String) : List (List Char) :=
  split (· == ' ') line.toList

/-- A set of characters, as ranges of code points with both ends in them. -/
abbrev Ranges :=
  List (Nat × Nat)

namespace Ranges

/-- The range of a word. -/
def ofWord (word : List Char) : Nat × Nat :=
  match split (· == '-') word with
  | [first, last] => (hexNumber first, hexNumber last)
  | _ => (hexNumber word, hexNumber word)

/-- The set of a table of ranges. -/
def ofLines (lines : List String) : Ranges :=
  lines.flatMap fun line => (words line).map ofWord

/-- Membership of a character. -/
def has (ranges : Ranges) (c : Char) : Bool :=
  ranges.any fun (first, last) => first ≤ c.toNat && c.toNat ≤ last

end Ranges

/-- Texts that belong to characters: the code point of the first character of
    a row, and the texts of the row. -/
abbrev Rows :=
  List (Nat × List (List Char))

namespace Rows

/-- The text of a word. -/
def textOf (word : List Char) : List Char :=
  (split (· == '+') word).map fun digits => Char.ofNat (hexNumber digits)

/-- The texts of a table of rows. -/
def ofLines (lines : List String) : Rows :=
  lines.filterMap fun line =>
    match words line with
    | [] => none
    | first :: texts => some (hexNumber first, texts.map textOf)

/-- The text that belongs to a character. -/
def text? (rows : Rows) (c : Char) : Option (List Char) :=
  rows.findSome? fun (first, texts) =>
    if first ≤ c.toNat then texts[c.toNat - first]? else none

end Rows

end Text

end TableClient
