import TableClient.Text.Hex
import TableClient.Text.Printable

/-!
# Quoted Text in Messages

A text as messages show it: between quotes, on one line, with nothing in it
that could be mistaken or overlooked.

The quote, the backslash, the line breaks, the tabulator and the null
character have a short escape. Any other character without a glyph of its own
is written as its code point in hexadecimal digits, without leading zeros,
between braces. Everything else stands as it is.

## Main definitions

* `codePoint`: The escape of a character by its code point.
* `shown`: One character inside the quotes.
* `quoted`: A text with its quotes.
-/

namespace TableClient

namespace Text

/-- A character escaped as its code point. -/
def codePoint (c : Char) : List Char :=
  ['\\', 'u', '\x7b'] ++ Nat.toDigits 16 c.toNat ++ ['\x7d']

/-- One character as it stands inside the quotes. -/
def shown (c : Char) : List Char :=
  match c with
  | '\x00' => ['\\', '0']
  | '\x09' => ['\\', 't']
  | '\x0a' => ['\\', 'n']
  | '\x0d' => ['\\', 'r']
  | '"' => ['\\', '"']
  | '\\' => ['\\', '\\']
  | c => if isPrintable c then [c] else codePoint c

/-- A text between quotes. -/
def quoted (text : String) : String :=
  .ofList ('"' :: text.toList.flatMap shown ++ ['"'])

end Text

end TableClient
