import TableClient.Text.Bytes
import TableClient.Text.Hex

/-!
# Percent-Encoding

Texts made fit for a place inside an address.

A byte that has to be hidden is written as a percent sign and its two
hexadecimal digits in upper case. Which bytes may stand as they are depends
on the place; `encode` is for a single segment and keeps the unreserved
characters only: letters, digits, and `-`, `_`, `.` and `~`.

## Main definitions

* `escapeByte`: A byte as a percent sign and two digits.
* `encodeWith`: A text with all bytes escaped but those to be kept.
* `isUnreserved`: The bytes that mean themselves everywhere.
* `encode`: A text as a single segment.
* `decodeBytes`: A text with its escapes undone.
-/

namespace TableClient

namespace Url

/-- A byte as a percent sign and two hexadecimal digits. -/
def escapeByte (b : UInt8) : List Char :=
  ['%', Text.hexDigitUpper (b.toNat / 16), Text.hexDigitUpper (b.toNat % 16)]

/-- Bytes with all of them escaped but those to be kept. -/
def encodeWith (kept : UInt8 → Bool) (bytes : List UInt8) : List Char :=
  bytes.flatMap fun b => if kept b then [Char.ofNat b.toNat] else escapeByte b

/-- The bytes of the unreserved characters: letters, digits and four
    marks. -/
def isUnreserved (b : UInt8) : Bool :=
  let c := Char.ofNat b.toNat
  c.isAlphanum || c == '-' || c == '_' || c == '.' || c == '~'

/-- A text as a single segment of an address. -/
def encode (text : String) : String :=
  .ofList (encodeWith isUnreserved (Text.utf8 text.toList))

/-- The bytes of a text with its escapes undone; a percent sign without two
    digits behind it stands for itself. -/
def decodeBytes : List Char → List UInt8
  | [] => []
  | '%' :: high :: low :: rest =>
    match Text.hexValue? high, Text.hexValue? low with
    | some h, some l => UInt8.ofNat (16 * h + l) :: decodeBytes rest
    | _, _ => 0x25 :: decodeBytes (high :: low :: rest)
  | c :: rest => String.utf8EncodeChar c ++ decodeBytes rest

end Url

end TableClient
