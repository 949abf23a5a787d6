import TableClient.Url.Domain.Basic
import TableClient.Url.Path

/-!
# Hosts of Addresses

Reading and writing the host of an address.

A host in brackets is an address of eight pieces, one run of zero pieces
being left out at will. Any other host of a web address is a name, which is
kept in its form in ASCII, unless its last label is a number: then all of it
is an address of four bytes, which may be given in fewer parts and in base
eight, ten or sixteen.

## Main definitions

* `Host`: A host.
* `Host.ofName?`: The host a web address names.
* `Host.text`: The text of a host.
-/

namespace TableClient

namespace Url

/-- A host. -/
inductive Host where
  | name (text : List Char)
  | four (address : Nat)
  | eight (pieces : List Nat)
deriving DecidableEq, Repr

namespace Host

/-! ### Addresses of four bytes -/

/-- The number that digits spell in a base up to sixteen. -/
def numberOf? (base : Nat) (digits : List Char) : Option Nat :=
  digits.foldlM
    (fun n c => do
      let d ← Text.hexValue? c
      if d < base then some (n * base + d) else none)
    0

/-- The number of one part of an address; the base shows in front. -/
def partOf? : List Char → Option Nat
  | [] => none
  | '0' :: 'x' :: digits => numberOf? 16 digits
  | '0' :: 'X' :: digits => numberOf? 16 digits
  | '0' :: digits => numberOf? 8 digits
  | digits => numberOf? 10 digits

/-- The labels of a name; a dot at its end opens no further label. -/
def labels (name : List Char) : List (List Char) :=
  let parts := Text.split (· == '.') name
  if 1 < parts.length && parts.getLast? == some [] then parts.dropLast else parts

/-- Whether a name has to be an address because its last label is a
    number. -/
def endsInNumber (name : List Char) : Bool :=
  match (labels name).getLast? with
  | none => false
  | some label =>
    (label.all Char.isDigit && !label.isEmpty) || (partOf? label).isSome

/-- The address that the numbers of its parts make: each but the last is one
    byte, and the last one fills what remains. -/
def joinParts? : Nat → List Nat → Option Nat
  | _, [] => none
  | bytes, [last] => if last < Nat.pow 256 bytes then some last else none
  | 0, _ :: _ :: _ => none
  | bytes + 1, first :: rest =>
    if first < 256 then (joinParts? bytes rest).map (first * Nat.pow 256 bytes + ·) else none

/-- The address of four bytes a name spells. -/
def fourOf? (name : List Char) : Option Nat := do
  let parts ← (labels name).mapM partOf?
  joinParts? 4 parts

/-- The text of an address of four bytes. -/
def fourText (address : Nat) : List Char :=
  [address / Nat.pow 256 3, address / Nat.pow 256 2 % 256, address / 256 % 256, address % 256].map
    (Nat.toDigits 10) |> List.intercalate ['.']

/-! ### Addresses of eight pieces -/

/-- The pieces that groups parted by colons spell. The last group may be an
    address of four bytes, which makes two pieces. -/
def piecesOf? : List (List Char) → Option (List Nat)
  | [] => some []
  | [group] =>
    if group.contains '.' then do
      let bytes ← (Text.split (· == '.') group).mapM byteOf?
      match bytes with
      | [a, b, c, d] => some [a * 256 + b, c * 256 + d]
      | _ => none
    else do
      let piece ← pieceOf? group
      some [piece]
  | group :: rest => do
    let piece ← pieceOf? group
    let pieces ← piecesOf? rest
    some (piece :: pieces)
where
  /-- The piece of one to four hexadecimal digits. -/
  pieceOf? (group : List Char) : Option Nat :=
    if group.isEmpty || 4 < group.length then none else numberOf? 16 group
  /-- The byte of decimal digits without a zero in front. -/
  byteOf? (digits : List Char) : Option Nat :=
    if digits.isEmpty || 3 < digits.length || (digits.head? == some '0' && digits != ['0']) then
      none
    else (numberOf? 10 digits).filter (· < 256)

/-- A text cut at its first pair of colons. -/
def cutAtPair : List Char → Option (List Char × List Char)
  | ':' :: ':' :: rest => some ([], rest)
  | c :: rest => (cutAtPair rest).map fun (before, behind) => (c :: before, behind)
  | [] => none

/-- The groups of a text parted by colons; the empty text has none. -/
def groups (text : List Char) : List (List Char) :=
  if text.isEmpty then [] else Text.split (· == ':') text

/-- The eight pieces a text spells. -/
def eightOf? (text : List Char) : Option (List Nat) :=
  match cutAtPair text with
  | none => (piecesOf? (groups text)).filter (·.length == 8)
  | some (before, behind) => do
    let front ← piecesOf? (groups before)
    let back ← piecesOf? (groups behind)
    if before.contains '.' || 7 < front.length + back.length then none
    else some (front ++ List.replicate (8 - front.length - back.length) 0 ++ back)

/-- The number of zeros in front of some pieces. -/
def zeroRun (pieces : List Nat) : Nat :=
  (pieces.takeWhile (· == 0)).length

/-- The length of the longest run of zeros in some pieces. -/
def longestRun : List Nat → Nat
  | [] => 0
  | piece :: rest => max (zeroRun (piece :: rest)) (longestRun rest)

/-- Pieces in hexadecimal digits, parted by colons. -/
def piecesText (pieces : List Nat) : List Char :=
  List.intercalate [':'] (pieces.map (Nat.toDigits 16))

/-- The text of eight pieces, the first of the longest runs of zeros left out
    if it is longer than one. -/
def eightText (pieces : List Nat) : List Char :=
  let run := longestRun pieces
  if run < 2 then piecesText pieces
  else
    let start := ((List.range 8).find? fun i => zeroRun (pieces.drop i) == run).getD 0
    piecesText (pieces.take start) ++ [':', ':'] ++ piecesText (pieces.drop (start + run))

/-! ### Hosts -/

/-- The characters that no name of a host may hold. -/
def isForbidden (c : Char) : Bool :=
  c.toNat < 0x20 || c.toNat == 0x7F || " #/:<>?@[\\]^|".toList.contains c

/-- The host in brackets, without them. -/
def ofBrackets? (text : List Char) : Option Host :=
  if text.getLast? == some ']' then (eightOf? text.dropLast).map .eight else none

/-- The host a web address names. -/
def ofName? (text : List Char) : Option Host :=
  match text with
  | '[' :: rest => ofBrackets? rest
  | text => do
    let name ← Text.ofUtf8? (decodeBytes text)
    let name ← Domain.ascii? name.toList
    if name.isEmpty || name.any (fun c => isForbidden c || c == '%') then none
    else if endsInNumber name then (fourOf? name).map .four
    else some (.name name)

/-- The host of an address of another kind; its name has no rules of its
    own. -/
def ofText? (text : List Char) : Option Host :=
  match text with
  | '[' :: rest => ofBrackets? rest
  | text =>
    if text.any fun c => isForbidden c && c.toNat != 0x7F && !(0 < c.toNat && c.toNat < 0x20) then
      none
    else some (.name (encodeWith isPlainByte (Text.utf8 text)))

/-- The text of a host. -/
def text : Host → List Char
  | .name text => text
  | .four address => fourText address
  | .eight pieces => '[' :: eightText pieces ++ [']']

end Host

end Url

end TableClient
