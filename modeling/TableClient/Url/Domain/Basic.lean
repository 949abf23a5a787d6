import TableClient.Text.Composition
import TableClient.Url.Domain.Direction
import TableClient.Url.Domain.Joiner
import TableClient.Url.Domain.Mapping
import TableClient.Url.Punycode

/-!
# Names of Hosts

Names in any script, and their form in ASCII.

A name is a row of labels with dots between them. It is first brought to the
form in which names are compared. A label with characters outside ASCII is
then written in Punycode behind the sign `xn--`; a label that has the sign
already has to be the Punycode of a label in that form. No label starts with
a mark, joiners stand where they can, and all labels together agree about the
direction of writing.

## Main definitions

* `Label`: A label as it is read and as it is written.
* `Label.ofText?`: The label a text spells.
* `ascii?`: The form of a name in ASCII.
-/

namespace TableClient

namespace Url

namespace Domain

/-- The form in which names are compared: every character gives way to what it
    stands for, and letters are composed with their marks. -/
def normal? (text : List Char) : Option (List Char) :=
  (text.mapM standsFor?).map fun pieces => Text.composed pieces.flatten

/-- A label. -/
structure Label where
  /-- The characters that are meant. -/
  letters : List Char
  /-- The characters in ASCII that are written for them. -/
  written : List Char
deriving DecidableEq, Repr

namespace Label

/-- Whether all characters are those of ASCII. -/
def isAscii (text : List Char) : Bool :=
  text.all fun c => c.toNat < 0x80

/-- The most characters that a label in Punycode can have behind its sign. -/
def maxCode : Nat := 2000

/-- The most characters that a label in another script can have. -/
def maxLetters : Nat := 1000

/-- The characters that are meant by Punycode. A hyphen at its end would say
    that there are none outside ASCII. -/
def lettersOf? (code : List Char) : Option (List Char) := do
  if code.isEmpty || code.getLast? == some '-' || maxCode < code.length then none
  let letters ← Punycode.decode? code
  if normal? letters == some letters then some letters else none

/-- Whether characters can make a label. -/
def isSound (letters : List Char) : Bool :=
  isAscii letters
    || (letters.head?.all (!Text.isMark ·) && joinersFit letters && letters.length ≤ maxLetters)

/-- The label that a text in normal form spells. -/
def ofText? (text : List Char) : Option Label := do
  let label ← match text with
    | 'x' :: 'n' :: '-' :: '-' :: code =>
      (lettersOf? code).map fun letters => ⟨letters, text⟩
    | text =>
      if isAscii text then some ⟨text, text⟩
      else some ⟨text, 'x' :: 'n' :: '-' :: '-' :: Punycode.encode text⟩
  if isSound label.letters then some label else none

end Label

/-- The form of a name in ASCII. -/
def ascii? (text : List Char) : Option (List Char) := do
  let name ← normal? text
  let labels ← (Text.split (· == '.') name).mapM Label.ofText?
  if Direction.agree (labels.map Label.letters) then
    some (List.intercalate ['.'] (labels.map Label.written))
  else none

end Domain

end Url

end TableClient
