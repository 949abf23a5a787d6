import TableClient.Text.Split
import TableClient.Url.Percent

/-!
# Paths of Addresses

The path of an address as its segments, with the dot segments worked out.

A segment of one dot stands for the place it is in and a segment of two dots
for the place above; a dot may be given by its escape. Both disappear when an
address is read: the first without effect, the second together with the
segment before it. At the end of a path they leave an empty segment behind.

A letter with a colon or a bar names a drive. There is no place above a
drive, so two dots leave it where it is. Line breaks inside an address do not
count, but for one: a break behind a drive at the start of a path ends the
segment of the drive, and what follows makes a segment as it stands.

## Main definitions

* `isDot`, `isDoubleDot`: The dot segments.
* `startsWithDrive`: The segments that two dots leave where they are.
* `unbroken`, `brokenAtDrives`: Texts without line breaks, or with those only
  that a drive may end at.
* `removeDots`: Segments without dot segments.
* `Path`: A path, in segments or as a plain text.

## Theorems

* `Path.text_nil`, `Path.text_cons`: The text of a path, segment by segment.
-/

namespace TableClient

namespace Url

/-- A segment with the escaped dots written as dots. -/
def plainDots : List Char → List Char
  | '%' :: '2' :: 'e' :: rest => '.' :: plainDots rest
  | '%' :: '2' :: 'E' :: rest => '.' :: plainDots rest
  | c :: rest => c :: plainDots rest
  | [] => []

/-- A segment that stands for the place it is in. -/
def isDot (segment : List Char) : Bool :=
  plainDots segment == ['.']

/-- A segment that stands for the place above. -/
def isDoubleDot (segment : List Char) : Bool :=
  plainDots segment == ['.', '.']

/-- A letter with a colon or a bar, alone or in front of a backslash or a
    break. -/
def startsWithDrive : List Char → Bool
  | letter :: mark :: rest =>
    letter.isAlpha && (mark == ':' || mark == '|')
      && rest.head?.all fun c => c == '\\' || c == '\n'
  | _ => false

/-- The segments of the place above that of some segments, of which the last
    one comes first. -/
def above : List (List Char) → List (List Char)
  | [] => []
  | last :: rest => if startsWithDrive last then last :: rest else rest

/-- The tabulator and the characters that end a line. -/
def isBreak (c : Char) : Bool :=
  c == '\t' || c == '\n' || c == '\r'

/-- A text without its breaks. -/
def unbroken (text : List Char) : List Char :=
  text.filter fun c => !isBreak c

/-- A text with a single break wherever there are some right behind a colon,
    and without breaks elsewhere. -/
def brokenAtDrives (behindColon : Bool) : List Char → List Char
  | [] => []
  | c :: rest =>
    if isBreak c then
      if behindColon then '\n' :: brokenAtDrives false rest else brokenAtDrives false rest
    else c :: brokenAtDrives (c == ':') rest

/-- The segments that a break behind a drive makes of one, the last one
    first. The drive keeps the break, which tells it from a drive that is a
    segment of its own. -/
def brokenDrive? : List Char → Option (List (List Char))
  | letter :: ':' :: '\n' :: behind =>
    if letter.isAlpha && !behind.isEmpty then some [unbroken behind, [letter, ':', '\n']] else none
  | _ => none

/-- Segments without dot segments, behind the segments kept so far, of which
    the last one comes first. -/
def removeDotsFrom (kept : List (List Char)) : List (List Char) → List (List Char)
  | [] => kept.reverse
  | segment :: rest =>
    let close (kept : List (List Char)) := if rest.isEmpty then [] :: kept else kept
    if isDoubleDot segment then removeDotsFrom (close (above kept)) rest
    else if isDot segment then removeDotsFrom (close kept) rest
    else
      let drive? := if kept.isEmpty then brokenDrive? segment else none
      removeDotsFrom (drive?.getD (unbroken segment :: kept)) rest

/-- Segments without dot segments. -/
def removeDots (segments : List (List Char)) : List (List Char) :=
  removeDotsFrom [] segments

/-- The bytes that are neither control characters nor outside ASCII. -/
def isPlainByte (b : UInt8) : Bool :=
  0x20 ≤ b && b < 0x7F

/-- Bytes that are plain and not among the given characters. -/
def plainExcept (marks : String) (b : UInt8) : Bool :=
  isPlainByte b && !marks.toList.contains (Char.ofNat b.toNat)

/-- A text with everything escaped that cannot stand in a segment. -/
def encodeSegment (segment : List Char) : List Char :=
  encodeWith (plainExcept " \"<>`#?\x7b\x7d") (Text.utf8 segment)

/-- The path of an address. -/
inductive Path where
  /-- Segments, each behind a slash. -/
  | segments (segments : List (List Char))
  /-- A text without structure. -/
  | plain (text : List Char)
deriving DecidableEq, Repr

/-- The text of a path. -/
def Path.text : Path → List Char
  | .segments pieces => pieces.flatMap ('/' :: ·)
  | .plain chars => chars

theorem Path.text_nil : (Path.segments []).text = [] :=
  rfl

theorem Path.text_cons (segment : List Char) (rest : List (List Char)) :
    (Path.segments (segment :: rest)).text = '/' :: (segment ++ (Path.segments rest).text) :=
  rfl

/-- The path of a text behind its first slash. -/
def Path.ofSegments (isSlash : Char → Bool) (text : List Char) : Path :=
  .segments ((removeDots (Text.split isSlash text)).map encodeSegment)

end Url

end TableClient
