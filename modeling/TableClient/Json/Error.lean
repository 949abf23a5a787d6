import TableClient.Json.Print
import TableClient.Text.Bytes
import TableClient.Text.Quoted

/-!
# Faults in JSON

What can be wrong with a text or with a value read from it, where in the text
it was noticed, and the sentence that reports it.

The first faults are those of a text that is no value at all. The last three
are those of a value that is not the one asked for: another type, an array of
another length, a member given twice.

A place in a text is a line, counted from one, and a column, counted in bytes
of UTF-8 since the last line break; the column of the first byte of a line is
zero. A fault noticed in a value that was read before has no place.

## Main definitions

* `Found`: What stands where something else was asked for.
* `Wanted`: What was asked for.
* `Fault`: What is wrong.
* `Position`: A place in a text.
* `Error`: A fault and its place.
* `Error.message`: The sentence that reports an error.
-/

namespace TableClient

namespace Json

/-- What stands where something else was asked for. -/
inductive Found where
  | null
  | bool (value : Bool)
  | num (value : Number)
  | str (value : String)
  | arr
  | obj
deriving DecidableEq, Repr

/-- What a value was asked to be. -/
inductive Wanted where
  | string
  | array
  | object
  | record (name : String)
deriving DecidableEq, Repr

/-- What the length of an array was asked to be. -/
inductive WantedLength where
  | record (name : String) (fields : Nat)
  | fewer
deriving DecidableEq, Repr

/-- What is wrong with a text or a value. -/
inductive Fault where
  | endInValue
  | endInArray
  | endInObject
  | endInString
  | expectedValue
  | expectedWord
  | expectedColon
  | expectedArrayEnd
  | expectedObjectEnd
  | keyNotString
  | trailingComma
  | trailingCharacters
  | invalidNumber
  | numberOutOfRange
  | invalidEscape
  | loneSurrogate
  | unfinishedSurrogate
  | controlCharacter
  | tooDeep
  | wrongType (found : Found) (wanted : Wanted)
  | wrongLength (found : Nat) (wanted : WantedLength)
  | repeatedMember (key : String)
deriving DecidableEq, Repr

/-- The kind of thing a value is, as messages name it. -/
def Found.ofJson : Json → Found
  | .null => .null
  | .bool value => .bool value
  | .num value => .num value
  | .str value => .str value
  | .arr _ => .arr
  | .obj _ => .obj

/-- The words for what stands there. -/
def Found.text : Found → String
  | .null => "null"
  | .bool value => "boolean `" ++ boolText value ++ "`"
  | .num (.int value) => "integer `" ++ toString value ++ "`"
  | .num (.real value) => "floating point `" ++ value.text ++ "`"
  | .str value => "string " ++ Text.quoted value
  | .arr => "sequence"
  | .obj => "map"

/-- The words for what was asked for. -/
def Wanted.text : Wanted → String
  | .string => "a string"
  | .array => "a sequence"
  | .object => "a map"
  | .record name => "struct " ++ name

/-- The words for the length that was asked for. -/
def WantedLength.text : WantedLength → String
  | .record name fields => "struct " ++ name ++ " with " ++ toString fields ++ " elements"
  | .fewer => "fewer elements in array"

/-- The words for what is wrong. -/
def Fault.text : Fault → String
  | .endInValue => "EOF while parsing a value"
  | .endInArray => "EOF while parsing a list"
  | .endInObject => "EOF while parsing an object"
  | .endInString => "EOF while parsing a string"
  | .expectedValue => "expected value"
  | .expectedWord => "expected ident"
  | .expectedColon => "expected `:`"
  | .expectedArrayEnd => "expected `,` or `]`"
  | .expectedObjectEnd => "expected `,` or `\x7d`"
  | .keyNotString => "key must be a string"
  | .trailingComma => "trailing comma"
  | .trailingCharacters => "trailing characters"
  | .invalidNumber => "invalid number"
  | .numberOutOfRange => "number out of range"
  | .invalidEscape => "invalid escape"
  | .loneSurrogate => "lone leading surrogate in hex escape"
  | .unfinishedSurrogate => "unexpected end of hex escape"
  | .controlCharacter => "control character (\\u0000-\\u001F) found while parsing a string"
  | .tooDeep => "recursion limit exceeded"
  | .wrongType found wanted => "invalid type: " ++ found.text ++ ", expected " ++ wanted.text
  | .wrongLength found wanted =>
    "invalid length " ++ toString found ++ ", expected " ++ wanted.text
  | .repeatedMember key => "duplicate field `" ++ key ++ "`"

/-- A place in a text. -/
structure Position where
  line : Nat
  column : Nat
deriving DecidableEq, Repr

/-- The place behind one more byte. -/
def Position.next (position : Position) (byte : UInt8) : Position :=
  if byte = 10 then ⟨position.line + 1, 0⟩ else ⟨position.line, position.column + 1⟩

/-- The place behind the given number of bytes of a text. -/
def Position.behind (text : String) (count : Nat) : Position :=
  ((Text.utf8 text.toList).take count).foldl Position.next ⟨1, 0⟩

/-- A fault and the place where it was noticed, if it was noticed in a
    text. -/
structure Error where
  fault : Fault
  position : Option Position
deriving DecidableEq, Repr

/-- A fault noticed in a value that is no longer a text. -/
def Fault.placeless (fault : Fault) : Error :=
  ⟨fault, none⟩

/-- The sentence that reports an error. -/
def Error.message (error : Error) : String :=
  match error.position with
  | none => error.fault.text
  | some place =>
    error.fault.text ++ " at line " ++ toString place.line ++ " column " ++ toString place.column

end Json

end TableClient
