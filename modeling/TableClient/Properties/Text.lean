import TableClient.Json.Skip
import TableClient.Properties.Codec

/-!
# Properties from a Text

Reading properties straight from a JSON text, without a value in between.

The text is judged as it is read, from left to right, so what is wrong with a
property is reported before anything that is wrong further on, and with its
place. The value of an unknown member is only skipped. A property that is
given twice is refused, which the detour over a value could not notice.

## Main definitions

* `Properties.Progress`: The properties read so far.
* `Properties.readMember`: A member of the object.
* `Properties.readItems`: The items of the array.
* `Properties.read`: The properties a text spells.
* `Properties.readAsValue`: The same by way of a value.
-/

namespace TableClient

open Json (Failure Reader Fault)

namespace Properties

/-- The properties read so far, and which of them. -/
structure Progress where
  properties : Properties
  seen : List Field

/-- Reads an object of strings. -/
def readSettings : Reader Settings := fun text =>
  match Json.skipBlanks text with
  | '\x7b' :: rest =>
    Json.members
      (fun settings key rest => do
        let rest ← Json.colon rest
        let (value, rest) ← Json.stringValue rest
        .ok (settings.insert key value, rest))
      rest true Settings.empty rest
  | rest => Json.refuse .object rest

/-- Reads one property. -/
def readField (properties : Properties) : Field → Reader Properties
  | .locale, text => do
    let (locale, rest) ← Json.optional Json.stringValue text
    .ok ({ properties with locale }, rest)
  | .location, text => do
    let (location, rest) ← Json.optional Json.stringValue text
    .ok ({ properties with location }, rest)
  | .timezone, text => do
    let (timezone, rest) ← Json.optional Json.stringValue text
    .ok ({ properties with timezone }, rest)
  | .selector, text => do
    let (selector, rest) ← Json.optional Json.stringValue text
    .ok ({ properties with selector }, rest)
  | .userSettings, text => do
    let (userSettings, rest) ← Json.optional readSettings text
    .ok ({ properties with userSettings }, rest)

/-- The failure of a property that is given twice, noticed behind its second
    key. The blanks that follow, and a closing brace behind them, count as
    read. -/
def repeated (field : Field) (text : List Char) : Failure :=
  match Json.skipBlanks text with
  | '\x7d' :: rest => .before (.repeatedMember field.key) rest
  | rest => .before (.repeatedMember field.key) rest

/-- Reads what follows the key of a member. -/
def readMember (progress : Progress) (key : String) : Reader Progress := fun text =>
  match Field.ofKey? key with
  | none => do
    let rest ← Json.colon text
    let rest ← Json.skip rest
    .ok (progress, rest)
  | some field =>
    if field ∈ progress.seen then .error (repeated field text)
    else do
      let rest ← Json.colon text
      let (properties, rest) ← readField progress.properties field rest
      .ok (⟨properties, field :: progress.seen⟩, rest)

/-- Reads the closing bracket behind the last item. -/
def endItems (text : List Char) : Except Failure (List Char) :=
  match Json.skipBlanks text with
  | [] => .error (.behind .endInArray [])
  | ']' :: rest => .ok rest
  | ',' :: rest =>
    match Json.skipBlanks rest with
    | ']' :: rest => .error (.behind .trailingComma (']' :: rest))
    | rest => .error (.behind .trailingCharacters rest)
  | rest => .error (.behind .trailingCharacters rest)

/-- Reads an item for each of the fields and the closing bracket; `count` is
    the number of items before them. -/
def readItems (properties : Properties) (count : Nat) : List Field → Reader Properties
  | [], text => do
    let rest ← endItems text
    .ok (properties, rest)
  | field :: fields, text => do
    let (more, rest) ← Json.nextItem (count == 0) text
    if more then
      let (properties, rest) ← readField properties field rest
      readItems properties (count + 1) fields rest
    else .error (.before (.wrongLength count (.record recordName Field.all.length)) rest)

/-- Reads properties from the front of a text. -/
def reader : Reader Properties := fun text =>
  match Json.skipBlanks text with
  | '\x7b' :: rest => do
    let (progress, rest) ← Json.members readMember rest true ⟨empty, []⟩ rest
    .ok (progress.properties, rest)
  | '[' :: rest => readItems empty 0 Field.all rest
  | rest => Json.refuse (.record recordName) rest

/-- The properties a text spells. -/
def read (text : String) : Except Json.Error Properties :=
  reader.run text

/-- The properties a text spells, read as a value first. What is wrong with
    the value has no place in the text. -/
def readAsValue (text : String) : Except Json.Error Properties := do
  let value ← Json.parse text
  (ofJson value).mapError Fault.placeless

end Properties

end TableClient
