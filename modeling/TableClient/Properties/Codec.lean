import TableClient.Json.Error
import TableClient.Properties.Basic

/-!
# Properties in JSON

Properties as a JSON value, and back from a value that has been read.

The value is an object with a member for each property that is set. Read
back, a missing member and a null mean unset, and members with other keys are
of no interest. An array of the five properties in their order is accepted
too.

The members of an object are judged in the order of their keys, and the first
one of a wrong type is reported.

## Main definitions

* `Properties.toJson`: The value that spells properties.
* `Properties.ofJson`: The properties a value spells.
-/

namespace TableClient

open Json (Fault)

namespace Settings

/-- The value that spells settings. -/
def toJson (settings : Settings) : Json :=
  .obj (settings.entries.map fun (key, value) => (key, .str value))

end Settings

namespace Properties

/-- The name of the record of properties in messages. -/
def recordName : String := "Properties"

/-- The value that spells properties; its members are those that are set. -/
def toJson (properties : Properties) : Json :=
  .obj
    ((properties.locale.map fun text => (Field.locale.key, Json.str text)).toList
      ++ (properties.location.map fun text => (Field.location.key, Json.str text)).toList
      ++ (properties.selector.map fun text => (Field.selector.key, Json.str text)).toList
      ++ (properties.timezone.map fun text => (Field.timezone.key, Json.str text)).toList
      ++ (properties.userSettings.map fun settings =>
        (Field.userSettings.key, settings.toJson)).toList)

/-- A value that has to be a string. -/
def textOfJson : Json → Except Fault String
  | .str text => .ok text
  | value => .error (.wrongType (.ofJson value) .string)

/-- A value that has to be an object of strings. -/
def settingsOfJson : Json → Except Fault Settings
  | .obj members =>
    members.foldlM
      (fun settings (key, value) => do
        let text ← textOfJson value
        .ok (settings.insert key text))
      Settings.empty
  | value => .error (.wrongType (.ofJson value) .object)

/-- A value or a null. -/
def optionalOfJson {α : Type} (read : Json → Except Fault α) : Json → Except Fault (Option α)
  | .null => .ok none
  | value => (read value).map some

/-- Properties with one of them as a value spells it. -/
def setOfJson (properties : Properties) (value : Json) : Field → Except Fault Properties
  | .locale => do
    let locale ← optionalOfJson textOfJson value
    .ok { properties with locale }
  | .location => do
    let location ← optionalOfJson textOfJson value
    .ok { properties with location }
  | .timezone => do
    let timezone ← optionalOfJson textOfJson value
    .ok { properties with timezone }
  | .selector => do
    let selector ← optionalOfJson textOfJson value
    .ok { properties with selector }
  | .userSettings => do
    let userSettings ← optionalOfJson settingsOfJson value
    .ok { properties with userSettings }

/-- The properties some members spell, laid upon others; unknown keys are
    passed over. -/
def ofMembers (properties : Properties) : List (String × Json) → Except Fault Properties
  | [] => .ok properties
  | (key, value) :: rest =>
    match Field.ofKey? key with
    | none => ofMembers properties rest
    | some field => do
      let properties ← setOfJson properties value field
      ofMembers properties rest

/-- The properties some items spell, one for each of the fields; `count` is
    the number of items before them. -/
def ofItems (properties : Properties) (count : Nat) :
    List Field → List Json → Except Fault Properties
  | [], [] => .ok properties
  | [], rest => .error (.wrongLength (count + rest.length) .fewer)
  | _ :: _, [] => .error (.wrongLength count (.record recordName Field.all.length))
  | field :: fields, value :: rest => do
    let properties ← setOfJson properties value field
    ofItems properties (count + 1) fields rest

/-- The properties a value spells. -/
def ofJson : Json → Except Fault Properties
  | .obj members => ofMembers empty members
  | .arr items => ofItems empty 0 Field.all items
  | value => .error (.wrongType (.ofJson value) (.record recordName))

end Properties

end TableClient
