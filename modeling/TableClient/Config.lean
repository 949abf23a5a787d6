import TableClient.Properties.Basic
import TableClient.Text.Blank

/-!
# Configuration

Which application a client talks to, and where the answer comes from.

A configuration names the application, carries its access key and the
properties that go with every request, and gives the base of all addresses.
It is built in code or looked up by variable names.

Looked up, the two identifying variables have to be there and must not be
blank; the others are optional, and a blank one counts as absent. The values
are kept as they are, blanks included, except that a base address loses its
trailing slashes.

A selector belongs to a single request. Properties that are put into a
configuration lose theirs.

## Main definitions

* `Config`: A configuration.
* `Config.new`: The configuration of an application, all else unset.
* `Config.withProperties`, `Config.withBaseUrl`: A configuration with one
  part replaced.
* `Config.Error`: Why looking up failed.
* `Config.ofLookup`: The configuration some variables give.

## Theorems

* `ofLookup_eq_ok`: What a lookup that succeeds has found.
-/

namespace TableClient

/-- What a client needs to know about the application it talks to. -/
structure Config where
  appId : String
  accessKey : String
  properties : Properties
  baseUrl : String
deriving DecidableEq, Repr

namespace Config

/-- The base of all addresses where none is given. -/
def defaultBaseUrl : String := "https://api.appsheet.com/api/v2"

/-- The configuration of an application, all else unset. -/
def new (appId accessKey : String) : Config :=
  ⟨appId, accessKey, Properties.empty, defaultBaseUrl⟩

/-- The configuration with other properties; a selector among them is
    dropped. -/
def withProperties (config : Config) (properties : Properties) : Config :=
  { config with properties := { properties with selector := none } }

/-- The configuration with another base address. -/
def withBaseUrl (config : Config) (baseUrl : String) : Config :=
  { config with baseUrl }

/-! ### Variables -/

/-- The variable that names the application. -/
def appIdVar : String := "APPSHEET_APP_ID"

/-- The variable that holds the access key. -/
def accessKeyVar : String := "APPSHEET_ACCESS_KEY"

/-- The variable that holds the locale. -/
def localeVar : String := "APPSHEET_LOCALE"

/-- The variable that holds the location. -/
def locationVar : String := "APPSHEET_LOCATION"

/-- The variable that holds the time zone. -/
def timezoneVar : String := "APPSHEET_TIMEZONE"

/-- The variable that holds the base address. -/
def baseUrlVar : String := "APPSHEET_BASE_URL"

/-- What is wrong with the value of a variable. -/
inductive Flaw where
  | blank
  | notHttp (url : String)
deriving DecidableEq, Repr

/-- Why looking up a configuration failed. -/
inductive Error where
  | missing (name : String)
  | invalid (name : String) (flaw : Flaw)
deriving DecidableEq, Repr

/-- The words for what is wrong with a value. -/
def Flaw.text : Flaw → String
  | .blank => "value is empty"
  | .notHttp url => "'" ++ url ++ "' is not an http(s) URL"

/-- The sentence that reports why looking up failed. -/
def Error.message : Error → String
  | .missing name => "environment variable " ++ name ++ " is not set"
  | .invalid name flaw => "environment variable " ++ name ++ " is invalid: " ++ flaw.text

/-- Where variables are looked up. -/
abbrev Lookup :=
  String → Option String

/-- The value of a variable that has to be there. -/
def required (lookup : Lookup) (name : String) : Except Error String :=
  match lookup name with
  | none => .error (.missing name)
  | some value => if Text.isBlankText value then .error (.invalid name .blank) else .ok value

/-- The value of a variable that may be absent or blank. -/
def optional (lookup : Lookup) (name : String) : Option String :=
  (lookup name).filter fun value => !Text.isBlankText value

/-- Whether an address starts with the scheme of the web. -/
def isHttp (url : String) : Bool :=
  "http://".toList.isPrefixOf url.toList || "https://".toList.isPrefixOf url.toList

/-- A text without the slashes it ends with. -/
def withoutTrailingSlashes (text : String) : String :=
  .ofList (text.toList.reverse.dropWhile (· == '/')).reverse

/-- The base address of some variables. -/
def baseUrlOfLookup (lookup : Lookup) : Except Error String :=
  match optional lookup baseUrlVar with
  | none => .ok defaultBaseUrl
  | some url =>
    if isHttp url then .ok (withoutTrailingSlashes url)
    else .error (.invalid baseUrlVar (.notHttp url))

/-- The configuration some variables give. The first faulty variable is
    reported, in the order application, access key, base address. -/
def ofLookup (lookup : Lookup) : Except Error Config := do
  let appId ← required lookup appIdVar
  let accessKey ← required lookup accessKeyVar
  let baseUrl ← baseUrlOfLookup lookup
  .ok
    { appId
      accessKey
      baseUrl
      properties :=
        { locale := optional lookup localeVar
          location := optional lookup locationVar
          timezone := optional lookup timezoneVar } }

/-- A lookup that succeeds found each part under the variable for it. -/
theorem ofLookup_eq_ok {lookup : Lookup} {config : Config} (h : ofLookup lookup = .ok config) :
    required lookup appIdVar = .ok config.appId ∧
    required lookup accessKeyVar = .ok config.accessKey ∧
    baseUrlOfLookup lookup = .ok config.baseUrl ∧
    config.properties =
      { locale := optional lookup localeVar
        location := optional lookup locationVar
        timezone := optional lookup timezoneVar } := by
  unfold ofLookup at h
  cases happId : required lookup appIdVar with
  | error fault => rw [happId] at h; cases h
  | ok appId =>
      cases hkey : required lookup accessKeyVar with
      | error fault => rw [happId, hkey] at h; cases h
      | ok accessKey =>
          cases hbase : baseUrlOfLookup lookup with
          | error fault => rw [happId, hkey, hbase] at h; cases h
          | ok baseUrl =>
              rw [happId, hkey, hbase] at h
              cases h
              exact ⟨rfl, rfl, rfl, rfl⟩

end Config

end TableClient
