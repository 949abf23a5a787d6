import TableClient.Dictionary

/-!
# Request Properties

The properties that travel with every request, and how two sets of them are
laid over each other.

Each property is set or unset on its own. Laid over others, the properties
that are set replace those below, and the unset ones let them show through.
The user settings count as one property: they are replaced as a whole.

## Main definitions

* `Settings`: User settings, a dictionary of texts.
* `Properties`: The five properties.
* `Properties.merged`: Properties with others laid over them.
* `Properties.Field`: The names of the properties.

## Theorems

* `merged_empty`: Nothing laid over changes nothing.
* `merged_assoc`: Layers can be put together in any grouping.
-/

namespace TableClient

/-- User settings: texts under keys, in the order of the keys. -/
structure Settings where
  entries : List (String × String)
  ordered : Dictionary.Ordered entries
deriving DecidableEq, Repr

namespace Settings

/-- No settings. -/
def empty : Settings :=
  ⟨[], List.Pairwise.nil⟩

/-- The settings with one more entry, which replaces one with the same
    key. -/
def insert (settings : Settings) (key value : String) : Settings :=
  ⟨Dictionary.insert key value settings.entries, Dictionary.ordered_insert settings.ordered⟩

end Settings

/-- The properties of a request; what is unset is left out of it. -/
structure Properties where
  locale : Option String := none
  location : Option String := none
  timezone : Option String := none
  selector : Option String := none
  userSettings : Option Settings := none
deriving DecidableEq, Repr

namespace Properties

/-- Properties of which none is set. -/
def empty : Properties :=
  {}

/-- Properties with others laid over them: what the others set replaces what
    is below. -/
def merged (base overrides : Properties) : Properties where
  locale := overrides.locale.or base.locale
  location := overrides.location.or base.location
  timezone := overrides.timezone.or base.timezone
  selector := overrides.selector.or base.selector
  userSettings := overrides.userSettings.or base.userSettings

/-- The names of the properties. -/
inductive Field where
  | locale
  | location
  | timezone
  | selector
  | userSettings
deriving DecidableEq, Repr

namespace Field

/-- The key of a property in JSON. -/
def key : Field → String
  | .locale => "Locale"
  | .location => "Location"
  | .timezone => "Timezone"
  | .selector => "Selector"
  | .userSettings => "UserSettings"

/-- The properties in the order in which an array gives them. -/
def all : List Field :=
  [.locale, .location, .timezone, .selector, .userSettings]

/-- The property a key names. -/
def ofKey? (key : String) : Option Field :=
  all.find? fun field => field.key == key

end Field

theorem merged_empty (base : Properties) : base.merged empty = base :=
  rfl

theorem merged_assoc (first second third : Properties) :
    (first.merged second).merged third = first.merged (second.merged third) := by
  simp [merged, Option.or_assoc]

end Properties

end TableClient
