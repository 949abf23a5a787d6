import TableClient.Proofs.Chain
import TableClient.Proofs.Dictionary
import TableClient.Properties.Codec

/-!
# Properties Field by Field

What a value says about each of the five properties.

Properties are known by the values that their fields have in JSON: `value?` gives
these, and two sets of properties with the same values are the same. So what a reading
does to properties is said field by field, without a word on which of the five it is.

A value that spells properties is a list of assignments, each of a value to a field.
An object assigns what it gives under the five keys, in its order, and an array its
items in the order of the fields. Both are read by making the assignments one after
the other, and if no field is assigned twice then every field ends up with what it was
assigned, in whatever order that is done. `Records` says this, and `ofJson_eq_ok_iff`
is that reading means just this.

A null leaves a field without content, and the content of an object is the dictionary
of its entries. Whether a value fits is a matter of the field and of nothing else.

## Main definitions

* `Properties.value?`: The value a property has in JSON.
* `content?`: What a field holds once a value is assigned to it.
* `Fits`: A value that may be assigned to a field.
* `assignments`: What a value assigns to which fields.
* `Records`: Properties that hold what a value assigns.

## Theorems

* `member?_toJson`: Properties have the members that are set, and no others.
* `eq_iff_value?`: Properties are known by their fields.
* `setOfJson_eq_ok_iff`: One assignment.
* `ofJson_eq_ok_iff_assign`: A value is read by making its assignments.
* `ofJson_eq_ok_iff`: The same for all fields at once.
-/

namespace TableClient

open Json (Fault)

namespace Settings

/-- Settings are known by the value that spells them. -/
theorem toJson_inj {settings other : Settings} :
    settings.toJson = other.toJson ↔ settings = other := by
  refine ⟨fun h => ?_, fun h => h ▸ rfl⟩
  have hentry : Function.Injective fun entry : String × String => (entry.1, Json.str entry.2) := by
    rintro ⟨key, text⟩ ⟨key', text'⟩ h
    cases h
    rfl
  have hentries := List.map_injective_iff.2 hentry (Json.obj.inj h)
  cases settings
  cases other
  cases hentries
  rfl

end Settings

namespace Properties

/-- The value a property has in JSON, if it is set. -/
def value? (properties : Properties) : Field → Option Json
  | .locale => properties.locale.map .str
  | .location => properties.location.map .str
  | .timezone => properties.timezone.map .str
  | .selector => properties.selector.map .str
  | .userSettings => properties.userSettings.map Settings.toJson

theorem get?_entry {α β : Type} (key name : String) (value : Option α) (f : α → β) :
    Dictionary.get? key (value.map fun x => (name, f x)).toList
      = if name = key then value.map f else none := by
  cases value with
  | none => exact (ite_self none).symm
  | some x => rfl

/-- Properties have the members that are set, and no others. -/
theorem member?_toJson (properties : Properties) (key : String) :
    properties.toJson.member? key = (Field.ofKey? key).bind properties.value? := by
  simp only [toJson, Json.member?, Dictionary.get?_append, get?_entry]
  cases hfield : Field.ofKey? key with
  | none =>
      have hkeys : ∀ field ∈ Field.all, field.key ≠ key := fun field hmem => by
        simpa using List.find?_eq_none.1 hfield field hmem
      rw [if_neg (hkeys .locale (by decide)), if_neg (hkeys .location (by decide)),
        if_neg (hkeys .selector (by decide)), if_neg (hkeys .timezone (by decide)),
        if_neg (hkeys .userSettings (by decide))]
      rfl
  | some field =>
      have hkey : field.key = key := by simpa using List.find?_some hfield
      subst hkey
      cases field <;> simp [Field.key, value?]

/-- A field is named by its own key and by no other. -/
theorem Field.ofKey?_eq_some_iff {key : String} {field : Field} :
    Field.ofKey? key = some field ↔ field.key = key := by
  constructor
  · intro h
    simpa using List.find?_some h
  · rintro rfl
    cases field <;> decide

theorem Field.key_injective : Function.Injective Field.key := by
  intro field other h
  have hfield := Field.ofKey?_eq_some_iff.2 h
  rw [Field.ofKey?_eq_some_iff.2 (rfl : other.key = other.key)] at hfield
  exact (Option.some.inj hfield).symm

theorem Field.mem_all (field : Field) : field ∈ Field.all := by
  cases field <;> decide

/-- Properties are known by the values of their fields. -/
theorem eq_iff_value? {properties other : Properties} :
    properties = other ↔ ∀ field, properties.value? field = other.value? field := by
  refine ⟨fun h _ => h ▸ rfl, fun h => ?_⟩
  have htext : Function.Injective Json.str := fun _ _ => Json.str.inj
  have hsettings : Function.Injective Settings.toJson := fun _ _ => Settings.toJson_inj.1
  have hlocale := Option.map_injective htext (h .locale)
  have hlocation := Option.map_injective htext (h .location)
  have htimezone := Option.map_injective htext (h .timezone)
  have hselector := Option.map_injective htext (h .selector)
  have huserSettings := Option.map_injective hsettings (h .userSettings)
  cases properties
  cases other
  cases hlocale
  cases hlocation
  cases htimezone
  cases hselector
  cases huserSettings
  rfl

theorem value?_empty (field : Field) : empty.value? field = none := by
  cases field <;> rfl

/-- What is laid over other properties is asked first. -/
theorem value?_merged (base overrides : Properties) (field : Field) :
    (base.merged overrides).value? field = (overrides.value? field).or (base.value? field) := by
  cases field <;> exact Option.map_or

/-! ### One assignment -/

/-- What a field holds once a value is assigned to it: nothing for a null, and the
    dictionary of its entries for an object. -/
def content? : Json → Option Json
  | .null => none
  | .obj entries => some (Json.object entries)
  | value => some value

/-- A value of which each entry is a string. -/
def OfTexts (entries : List (String × Json)) : Prop :=
  ∀ entry ∈ entries, ∃ text, entry.2 = .str text

/-- A value that may be assigned to a field. -/
inductive Fits : Field → Json → Prop where
  | null (field : Field) : Fits field .null
  | text {field : Field} (h : field ≠ .userSettings) (text : String) : Fits field (.str text)
  | settings {entries : List (String × Json)} (h : OfTexts entries) :
    Fits .userSettings (.obj entries)

/-- A reader of the values that fit a field, which keeps their content. -/
def Decodes {α : Type} (field : Field) (read : Json → Except Fault α) (encode : α → Json) : Prop :=
  ∀ v, (∀ decoded, optionalOfJson read v = .ok decoded →
      Fits field v ∧ content? v = decoded.map encode) ∧
    (Fits field v → ∃ decoded, optionalOfJson read v = .ok decoded)

theorem textOfJson_decodes {field : Field} (hfield : field ≠ .userSettings) :
    Decodes field textOfJson .str := by
  intro v
  constructor
  · intro decoded h
    cases v with
    | null =>
        cases h
        exact ⟨.null field, rfl⟩
    | str text =>
        cases h
        exact ⟨.text hfield text, rfl⟩
    | _ => cases h
  · intro h
    cases h with
    | null => exact ⟨none, rfl⟩
    | text _ text => exact ⟨some text, rfl⟩
    | settings => exact absurd rfl hfield

/-- Entries that are strings are texts under their keys. -/
theorem ofTexts_iff {entries : List (String × Json)} :
    OfTexts entries ↔ ∃ texts : List (String × String),
      entries = texts.map fun entry => (entry.1, .str entry.2) := by
  constructor
  · intro h
    have htexts : ∀ entry ∈ entries, ∃ text : String × String, entry = (text.1, .str text.2) := by
      rintro ⟨key, v⟩ hmem
      rcases h _ hmem with ⟨text, rfl⟩
      exact ⟨(key, text), rfl⟩
    rcases exists_forall₂ htexts with ⟨texts, h⟩
    refine ⟨texts, ?_⟩
    rw [← List.forall₂_eq_eq_eq, List.forall₂_map_right_iff]
    exact h
  · rintro ⟨texts, rfl⟩ entry hmem
    rcases List.mem_map.1 hmem with ⟨text, -, rfl⟩
    exact ⟨text.2, rfl⟩

/-- Strings that are put into settings one after the other. -/
theorem foldlM_settings_eq_ok_iff {entries : List (String × Json)} {settings next : Settings} :
    entries.foldlM (fun settings (entry : String × Json) => do
        let text ← textOfJson entry.2
        .ok (settings.insert entry.1 text)) settings = (.ok next : Except Fault Settings) ↔
      ∃ texts : List (String × String), entries = (texts.map fun entry => (entry.1, .str entry.2)) ∧
        next.entries
          = texts.foldl (fun dict entry => Dictionary.insert entry.1 entry.2 dict)
              settings.entries := by
  induction entries generalizing settings with
  | nil =>
      constructor
      · intro h
        cases h
        exact ⟨[], rfl, rfl⟩
      · rintro ⟨texts, htexts, hnext⟩
        cases List.map_eq_nil_iff.1 htexts.symm
        cases next
        cases settings
        cases hnext
        rfl
  | cons entry entries ih =>
      rcases entry with ⟨key, v⟩
      rw [List.foldlM_cons]
      simp only [bind_eq_ok, ih]
      constructor
      · rintro ⟨_, ⟨text, htext, h⟩, texts, rfl, hnext⟩
        cases h
        cases v with
        | str content =>
            cases htext
            exact ⟨(key, text) :: texts, rfl, hnext⟩
        | _ => cases htext
      · rintro ⟨_ | ⟨⟨key', text⟩, texts⟩, htexts, hnext⟩
        · cases htexts
        · cases htexts
          exact ⟨_, ⟨text, rfl, rfl⟩, texts, rfl, hnext⟩

theorem settingsOfJson_decodes : Decodes .userSettings settingsOfJson Settings.toJson := by
  intro v
  constructor
  · intro decoded h
    cases v with
    | null =>
        cases h
        exact ⟨.null _, rfl⟩
    | obj entries =>
        rcases map_eq_ok.1 h with ⟨settings, hsettings, rfl⟩
        rcases foldlM_settings_eq_ok_iff.1 hsettings with ⟨texts, rfl, hentries⟩
        refine ⟨.settings (ofTexts_iff.2 ⟨texts, rfl⟩), congrArg some ?_⟩
        rw [Json.object, Dictionary.ofList_map, Settings.toJson, hentries]
        rfl
    | _ => cases h
  · intro h
    cases h with
    | null => exact ⟨none, rfl⟩
    | text h => exact absurd rfl h
    | settings h =>
        rcases ofTexts_iff.1 h with ⟨texts, rfl⟩
        let settings : Settings := ⟨Dictionary.ofList texts, Dictionary.ordered_ofList texts⟩
        have hread : settingsOfJson (.obj (texts.map fun entry => (entry.1, .str entry.2)))
            = .ok settings := foldlM_settings_eq_ok_iff.2 ⟨texts, rfl, rfl⟩
        exact ⟨some settings, map_eq_ok.2 ⟨settings, hread, rfl⟩⟩

/-- Each field is set by a decoder of its own, to what is decoded, and no other field is
    touched. -/
theorem exists_decoder (properties : Properties) (field : Field) :
    ∃ (α : Type) (read : Json → Except Fault α) (encode : α → Json) (put : Option α → Properties),
      Decodes field read encode ∧
      (∀ decoded other, (put decoded).value? other
        = if other = field then decoded.map encode else properties.value? other) ∧
      ∀ v, setOfJson properties v field
        = optionalOfJson read v >>= fun decoded => .ok (put decoded) := by
  cases field with
  | locale =>
      exact ⟨_, _, _, fun locale => { properties with locale }, textOfJson_decodes (by decide),
        fun _ other => by cases other <;> rfl, fun _ => rfl⟩
  | location =>
      exact ⟨_, _, _, fun location => { properties with location }, textOfJson_decodes (by decide),
        fun _ other => by cases other <;> rfl, fun _ => rfl⟩
  | timezone =>
      exact ⟨_, _, _, fun timezone => { properties with timezone }, textOfJson_decodes (by decide),
        fun _ other => by cases other <;> rfl, fun _ => rfl⟩
  | selector =>
      exact ⟨_, _, _, fun selector => { properties with selector }, textOfJson_decodes (by decide),
        fun _ other => by cases other <;> rfl, fun _ => rfl⟩
  | userSettings =>
      exact ⟨_, _, _, fun userSettings => { properties with userSettings }, settingsOfJson_decodes,
        fun _ other => by cases other <;> rfl, fun _ => rfl⟩

/-- A value that fits can be assigned. -/
theorem exists_setOfJson (properties : Properties) {v : Json} {field : Field}
    (hfits : Fits field v) : ∃ next, setOfJson properties v field = .ok next := by
  rcases exists_decoder properties field with ⟨α, read, encode, put, hread, -, hset⟩
  rcases (hread v).2 hfits with ⟨decoded, hdecoded⟩
  rw [hset]
  exact ⟨put decoded, bind_eq_ok.2 ⟨decoded, hdecoded, rfl⟩⟩

/-- An assignment is made if the value fits, and changes no other field. -/
theorem setOfJson_eq_ok_iff {properties next : Properties} {v : Json} {field : Field} :
    setOfJson properties v field = .ok next ↔
      Fits field v ∧ ∀ other, next.value? other
        = if other = field then content? v else properties.value? other := by
  rcases exists_decoder properties field with ⟨α, read, encode, put, hread, hput, hset⟩
  rw [hset, bind_eq_ok]
  constructor
  · rintro ⟨decoded, hdecoded, h⟩
    cases h
    obtain ⟨hfits, hcontent⟩ := (hread v).1 decoded hdecoded
    refine ⟨hfits, fun other => ?_⟩
    rw [hput, hcontent]
  · rintro ⟨hfits, hnext⟩
    rcases (hread v).2 hfits with ⟨decoded, hdecoded⟩
    have hcontent := ((hread v).1 decoded hdecoded).2
    refine ⟨decoded, hdecoded, congrArg Except.ok (eq_iff_value?.2 fun other => ?_)⟩
    rw [hput, hnext, hcontent]

/-! ### All assignments of a value -/

/-- What some members give under the keys of the fields, in their order. -/
def known (members : List (String × Json)) : List (Field × Json) :=
  members.filterMap fun entry => (Field.ofKey? entry.1).map fun field => (field, entry.2)

/-- What a value assigns to which fields, in its order. -/
def assignments : Json → List (Field × Json)
  | .obj members => known members
  | .arr items => Field.all.zip items
  | _ => []

/-- Properties with some assignments made one after the other. -/
def assign (properties : Properties) (given : List (Field × Json)) : Except Fault Properties :=
  given.foldlM (fun properties entry => setOfJson properties entry.2 entry.1) properties

/-- A value of which properties can be read: an object, or an array with an item for
    each field. -/
def IsRecord : Json → Prop
  | .obj _ => True
  | .arr items => items.length = Field.all.length
  | _ => False

/-- A value that assigns to one field more than once. -/
def Repeats (v : Json) : Prop :=
  ¬((assignments v).map Prod.fst).Nodup

/-- Properties that hold what a value assigns, and nothing else. -/
structure Records (v : Json) (properties : Properties) : Prop where
  form : IsRecord v
  given : ∀ entry ∈ assignments v, Fits entry.1 entry.2 ∧
    properties.value? entry.1 = content? entry.2
  absent : ∀ field, field ∉ (assignments v).map Prod.fst → properties.value? field = none

theorem mem_known_iff {members : List (String × Json)} {field : Field} {v : Json} :
    (field, v) ∈ known members ↔ (field.key, v) ∈ members := by
  simp only [known, List.mem_filterMap, Option.map_eq_some_iff, Field.ofKey?_eq_some_iff,
    Prod.mk.injEq, Prod.exists]
  constructor
  · rintro ⟨_, _, hmem, _, rfl, rfl, rfl⟩
    exact hmem
  · exact fun hmem => ⟨_, _, hmem, field, rfl, rfl, rfl⟩

theorem known_cons (key : String) (v : Json) (rest : List (String × Json)) :
    known ((key, v) :: rest)
      = ((Field.ofKey? key).map fun field => (field, v)).toList ++ known rest := by
  cases h : Field.ofKey? key <;> simp [known, h]

/-- Keys that do not repeat name fields that do not. -/
theorem nodup_known {members : List (String × Json)} (h : (members.map Prod.fst).Nodup) :
    ((known members).map Prod.fst).Nodup := by
  have hfields : (known members).map Prod.fst = (members.map Prod.fst).filterMap Field.ofKey? := by
    rw [known, List.map_filterMap, List.filterMap_map]
    refine List.filterMap_congr fun entry _ => ?_
    rw [Option.map_map, Function.comp_apply]
    exact Option.map_id'
  rw [hfields]
  refine h.filterMap fun key key' field hkey hkey' => ?_
  rw [← Field.ofKey?_eq_some_iff.1 hkey, ← Field.ofKey?_eq_some_iff.1 hkey']

/-- An array has one item for each field. -/
theorem not_repeats_arr (items : List Json) : ¬Repeats (.arr items) := by
  rw [Repeats, not_not, assignments, List.zip_eq_zip_take_min, List.map_fst_zip]
  · exact (List.take_sublist _ _).nodup (by decide)
  · simp only [List.length_take]
    omega

theorem ofMembers_eq_assign (properties : Properties) (members : List (String × Json)) :
    ofMembers properties members = assign properties (known members) := by
  induction members generalizing properties with
  | nil => rfl
  | cons entry rest ih =>
      rcases entry with ⟨key, v⟩
      rw [ofMembers, known_cons]
      cases Field.ofKey? key with
      | none => exact ih properties
      | some field =>
          simp only [ih]
          rfl

theorem ofItems_eq_ok_iff {properties next : Properties} {count : Nat} {fields : List Field}
    {items : List Json} :
    ofItems properties count fields items = .ok next ↔
      items.length = fields.length ∧ assign properties (fields.zip items) = .ok next := by
  induction fields generalizing properties count items with
  | nil =>
      cases items with
      | nil => exact ⟨fun h => ⟨rfl, h⟩, fun h => h.2⟩
      | cons v rest => exact iff_of_false (by rintro ⟨⟩) (by rintro ⟨⟨⟩, _⟩)
  | cons field fields ih =>
      cases items with
      | nil => exact iff_of_false (by rintro ⟨⟩) (by rintro ⟨⟨⟩, _⟩)
      | cons v rest =>
          rw [ofItems, List.zip_cons_cons, assign, List.foldlM_cons]
          simp only [bind_eq_ok, ih, List.length_cons, Nat.add_right_cancel_iff]
          constructor
          · rintro ⟨middle, hset, hlength, hrest⟩
            exact ⟨hlength, middle, hset, hrest⟩
          · rintro ⟨hlength, middle, hset, hrest⟩
            exact ⟨middle, hset, hlength, hrest⟩

/-- A value is read by making its assignments, from the first to the last. -/
theorem ofJson_eq_ok_iff_assign {v : Json} {properties : Properties} :
    ofJson v = .ok properties ↔
      IsRecord v ∧ assign empty (assignments v) = .ok properties := by
  cases v with
  | obj members =>
      rw [ofJson, ofMembers_eq_assign]
      exact (and_iff_right trivial).symm
  | arr items => exact ofItems_eq_ok_iff
  | _ => exact iff_of_false (by rintro ⟨⟩) fun h => h.1

/-- Assignments to different fields do not get in each other's way. -/
theorem assign_eq_ok_iff {given : List (Field × Json)} (hnodup : (given.map Prod.fst).Nodup)
    {properties next : Properties} :
    assign properties given = .ok next ↔
      (∀ entry ∈ given, Fits entry.1 entry.2 ∧ next.value? entry.1 = content? entry.2) ∧
        ∀ field, field ∉ given.map Prod.fst → next.value? field = properties.value? field := by
  induction given generalizing properties with
  | nil =>
      constructor
      · intro h
        cases h
        exact ⟨fun _ hmem => (List.not_mem_nil hmem).elim, fun _ _ => rfl⟩
      · rintro ⟨-, h⟩
        rw [eq_iff_value?.2 fun field => h field List.not_mem_nil]
        rfl
  | cons entry rest ih =>
      rcases entry with ⟨field, v⟩
      rw [List.map_cons, List.nodup_cons] at hnodup
      rcases hnodup with ⟨hfield, hnodup⟩
      rw [assign, List.foldlM_cons, bind_eq_ok, List.forall_mem_cons]
      simp only [List.map_cons, List.mem_cons, not_or]
      constructor
      · rintro ⟨middle, hset, hrest⟩
        obtain ⟨hfits, hmiddle⟩ := setOfJson_eq_ok_iff.1 hset
        obtain ⟨hgiven, habsent⟩ := (ih hnodup).1 hrest
        refine ⟨⟨⟨hfits, ?_⟩, hgiven⟩, fun other hother => ?_⟩
        · rw [habsent field hfield, hmiddle, if_pos rfl]
        · rw [habsent other hother.2, hmiddle, if_neg hother.1]
      · rintro ⟨⟨⟨hfits, hcontent⟩, hgiven⟩, habsent⟩
        -- The rest starts from what the first assignment makes, and leaves its field alone.
        rcases exists_setOfJson properties hfits with ⟨middle, hset⟩
        obtain ⟨-, hmiddle⟩ := setOfJson_eq_ok_iff.1 hset
        refine ⟨middle, hset, (ih hnodup).2 ⟨hgiven, fun other hother => ?_⟩⟩
        rw [hmiddle]
        split
        · rename_i heq
          rw [heq]
          exact hcontent
        · rename_i hne
          exact habsent other ⟨hne, hother⟩

/-- Of a value that assigns to no field twice, the properties are read that hold what
    it assigns. -/
theorem ofJson_eq_ok_iff {v : Json} (h : ¬Repeats v) {properties : Properties} :
    ofJson v = .ok properties ↔ Records v properties := by
  rw [ofJson_eq_ok_iff_assign, assign_eq_ok_iff (not_not.1 h)]
  simp only [value?_empty]
  constructor
  · rintro ⟨hform, hgiven, habsent⟩
    exact ⟨hform, hgiven, habsent⟩
  · rintro ⟨hform, hgiven, habsent⟩
    exact ⟨hform, hgiven, habsent⟩

end Properties

end TableClient
