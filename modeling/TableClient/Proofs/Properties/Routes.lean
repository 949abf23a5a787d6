import TableClient.Proofs.Properties.Order
import TableClient.Proofs.Properties.Reading

/-!
# Two Routes to Properties

Properties read straight from a text, and properties read by way of a value.

The value has lost some of what the text says: of several entries with one key it holds
the last, in the object itself and in the settings inside. The direct route sees them
all. It refuses an object that gives a property twice, and it refuses settings of which
any entry is no string, even one that is replaced by a later entry. These are the only
differences. Where there is neither, both routes come to the same properties, or to
none.

Nothing that is lost matters otherwise. The tidied value has the same assignments,
whatever their order, and each of them is to a value with the same content.

What is written for properties repeats no key, so on either route the properties come
back that were written.

## Main definitions

* `Hides`: Entries of which one that is no string is replaced by a later one.
* `Overwrites`: A value that gives such settings.

## Theorems

* `readAsValue_eq_ok_iff`: The route by way of a value reads the tidied value.
* `ofTexts_iff_ofList`: What is lost of settings.
* `records_iff_tidied`: What is lost of a value.
* `routes_agree`: What is written comes back, and when the routes agree.
-/

namespace TableClient

open Json (Fault)

namespace Properties

/-- An entry that is no string is replaced by a later one with its key. -/
def Hides (entries : List (String × Json)) : Prop :=
  ∃ before key v after, entries = before ++ (key, v) :: after ∧ (∀ text, v ≠ .str text) ∧
    key ∈ after.map Prod.fst

/-- A value gives settings in which an entry that is no string is replaced by a later
    one with its key. -/
def Overwrites (v : Json) : Prop :=
  ∃ entries, (Field.userSettings, Json.obj entries) ∈ assignments v ∧ Hides entries

/-- The route by way of a value reads the tidied value. -/
theorem readAsValue_eq_ok_iff {text : String} {v : Json} (h : Json.Verbatim text v)
    {properties : Properties} :
    readAsValue text = .ok properties ↔ ofJson v.tidied = .ok properties := by
  rw [readAsValue, Json.parse_eq_ok_iff_verbatim.2 ⟨v, h, rfl⟩]
  change (ofJson v.tidied).mapError Fault.placeless = _ ↔ _
  cases ofJson v.tidied with
  | error fault => exact iff_of_false (by rintro ⟨⟩) (by rintro ⟨⟩)
  | ok read => exact Iff.rfl.trans (by simp [Except.mapError])

/-! ### What is lost of settings -/

theorem tidied_eq_str_iff {v : Json} {text : String} : v.tidied = .str text ↔ v = .str text := by
  cases v with
  | arr items =>
      rw [Json.tidied]
      exact iff_of_false (by rintro ⟨⟩) (by rintro ⟨⟩)
  | obj entries =>
      rw [Json.tidied]
      exact iff_of_false (by rintro ⟨⟩) (by rintro ⟨⟩)
  | _ => rw [Json.tidied]

/-- Entries are all strings if those that stay are and none that goes is not. -/
theorem ofTexts_iff_ofList {entries : List (String × Json)} :
    OfTexts entries ↔ OfTexts (Dictionary.ofList entries) ∧ ¬Hides entries := by
  constructor
  · intro h
    refine ⟨?_, ?_⟩
    · rintro ⟨key, v⟩ hmem
      rcases Dictionary.mem_ofList_iff.1 hmem with ⟨before, after, rfl, -⟩
      exact h (key, v) (List.mem_append_right _ List.mem_cons_self)
    · rintro ⟨before, key, v, after, rfl, hother, -⟩
      rcases h (key, v) (List.mem_append_right _ List.mem_cons_self) with ⟨text, htext⟩
      exact hother text htext
  · rintro ⟨hstay, hhides⟩ ⟨key, v⟩ hmem
    by_contra hother
    rw [not_exists] at hother
    rcases List.append_of_mem hmem with ⟨before, after, rfl⟩
    by_cases hlater : key ∈ after.map Prod.fst
    · exact hhides ⟨before, key, v, after, rfl, hother, hlater⟩
    · -- Nothing comes after it, so it is in the dictionary.
      have hlast : Dictionary.IsLast key v (before ++ (key, v) :: after) :=
        ⟨before, after, rfl, fun entry hentry hkey =>
          hlater (List.mem_map.2 ⟨entry, hentry, hkey⟩)⟩
      rcases hstay _ (Dictionary.mem_ofList_iff.2 hlast) with ⟨text, htext⟩
      exact hother text htext

/-- Tidying changes no entry into a string, and none that is one. -/
theorem ofTexts_map_tidied {entries : List (String × Json)} :
    OfTexts (entries.map fun entry => (entry.1, entry.2.tidied)) ↔ OfTexts entries := by
  simp only [OfTexts, List.forall_mem_map, tidied_eq_str_iff]

/-- Tidying leaves strings as they are. -/
theorem map_tidied_of_texts {entries : List (String × Json)} (h : OfTexts entries) :
    (entries.map fun entry => (entry.1, entry.2.tidied)) = entries := by
  refine map_eq_self_iff.2 fun entry hmem => ?_
  rcases h entry hmem with ⟨text, htext⟩
  rw [htext, Json.tidied, ← htext]

theorem fits_obj_iff {field : Field} {entries : List (String × Json)} :
    Fits field (.obj entries) ↔ field = .userSettings ∧ OfTexts entries := by
  constructor
  · intro h
    cases h with
    | settings htexts => exact ⟨rfl, htexts⟩
  · rintro ⟨rfl, htexts⟩
    exact .settings htexts

/-- A value fits if the tidied value does and no string hides an entry that is none. -/
theorem fits_iff_tidied {field : Field} {v : Json} :
    Fits field v ↔ Fits field v.tidied ∧
      ¬(field = .userSettings ∧ ∃ entries, v = .obj entries ∧ Hides entries) := by
  cases v with
  | arr items =>
      rw [Json.tidied_arr]
      exact iff_of_false (by rintro ⟨⟩) (by rintro ⟨⟨⟩, _⟩)
  | obj entries =>
      rw [Json.tidied_obj, Json.object, Dictionary.ofList_map, fits_obj_iff, fits_obj_iff,
        ofTexts_map_tidied, ofTexts_iff_ofList]
      simp only [Json.obj.injEq, exists_eq_left', and_assoc, not_and]
      exact and_congr_right fun hfield => and_congr_right fun _ =>
        ⟨fun h _ => h, fun h => h hfield⟩
  | _ =>
      rw [Json.tidied]
      exact (and_iff_left (by rintro ⟨_, _, ⟨⟩, _⟩)).symm

/-- The content of a value that fits is not changed by tidying. -/
theorem content?_tidied {field : Field} {v : Json} (h : Fits field v) :
    content? v.tidied = content? v := by
  cases h with
  | null => rw [Json.tidied]
  | text _ text => rw [Json.tidied]
  | settings htexts =>
      rw [Json.tidied_obj, map_tidied_of_texts htexts, Json.object, content?, content?, Json.object,
        Json.object, Dictionary.ofList_of_perm (List.Perm.refl _) (Dictionary.ordered_ofList _)]

/-! ### What is lost of a value -/

/-- Keys that are given once are all in the dictionary. -/
theorem mem_known_ofList_iff {entries : List (String × Json)}
    (hnodup : ((known entries).map Prod.fst).Nodup) {field : Field} {v : Json} :
    (field, v) ∈ known (Dictionary.ofList entries) ↔ (field, v) ∈ known entries := by
  rw [mem_known_iff, mem_known_iff, Dictionary.mem_ofList_iff]
  constructor
  · rintro ⟨before, after, rfl, -⟩
    exact List.mem_append_right _ List.mem_cons_self
  · intro hmem
    rcases List.append_of_mem hmem with ⟨before, after, rfl⟩
    refine ⟨before, after, rfl, ?_⟩
    rintro ⟨_, w⟩ hentry rfl
    -- Another entry for the field would be another assignment to it.
    have hlater : field ∈ (known after).map Prod.fst :=
      List.mem_map.2 ⟨(field, w), mem_known_iff.2 hentry, rfl⟩
    rw [known, List.filterMap_append, ← known, ← known, known_cons,
      Field.ofKey?_eq_some_iff.2 rfl, List.map_append] at hnodup
    exact (List.nodup_cons.1 (List.nodup_append.1 hnodup).2.1).1 hlater

theorem known_map {entries : List (String × Json)} (f : Json → Json) :
    known (entries.map fun entry => (entry.1, f entry.2))
      = (known entries).map fun entry => (entry.1, f entry.2) := by
  rw [known, known, List.filterMap_map, List.map_filterMap]
  refine List.filterMap_congr fun entry _ => ?_
  rw [Function.comp_apply, Option.map_map]
  rfl

/-- A value that assigns to no field twice makes the same assignments when it is
    tidied, of tidied values. -/
theorem mem_assignments_tidied_iff {v : Json} (h : ¬Repeats v) {field : Field} {w : Json} :
    (field, w) ∈ assignments v.tidied ↔
      ∃ given, (field, given) ∈ assignments v ∧ given.tidied = w := by
  cases v with
  | arr items =>
      rw [Json.tidied_arr, assignments, assignments, List.zip_map_right]
      simp [List.mem_map]
  | obj entries =>
      rw [Json.tidied_obj, Json.object, Dictionary.ofList_map, assignments, assignments, known_map]
      simp only [List.mem_map, Prod.exists, Prod.mk.injEq, mem_known_ofList_iff (not_not.1 h)]
      constructor
      · rintro ⟨_, given, hmem, rfl, rfl⟩
        exact ⟨given, hmem, rfl⟩
      · rintro ⟨given, hmem, rfl⟩
        exact ⟨field, given, hmem, rfl, rfl⟩
  | _ =>
      rw [Json.tidied]
      exact iff_of_false List.not_mem_nil (by rintro ⟨_, ⟨⟩, _⟩)

/-- A tidied value assigns to no field twice. -/
theorem not_repeats_tidied (v : Json) : ¬Repeats v.tidied := by
  cases v with
  | arr items =>
      rw [Json.tidied_arr]
      exact not_repeats_arr _
  | obj entries =>
      rw [Json.tidied_obj, Repeats, not_not]
      exact nodup_known (Dictionary.ordered_ofList _).nodup_keys
  | _ =>
      rw [Json.tidied, Repeats, not_not]
      exact List.nodup_nil

theorem isRecord_tidied_iff {v : Json} : IsRecord v.tidied ↔ IsRecord v := by
  cases v with
  | arr items => rw [Json.tidied_arr, IsRecord, IsRecord, List.length_map]
  | obj entries =>
      rw [Json.tidied_obj]
      exact Iff.rfl
  | _ => rw [Json.tidied]

/-- A value that assigns to no field twice records what the tidied value does, unless
    it overwrites. -/
theorem records_iff_tidied {v : Json} (h : ¬Repeats v) {properties : Properties} :
    Records v properties ↔ Records v.tidied properties ∧ ¬Overwrites v := by
  -- No field is lost, only what is assigned to it may be.
  have hfields : ∀ field, field ∈ (assignments v.tidied).map Prod.fst ↔
      field ∈ (assignments v).map Prod.fst := by
    intro field
    simp only [List.mem_map, Prod.exists, exists_and_right, exists_eq_right,
      mem_assignments_tidied_iff h]
    constructor
    · rintro ⟨_, given, hmem, -⟩
      exact ⟨given, hmem⟩
    · rintro ⟨given, hmem⟩
      exact ⟨_, given, hmem, rfl⟩
  constructor
  · rintro ⟨hform, hgiven, habsent⟩
    refine ⟨⟨isRecord_tidied_iff.2 hform, ?_, fun field hfield => ?_⟩, ?_⟩
    · rintro ⟨field, w⟩ hmem
      rcases (mem_assignments_tidied_iff h).1 hmem with ⟨given, hassigned, rfl⟩
      obtain ⟨hfits, hcontent⟩ := hgiven _ hassigned
      exact ⟨(fits_iff_tidied.1 hfits).1, hcontent.trans (content?_tidied hfits).symm⟩
    · exact habsent field fun hmem => hfield ((hfields field).2 hmem)
    · rintro ⟨entries, hmem, hhides⟩
      exact (fits_iff_tidied.1 (hgiven _ hmem).1).2 ⟨rfl, entries, rfl, hhides⟩
  · rintro ⟨⟨hform, hgiven, habsent⟩, hoverwrites⟩
    refine ⟨isRecord_tidied_iff.1 hform, ?_, fun field hfield => ?_⟩
    · rintro ⟨field, given⟩ hmem
      obtain ⟨hfits, hcontent⟩ := hgiven _ ((mem_assignments_tidied_iff h).2 ⟨given, hmem, rfl⟩)
      have hwhole : Fits field given := by
        refine fits_iff_tidied.2 ⟨hfits, ?_⟩
        rintro ⟨rfl, entries, rfl, hhides⟩
        exact hoverwrites ⟨entries, hmem, hhides⟩
      exact ⟨hwhole, hcontent.trans (content?_tidied hwhole)⟩
    · exact habsent field fun hmem => hfield ((hfields field).1 hmem)

/-- The routes differ only where a text assigns to a field twice or overwrites an entry
    of the settings that is no string. -/
theorem read_eq_ok_iff_readAsValue {text : String} {v : Json} (h : Json.Verbatim text v)
    {properties : Properties} :
    read text = .ok properties ↔
      readAsValue text = .ok properties ∧ ¬Repeats v ∧ ¬Overwrites v := by
  rw [read_eq_ok_iff_of_verbatim h, readAsValue_eq_ok_iff h]
  by_cases hrepeats : Repeats v
  · exact iff_of_false (fun h => h.2 hrepeats) fun h => h.2.1 hrepeats
  · rw [ofJson_eq_ok_iff hrepeats, ofJson_eq_ok_iff (not_repeats_tidied v),
      records_iff_tidied hrepeats, and_iff_left hrepeats, and_iff_right hrepeats]

/-- Whatever order its members and settings are written in, the text of properties has
    the keys of the fields that are set, each once, and on both routes the properties
    come back. Of any text that spells a value, the direct route reads what the other
    one reads, unless the text gives a property twice or overwrites an entry of the
    settings that is no string; then it reads nothing. -/
theorem routes_agree :
    (∀ (properties : Properties) (written : Json), Json.Shuffled properties.toJson written →
      (∃ entries, written = .obj entries ∧ (entries.map Prod.fst).Perm
        ((Field.all.filter fun field => (properties.value? field).isSome).map Field.key)) ∧
      read written.compact = .ok properties ∧ readAsValue written.compact = .ok properties ∧
      ofJson written = .ok properties) ∧
    ∀ (text : String) (value : Json), Json.parse text = .ok value →
      ∃ v, Json.Verbatim text v ∧ v.tidied = value ∧ ∀ properties,
        (read text = .ok properties ↔
          readAsValue text = .ok properties ∧ ¬Repeats v ∧ ¬Overwrites v) := by
  constructor
  · intro properties written h
    obtain ⟨hrecords, hrepeats⟩ := records_of_shuffled h
    have hverbatim := verbatim_of_shuffled h
    have hjudge : ofJson written = .ok properties := (ofJson_eq_ok_iff hrepeats).2 hrecords
    have hread : read written.compact = .ok properties :=
      (read_eq_ok_iff_of_verbatim hverbatim).2 ⟨hjudge, hrepeats⟩
    exact ⟨keys_of_shuffled h, hread, ((read_eq_ok_iff_readAsValue hverbatim).1 hread).1, hjudge⟩
  · intro text value h
    rcases Json.parse_eq_ok_iff_verbatim.1 h with ⟨v, hverbatim, htidied⟩
    exact ⟨v, hverbatim, htidied, fun properties => read_eq_ok_iff_readAsValue hverbatim⟩

/-- Properties written from the last member to the first come back, and so do those of
    a text that repeats an unknown member and an entry of the settings. -/
theorem routes_agree_cluttered :
    read "\x7b\"UserSettings\":\x7b\"b\":\"y\",\"a\":\"x\"\x7d,\"Locale\":\"fr\"\x7d"
      = .ok { locale := some "fr", userSettings := some ⟨[("a", "x"), ("b", "y")], by decide⟩ } ∧
    read "\x7b\"Zone\":[],\"UserSettings\":\x7b\"a\":\"w\",\"a\":\"x\"\x7d,\"Zone\":\"\"\x7d"
      = .ok { userSettings := some ⟨[("a", "x")], by decide⟩ } := by
  constructor
  · have hshuffled : Json.Shuffled
        ({ locale := some "fr",
           userSettings := some ⟨[("a", "x"), ("b", "y")], by decide⟩ } : Properties).toJson
        (.obj [("UserSettings", .obj [("b", .str "y"), ("a", .str "x")]),
          ("Locale", .str "fr")]) := by
      have hsettings : Json.Shuffled (.obj [("a", .str "x"), ("b", .str "y")])
          (.obj [("b", .str "y"), ("a", .str "x")]) :=
        .obj rfl (.cons (.refl _) (.cons (.refl _) .nil)) (.swap _ _ _)
      exact @Json.Shuffled.obj _
        [("Locale", .str "fr"), ("UserSettings", .obj [("b", .str "y"), ("a", .str "x")])] _ rfl
        (.cons (.refl _) (.cons hsettings .nil)) (.swap _ _ _)
    exact (routes_agree.1 _ _ hshuffled).2.1
  · have htext : (Json.obj [("Zone", .arr []),
          ("UserSettings", .obj [("a", .str "w"), ("a", .str "x")]), ("Zone", .str "")]).compact
        = "\x7b\"Zone\":[],\"UserSettings\":\x7b\"a\":\"w\",\"a\":\"x\"\x7d,\"Zone\":\"\"\x7d" :=
      rfl
    have htexts : OfTexts [("a", .str "w"), ("a", .str "x")] := by
      simp [OfTexts]
    have hreads : Json.Reads (Json.verbatim Json.maxDepth) (.obj [("Zone", .arr []),
        ("UserSettings", .obj [("a", .str "w"), ("a", .str "x")]), ("Zone", .str "")]) := by
      refine @Json.reads_obj (Json.maxDepth - 1) _ ?_
      simp only [List.forall_mem_cons]
      refine ⟨?_, reads_of_texts _ htexts, Json.reads_str _ "", List.forall_mem_nil _⟩
      exact @Json.reads_arr (Json.maxDepth - 2) _ (List.forall_mem_nil _) (List.forall_mem_nil _)
    have hverbatim := Json.verbatim_compact hreads
    rw [htext] at hverbatim
    rcases routes_agree.2 _ _ (Json.parse_eq_ok_iff_verbatim.2 ⟨_, hverbatim, rfl⟩)
      with ⟨v, hv, -, hroutes⟩
    rw [hv.unique hverbatim] at hroutes
    refine (hroutes _).2 ⟨?_, not_not.2 (by decide), ?_⟩
    · rw [readAsValue_eq_ok_iff hverbatim]
      rfl
    · rintro ⟨entries, hmem, hhides⟩
      have hentries : entries = [("a", .str "w"), ("a", .str "x")] := by
        simpa [Field.key] using mem_known_iff.1 hmem
      rw [hentries] at hhides
      exact (ofTexts_iff_ofList.1 htexts).2 hhides

/-- Settings in which an entry that is no string is overwritten come back by way of a
    value and not on the direct route, although no property is given twice. -/
theorem read_overwritten_settings :
    ∃ text, text = "\x7b\"UserSettings\":\x7b\"a\":[],\"a\":\"x\"\x7d\x7d" ∧
      (∃ value, Json.parse text = .ok value) ∧ (∀ v, Json.Verbatim text v → ¬Repeats v) ∧
      readAsValue text = .ok { userSettings := some ⟨[("a", "x")], by decide⟩ } ∧
      ∀ properties, read text ≠ .ok properties := by
  have htext : (Json.obj [("UserSettings", .obj [("a", .arr []), ("a", .str "x")])]).compact
      = "\x7b\"UserSettings\":\x7b\"a\":[],\"a\":\"x\"\x7d\x7d" := rfl
  have hreads : Json.Reads (Json.verbatim Json.maxDepth)
      (.obj [("UserSettings", .obj [("a", .arr []), ("a", .str "x")])]) := by
    refine @Json.reads_obj (Json.maxDepth - 1) _ (List.forall_mem_singleton.2 ?_)
    refine @Json.reads_obj (Json.maxDepth - 2) _ (List.forall_mem_cons.2 ⟨?_, ?_⟩)
    · exact @Json.reads_arr (Json.maxDepth - 3) _ (List.forall_mem_nil _) (List.forall_mem_nil _)
    · exact List.forall_mem_singleton.2 (Json.reads_str _ "x")
  have hverbatim := Json.verbatim_compact hreads
  rw [htext] at hverbatim
  refine ⟨_, rfl, ⟨_, Json.parse_eq_ok_iff_verbatim.2 ⟨_, hverbatim, rfl⟩⟩, fun v hv => ?_, ?_,
    fun properties h => ?_⟩
  · rw [hv.unique hverbatim]
    exact not_not.2 (by decide)
  · rw [readAsValue_eq_ok_iff hverbatim]
    rfl
  · -- The string is there, but so is the array that it replaces.
    have hhides : Hides [("a", .arr []), ("a", .str "x")] :=
      ⟨[], "a", .arr [], [("a", .str "x")], rfl, by rintro _ ⟨⟩, by decide⟩
    obtain ⟨-, -, hoverwrites⟩ := (read_eq_ok_iff_readAsValue hverbatim).1 h
    exact hoverwrites ⟨_, mem_known_iff.2 List.mem_cons_self, hhides⟩

end Properties

end TableClient
