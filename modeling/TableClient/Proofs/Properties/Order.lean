import TableClient.Proofs.Json.Verbatim
import TableClient.Proofs.Properties.Fields

/-!
# Properties in Any Order

Properties are written as an object, and the order of its members is nobody's concern.

A writer may go through the members, and through the entries of the settings, in an
order of its own. `Shuffled` values are all that it can come up with. None of them
repeats a key, so each of them records the properties it was written for, and its text
can be read back, since it is made of strings and objects.

## Main definitions

* `Json.Shuffled`: A value with the entries of its objects in any order.

## Theorems

* `mem_toJson_iff`, `ordered_toJson`: The members of properties.
* `keys_of_shuffled`: What is written has the keys of what is set, each once.
* `records_of_shuffled`: What is written records the properties.
* `verbatim_of_shuffled`: The text that is written spells what is written.
-/

namespace TableClient

namespace Json

/-- A value is another one with the entries of its objects in any order. -/
inductive Shuffled : Json → Json → Prop where
  | refl (v : Json) : Shuffled v v
  | arr {items others : List Json} (h : List.Forall₂ Shuffled items others) :
    Shuffled (.arr items) (.arr others)
  | obj {entries others shuffled : List (String × Json)}
    (hkeys : entries.map Prod.fst = others.map Prod.fst)
    (hvalues : List.Forall₂ Shuffled (entries.map Prod.snd) (others.map Prod.snd))
    (hperm : others.Perm shuffled) : Shuffled (.obj entries) (.obj shuffled)

/-- Entries are related one by one if their keys are the same and their values are
    related. -/
theorem forall₂_entries_iff {R : Json → Json → Prop} {entries others : List (String × Json)} :
    List.Forall₂ (fun entry other => entry.1 = other.1 ∧ R entry.2 other.2) entries others ↔
      entries.map Prod.fst = others.map Prod.fst ∧
        List.Forall₂ R (entries.map Prod.snd) (others.map Prod.snd) := by
  induction entries generalizing others with
  | nil => cases others <;> simp
  | cons entry entries ih =>
      cases others with
      | nil => simp
      | cons other others =>
          simp only [List.forall₂_cons, ih, List.map_cons, List.cons.injEq]
          exact and_and_and_comm

theorem shuffled_str_iff {text : String} {v : Json} : Shuffled (.str text) v ↔ v = .str text := by
  constructor
  · intro h
    cases h
    rfl
  · rintro rfl
    exact .refl _

theorem shuffled_obj_iff {entries : List (String × Json)} {v : Json} :
    Shuffled (.obj entries) v ↔ ∃ others shuffled, v = .obj shuffled ∧
      List.Forall₂ (fun entry other => entry.1 = other.1 ∧ Shuffled entry.2 other.2)
        entries others ∧ others.Perm shuffled := by
  constructor
  · intro h
    cases h with
    | refl =>
        refine ⟨entries, entries, rfl, List.forall₂_same.2 fun entry _ => ?_, List.Perm.refl _⟩
        exact ⟨rfl, .refl _⟩
    | obj hkeys hvalues hperm => exact ⟨_, _, rfl, forall₂_entries_iff.2 ⟨hkeys, hvalues⟩, hperm⟩
  · rintro ⟨others, shuffled, rfl, h, hperm⟩
    obtain ⟨hkeys, hvalues⟩ := forall₂_entries_iff.1 h
    exact .obj hkeys hvalues hperm

/-- The keys are the same ones, in another order. -/
theorem perm_keys {entries others shuffled : List (String × Json)}
    (h : List.Forall₂ (fun entry other => entry.1 = other.1 ∧ Shuffled entry.2 other.2)
      entries others)
    (hperm : others.Perm shuffled) : (entries.map Prod.fst).Perm (shuffled.map Prod.fst) := by
  rw [map_eq_map_of_forall₂ h fun _ _ _ _ hentry => hentry.1]
  exact hperm.map Prod.fst

end Json

namespace Settings

theorem ordered_toJson (settings : Settings) :
    Dictionary.Ordered (settings.entries.map fun entry => (entry.1, Json.str entry.2)) := by
  rw [Dictionary.Ordered, List.pairwise_map]
  exact settings.ordered

/-- Settings in any order are strings of which the dictionary is that of the settings. -/
theorem ofTexts_of_shuffled {settings : Settings} {v : Json}
    (h : Json.Shuffled settings.toJson v) :
    ∃ entries, v = .obj entries ∧ Properties.OfTexts entries ∧
      Json.object entries = settings.toJson := by
  rcases Json.shuffled_obj_iff.1 h with ⟨others, shuffled, rfl, hothers, hperm⟩
  -- A string has nothing to shuffle, so only the entries change their places.
  have hsame : settings.entries.map (fun entry => (entry.1, Json.str entry.2)) = others := by
    rw [← List.forall₂_eq_eq_eq]
    refine forall₂_imp_of_mem hothers fun entry hmem other _ hentry => ?_
    rcases List.mem_map.1 hmem with ⟨text, -, rfl⟩
    exact Prod.ext hentry.1 (Json.shuffled_str_iff.1 hentry.2).symm
  have hshuffled : shuffled.Perm (settings.entries.map fun entry => (entry.1, .str entry.2)) :=
    hsame ▸ hperm.symm
  refine ⟨shuffled, rfl, fun entry hmem => ?_, ?_⟩
  · rcases List.mem_map.1 (hshuffled.mem_iff.1 hmem) with ⟨text, -, rfl⟩
    exact ⟨text.2, rfl⟩
  · exact congrArg Json.obj (Dictionary.ofList_of_perm hshuffled settings.ordered_toJson)

end Settings

namespace Properties

theorem keys_entry {α β : Type} (name : String) (value : Option α) (f : α → β) :
    ((value.map fun x => (name, f x)).toList.map Prod.fst).Sublist [name] := by
  cases value with
  | none => exact List.nil_sublist _
  | some x => exact List.Sublist.refl _

/-- Properties are spelled with a member for each field that is set. -/
theorem toJson_eq_obj (properties : Properties) :
    ∃ members, properties.toJson = .obj members ∧ Dictionary.Ordered members ∧
      ∀ key v, (key, v) ∈ members ↔ ∃ field : Field, field.key = key ∧
        properties.value? field = some v := by
  have hordered : ∀ members, properties.toJson = .obj members → Dictionary.Ordered members := by
    rintro _ h
    cases h
    have hkeys := ((((keys_entry Field.locale.key properties.locale Json.str).append
      (keys_entry Field.location.key properties.location Json.str)).append
      (keys_entry Field.selector.key properties.selector Json.str)).append
      (keys_entry Field.timezone.key properties.timezone Json.str)).append
      (keys_entry Field.userSettings.key properties.userSettings Settings.toJson)
    simp only [← List.map_append] at hkeys
    exact Dictionary.ordered_of_keys _ rfl (List.Pairwise.sublist hkeys (by decide))
  refine ⟨_, rfl, hordered _ rfl, fun key v => ?_⟩
  rw [← Dictionary.get?_eq_some_iff (hordered _ rfl)]
  change properties.toJson.member? key = some v ↔ _
  simp only [member?_toJson, Option.bind_eq_some_iff, Field.ofKey?_eq_some_iff]

/-- What is written for a field fits it and has its content. -/
theorem fits_of_shuffled {properties : Properties} {field : Field} {v w : Json}
    (hvalue : properties.value? field = some v) (h : Json.Shuffled v w) :
    Fits field w ∧ content? w = some v := by
  have htext : field ≠ .userSettings → (∃ text, v = .str text) →
      Fits field w ∧ content? w = some v := by
    rintro hfield ⟨text, rfl⟩
    rw [Json.shuffled_str_iff.1 h]
    exact ⟨.text hfield text, rfl⟩
  cases field with
  | userSettings =>
      rcases Option.map_eq_some_iff.1 hvalue with ⟨settings, -, rfl⟩
      rcases settings.ofTexts_of_shuffled h with ⟨entries, rfl, htexts, hcontent⟩
      exact ⟨.settings htexts, congrArg some hcontent⟩
  | _ =>
      rcases Option.map_eq_some_iff.1 hvalue with ⟨text, -, rfl⟩
      exact htext (by decide) ⟨text, rfl⟩

theorem reads_of_texts (depth : Nat) {entries : List (String × Json)} (h : OfTexts entries) :
    Json.Reads (Json.verbatim (depth + 1)) (.obj entries) := by
  refine Json.reads_obj fun entry hmem => ?_
  rcases h entry hmem with ⟨text, htext⟩
  rw [htext]
  exact Json.reads_str depth text

section

variable {properties : Properties} {written : Json}

/-- What is written is an object with an entry for each field that is set. -/
theorem entries_of_shuffled (h : Json.Shuffled properties.toJson written) :
    ∃ entries, written = .obj entries ∧ (entries.map Prod.fst).Nodup ∧
      (∀ key w, (key, w) ∈ entries → ∃ field : Field, field.key = key ∧
        ∃ v, properties.value? field = some v ∧ Json.Shuffled v w) ∧
      ∀ field v, properties.value? field = some v → field.key ∈ entries.map Prod.fst := by
  rcases properties.toJson_eq_obj with ⟨members, hmembers, hordered, hmem⟩
  rw [hmembers] at h
  rcases Json.shuffled_obj_iff.1 h with ⟨others, shuffled, rfl, hothers, hperm⟩
  have hkeys := Json.perm_keys hothers hperm
  refine ⟨shuffled, rfl, hkeys.nodup_iff.1 hordered.nodup_keys, fun key w hw => ?_,
    fun field v hvalue => ?_⟩
  · -- What is written has been a member before the order was changed.
    have hpartner : ∀ other ∈ others, ∃ entry ∈ members,
        entry.1 = other.1 ∧ Json.Shuffled entry.2 other.2 :=
      forall_mem_of_forall₂ hothers.flip fun other _ entry hentry hpair => ⟨entry, hentry, hpair⟩
    rcases hpartner _ (hperm.mem_iff.2 hw) with ⟨⟨_, v⟩, hentry, rfl, hshuffled⟩
    rcases (hmem _ _).1 hentry with ⟨field, hkey, hvalue⟩
    exact ⟨field, hkey, v, hvalue, hshuffled⟩
  · refine hkeys.mem_iff.1 (List.mem_map.2 ⟨(field.key, v), ?_, rfl⟩)
    exact (hmem _ _).2 ⟨field, rfl, hvalue⟩

/-- What is written has the keys of the fields that are set, each once. -/
theorem keys_of_shuffled (h : Json.Shuffled properties.toJson written) :
    ∃ entries, written = .obj entries ∧ (entries.map Prod.fst).Perm
      ((Field.all.filter fun field => (properties.value? field).isSome).map Field.key) := by
  rcases entries_of_shuffled h with ⟨entries, rfl, hnodup, hentries, hset⟩
  have hfields : (Field.all.filter fun field => (properties.value? field).isSome).Nodup :=
    List.Nodup.filter _ (by decide)
  refine ⟨entries, rfl, ?_⟩
  rw [List.perm_ext_iff_of_nodup hnodup (hfields.map Field.key_injective)]
  intro key
  constructor
  · intro hmem
    rcases List.mem_map.1 hmem with ⟨⟨_, w⟩, hentry, rfl⟩
    rcases hentries _ _ hentry with ⟨field, hkey, v, hvalue, -⟩
    refine List.mem_map.2 ⟨field, List.mem_filter.2 ⟨field.mem_all, ?_⟩, hkey⟩
    rw [hvalue]
    rfl
  · intro hmem
    rcases List.mem_map.1 hmem with ⟨field, hfield, rfl⟩
    rcases Option.isSome_iff_exists.1 (List.mem_filter.1 hfield).2 with ⟨v, hvalue⟩
    exact hset field v hvalue

/-- What is written records the properties, and assigns to no field twice. -/
theorem records_of_shuffled (h : Json.Shuffled properties.toJson written) :
    Records written properties ∧ ¬Repeats written := by
  rcases entries_of_shuffled h with ⟨entries, rfl, hnodup, hentries, hset⟩
  refine ⟨⟨trivial, ?_, fun field habsent => ?_⟩, not_not.2 (nodup_known hnodup)⟩
  · rintro ⟨field, w⟩ hmem
    rcases hentries _ _ (mem_known_iff.1 hmem) with ⟨other, hkey, v, hvalue, hshuffled⟩
    cases Field.key_injective hkey
    obtain ⟨hfits, hcontent⟩ := fits_of_shuffled hvalue hshuffled
    exact ⟨hfits, hvalue.trans hcontent.symm⟩
  · by_contra hvalue
    rcases Option.ne_none_iff_exists'.1 hvalue with ⟨v, hvalue⟩
    rcases List.mem_map.1 (hset field v hvalue) with ⟨⟨_, w⟩, hmem, rfl⟩
    exact habsent (List.mem_map.2 ⟨(field, w), mem_known_iff.2 hmem, rfl⟩)

/-- The text of what is written can be read back. -/
theorem verbatim_of_shuffled (h : Json.Shuffled properties.toJson written) :
    Json.Verbatim written.compact written := by
  rcases entries_of_shuffled h with ⟨entries, rfl, -, hentries, -⟩
  refine Json.verbatim_compact (@Json.reads_obj (Json.maxDepth - 1) _ ?_)
  rintro ⟨key, w⟩ hmem
  rcases hentries _ _ hmem with ⟨field, -, v, hvalue, hshuffled⟩
  obtain ⟨hfits, hcontent⟩ := fits_of_shuffled hvalue hshuffled
  cases hfits with
  | null => cases hcontent -- A field that is set has content.
  | text _ text => exact Json.reads_str _ text
  | settings htexts => exact reads_of_texts _ htexts

end

end Properties

end TableClient
