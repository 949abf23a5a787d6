import TableClient.Proofs.Properties.Order
import TableClient.Proofs.Properties.Reading

/-!
# Layers of Properties

Texts of properties laid over each other, one after the other.

A text of which no properties can be read leaves everything as it is. Any other
replaces the fields that it sets. It sets a field if it gives it a value that is no
null, and what the field then holds is that value alone, whatever it held before: the
settings of two layers are never mixed.

One layer is one step, told field by field in `value?_laid`. A field after any number
of layers is that of the last one that sets it, by induction over the layers from the
last to the first. Laying a number of layers over a state is laying over it what they
make by themselves, so any stretch of them can be put together first.

## Main definitions

* `laid`, `layered`: A state with one more layer, and all layers over nothing.
* `Sets`: A text sets a field to a value.
* `Json.overlaid`: An object with the members of another one put in.

## Theorems

* `sets_iff`: What a text sets is what is read from it.
* `value?_laid`: One layer.
* `value?_layered`: Any number of layers.
* `foldl_laid`: Layers are laid over a state as one.
* `toJson_merged`: Merging lays one object over the other.
* `layers_merge`: What layers come to, and which changes to them do not matter.
-/

namespace TableClient

namespace Json

/-- An object with the members of another one put in, key by key. -/
def overlaid : Json → Json → Json
  | .obj base, .obj overrides => .obj (Dictionary.overlaid base overrides)
  | base, _ => base

end Json

namespace Properties

/-- A state with the properties of a text laid over it, if there are any. -/
def laid (state : Properties) (text : String) : Properties :=
  match read text with
  | .ok properties => state.merged properties
  | .error _ => state

/-- What layers come to, from the bottom to the top. -/
def layered (layers : List String) : Properties :=
  layers.foldl laid empty

/-- Properties can be read from a text, which gives a field a value that is no null;
    the value holds the content. -/
def Sets (text : String) (field : Field) (content : Json) : Prop :=
  (∃ properties, read text = .ok properties) ∧
    ∃ v given, Glimpsed text v ∧ (field, given) ∈ assignments v ∧ content? given = some content

/-! ### One layer -/

/-- What is read of a text holds what the text assigns. -/
theorem records_of_read {text : String} {v : Json} {properties : Properties}
    (hread : read text = .ok properties) (hv : Glimpsed text v) : Records v properties := by
  obtain ⟨hjudge, hrepeats⟩ := (read_eq_ok_iff_of_glimpsed hv).1 hread
  exact (ofJson_eq_ok_iff hrepeats).1 hjudge

/-- What a text sets is what is read from it. -/
theorem sets_iff {text : String} {field : Field} {content : Json} :
    Sets text field content ↔
      ∃ properties, read text = .ok properties ∧ properties.value? field = some content := by
  constructor
  · rintro ⟨⟨properties, hread⟩, v, given, hv, hmem, hcontent⟩
    have hrecords := records_of_read hread hv
    exact ⟨properties, hread, (hrecords.given _ hmem).2.trans hcontent⟩
  · rintro ⟨properties, hread, hvalue⟩
    rcases read_eq_ok_iff.1 hread with ⟨v, hv, -⟩
    have hrecords := records_of_read hread hv
    have hassigned : field ∈ (assignments v).map Prod.fst := by
      by_contra habsent
      rw [hrecords.absent field habsent] at hvalue
      cases hvalue
    rcases List.mem_map.1 hassigned with ⟨⟨_, given⟩, hmem, rfl⟩
    exact ⟨⟨properties, hread⟩, v, given, hv, hmem, (hrecords.given _ hmem).2.symm.trans hvalue⟩

/-- After one more layer a field holds what the layer sets it to, or what it held. -/
theorem value?_laid {state : Properties} {text : String} {field : Field} {content : Json} :
    (laid state text).value? field = some content ↔
      Sets text field content ∨
        (∀ other, ¬Sets text field other) ∧ state.value? field = some content := by
  unfold laid
  simp only [sets_iff]
  cases hread : read text with
  | error fault => simp
  | ok properties =>
      simp only [Except.ok.injEq, exists_eq_left', value?_merged, Option.or_eq_some_iff,
        Option.eq_none_iff_forall_ne_some]

theorem value?_laid_eq_none {state : Properties} {text : String} {field : Field} :
    (laid state text).value? field = none ↔
      (∀ content, ¬Sets text field content) ∧ state.value? field = none := by
  unfold laid
  simp only [sets_iff]
  cases hread : read text with
  | error fault => simp
  | ok properties =>
      simp only [Except.ok.injEq, exists_eq_left', value?_merged, Option.or_eq_none_iff]
      exact and_congr_left' Option.eq_none_iff_forall_ne_some

/-- A null leaves a field as it is. -/
theorem value?_laid_of_null {text : String} {v : Json} {field : Field} (hv : Glimpsed text v)
    (hnull : (field, Json.null) ∈ assignments v) (state : Properties) :
    (laid state text).value? field = state.value? field := by
  unfold laid
  cases hread : read text with
  | error fault => rfl
  | ok properties =>
      have hnone : properties.value? field = none := ((records_of_read hread hv).given _ hnull).2
      rw [value?_merged, hnone, Option.none_or]

theorem layered_concat (layers : List String) (text : String) :
    layered (layers ++ [text]) = laid (layered layers) text :=
  List.foldl_append

/-! ### All layers -/

/-- A field holds what the last layer that sets it has for it. -/
theorem value?_layered {layers : List String} {field : Field} {content : Json} :
    (layered layers).value? field = some content ↔
      ∃ before text after, layers = before ++ text :: after ∧ Sets text field content ∧
        ∀ later ∈ after, ∀ other, ¬Sets later field other := by
  induction layers using List.reverseRecOn with
  | nil =>
      refine iff_of_false ?_ ?_
      · rw [layered, List.foldl_nil, value?_empty]
        rintro ⟨⟩
      · rintro ⟨before, text, after, h, -⟩
        cases before <;> cases h
  | append_singleton layers top ih =>
      rw [layered_concat, value?_laid, ih]
      constructor
      · rintro (hsets | ⟨hnone, before, text, after, rfl, hsets, hlater⟩)
        · exact ⟨layers, top, [], rfl, hsets, List.forall_mem_nil _⟩
        · refine ⟨before, text, after ++ [top], by simp, hsets, fun later hmem => ?_⟩
          rcases List.mem_append.1 hmem with hmem | hmem
          · exact hlater later hmem
          · rw [List.mem_singleton.1 hmem]
            exact hnone
      · rintro ⟨before, text, after, h, hsets, hlater⟩
        -- The last layer that sets the field is the top one or is below it.
        rcases List.eq_nil_or_concat' after with rfl | ⟨after, last, rfl⟩
        · obtain ⟨-, htop⟩ := List.append_inj' h rfl
          cases htop
          exact .inl hsets
        · rw [← List.cons_append, ← List.append_assoc] at h
          obtain ⟨hlayers, htop⟩ := List.append_inj' h rfl
          cases htop
          have hnone := hlater top (List.mem_append_right _ List.mem_cons_self)
          exact .inr ⟨hnone, before, text, after, hlayers, hsets, fun later hmem =>
            hlater later (List.mem_append_left _ hmem)⟩

/-- A field holds nothing if no layer sets it. -/
theorem value?_layered_eq_none {layers : List String} {field : Field} :
    (layered layers).value? field = none ↔
      ∀ text ∈ layers, ∀ content, ¬Sets text field content := by
  induction layers using List.reverseRecOn with
  | nil =>
      rw [layered, List.foldl_nil, value?_empty]
      exact iff_of_true rfl (List.forall_mem_nil _)
  | append_singleton layers top ih =>
      rw [layered_concat, value?_laid_eq_none, ih]
      simp only [List.mem_append, List.mem_singleton, or_imp, forall_and, forall_eq]
      exact and_comm

/-- Layers are laid over a state as the one layer that they make by themselves. -/
theorem foldl_laid (state : Properties) (layers : List String) :
    layers.foldl laid state = state.merged (layered layers) := by
  induction layers using List.reverseRecOn with
  | nil => exact (merged_empty state).symm
  | append_singleton layers top ih =>
      rw [List.foldl_append, ih, layered_concat]
      simp only [List.foldl_cons, List.foldl_nil, laid]
      cases read top with
      | error fault => rfl
      | ok properties => exact merged_assoc _ _ _

/-- Texts of which nothing can be read may be left out. -/
theorem layered_filter (layers : List String) :
    layered (layers.filter fun text => (read text).isOk) = layered layers := by
  rw [layered, List.foldl_filter, layered]
  refine List.foldl_ext _ _ _ fun state text _ => ?_
  unfold laid
  cases read text <;> rfl

/-! ### The values -/

/-- The members of merged properties are those on top, laid over those below. -/
theorem toJson_merged (base overrides : Properties) :
    (base.merged overrides).toJson = base.toJson.overlaid overrides.toJson := by
  rcases base.toJson_eq_obj with ⟨lower, hlower, hlowerOrdered, -⟩
  rcases overrides.toJson_eq_obj with ⟨upper, hupper, hupperOrdered, -⟩
  rcases (base.merged overrides).toJson_eq_obj with ⟨members, hmembers, hordered, -⟩
  -- Both sides are dictionaries, so it is enough to look up every key in them.
  have hfound : ∀ (properties : Properties) (entries : List (String × Json)),
      properties.toJson = .obj entries → ∀ key, Dictionary.get? key entries
        = (Field.ofKey? key).bind properties.value? := by
    intro properties entries h key
    rw [← member?_toJson, h]
    rfl
  rw [hmembers, hlower, hupper, Json.overlaid]
  refine congrArg Json.obj (Dictionary.eq_of_get? hordered
    (Dictionary.ordered_overlaid upper hlowerOrdered) fun key => ?_)
  rw [Dictionary.get?_overlaid hupperOrdered.nodup_keys, hfound _ _ hmembers, hfound _ _ hlower,
    hfound _ _ hupper]
  cases Field.ofKey? key with
  | none => rfl
  | some field => exact value?_merged base overrides field

/-- After any layers a field holds what the last layer that sets it gives for it, the
    settings as a whole, and nothing if no layer sets it; a null sets nothing. Layers of
    which nothing can be read may be left out, and any stretch of layers may be put
    together first. As values, merged properties are the one object with the members of
    the other put in. -/
theorem layers_merge (layers : List String) :
    (∀ field content, (layered layers).value? field = some content ↔
      ∃ before text after, layers = before ++ text :: after ∧ Sets text field content ∧
        ∀ later ∈ after, ∀ other, ¬Sets later field other) ∧
    (∀ field, (layered layers).value? field = none ↔
      ∀ text ∈ layers, ∀ content, ¬Sets text field content) ∧
    (∀ text v field, Glimpsed text v → (field, Json.null) ∈ assignments v →
      (layered (layers ++ [text])).value? field = (layered layers).value? field) ∧
    layered (layers.filter fun text => (read text).isOk) = layered layers ∧
    (∀ before block after, layers = before ++ block ++ after →
      after.foldl laid ((layered before).merged (layered block)) = layered layers) ∧
    ∀ base overrides : Properties,
      (base.merged overrides).toJson = base.toJson.overlaid overrides.toJson := by
  refine ⟨fun _ _ => value?_layered, fun _ => value?_layered_eq_none,
    fun text v field hv hnull => ?_, layered_filter layers, ?_, toJson_merged⟩
  · rw [layered_concat]
    exact value?_laid_of_null hv hnull _
  · rintro before block after rfl
    rw [← foldl_laid, layered, layered, List.foldl_append, List.foldl_append]

/-- A null on top leaves what is below it, and the settings on top replace those
    below. -/
theorem layers_merge_null :
    (layered ["\x7b\"Locale\":\"en\",\"UserSettings\":\x7b\"a\":\"1\"\x7d\x7d",
        "\x7b\"Locale\":null,\"UserSettings\":\x7b\"b\":\"2\"\x7d\x7d"]).value? .locale
      = some (.str "en") ∧
    (layered ["\x7b\"Locale\":\"en\",\"UserSettings\":\x7b\"a\":\"1\"\x7d\x7d",
        "\x7b\"Locale\":null,\"UserSettings\":\x7b\"b\":\"2\"\x7d\x7d"]).value? .userSettings
      = some (.obj [("b", .str "2")]) := by
  have hspelled : ∀ (locale : Json) (key text : String),
      Json.Reads (Json.verbatim (Json.maxDepth - 1)) locale →
      Json.Verbatim
        (Json.obj [("Locale", locale), ("UserSettings", .obj [(key, .str text)])]).compact
        (.obj [("Locale", locale), ("UserSettings", .obj [(key, .str text)])]) := by
    intro locale key text hlocale
    have htexts : OfTexts [(key, .str text)] := List.forall_mem_singleton.2 ⟨text, rfl⟩
    refine Json.verbatim_compact (@Json.reads_obj (Json.maxDepth - 1) _ ?_)
    exact List.forall_mem_cons.2 ⟨hlocale, List.forall_mem_singleton.2 (reads_of_texts _ htexts)⟩
  have htextLower :
      (Json.obj [("Locale", .str "en"), ("UserSettings", .obj [("a", .str "1")])]).compact
        = "\x7b\"Locale\":\"en\",\"UserSettings\":\x7b\"a\":\"1\"\x7d\x7d" := rfl
  have htextUpper :
      (Json.obj [("Locale", .null), ("UserSettings", .obj [("b", .str "2")])]).compact
        = "\x7b\"Locale\":null,\"UserSettings\":\x7b\"b\":\"2\"\x7d\x7d" := rfl
  have hlower := hspelled (.str "en") "a" "1" (Json.reads_str _ "en")
  have hupper := hspelled .null "b" "2" (Json.reads_null _)
  rw [htextLower] at hlower
  rw [htextUpper] at hupper
  have hreadLower := (read_eq_ok_iff_of_verbatim hlower).2 ⟨rfl, not_not.2 (by decide)⟩
  have hreadUpper := (read_eq_ok_iff_of_verbatim hupper).2 ⟨rfl, not_not.2 (by decide)⟩
  constructor
  · refine ((layers_merge [_]).2.2.1 _ _ .locale (glimpsed_obj hupper) ?_).trans ?_
    · rw [assignments, known_masked]
      exact mem_known_iff.2 List.mem_cons_self
    · exact ((layers_merge _).1 _ _).2
        ⟨[], _, [], rfl, sets_iff.2 ⟨_, hreadLower, rfl⟩, List.forall_mem_nil _⟩
  · exact ((layers_merge _).1 _ _).2
      ⟨[_], _, [], rfl, sets_iff.2 ⟨_, hreadUpper, rfl⟩, List.forall_mem_nil _⟩

end Properties

end TableClient
