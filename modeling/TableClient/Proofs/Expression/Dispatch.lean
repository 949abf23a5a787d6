import TableClient.Command.Basic
import TableClient.Proofs.Expression.Fields
import TableClient.Proofs.Json.ReadBack

/-!
# Conditions and Queries Told Apart

Which of the two readers a text is given to, and why it does not matter for
what is accepted.

The choice is made by a look at the tag, which says nothing about whether the
rest is in order. It is safe all the same. No value with the tag of a query has
the form of a condition, since the form asks for another tag, or for a string,
at the top. So no value is read both as a query and as a condition, and whoever
tried the condition first would accept the same expressions.

What the choice does decide is the error. A value with the tag of a query is
judged by its fields and never as a condition. Every other value is judged as a
condition, so that nobody is told that it lacks the tag of a query.

## Main definitions

* `Query.Tagged`: A value has the tag of a query.
* `Expression.Spells`: A value is read as an expression of either kind.
* `Expression.ofJsonConditionFirst`: Reading a value as a condition, and as a
  query if that fails.

## Theorems

* `Tagged.not_negates`, `Tagged.not_groups`, `not_form_of_tagged`: With the tag of a query a value is no condition.
* `not_spells_both`: No value is read as both.
* `ofJson_eq_ok_iff_spells`: What is accepted, with the look at the tag.
* `ofJsonConditionFirst_eq_ok_iff`: The same without it.
* `ofJson_of_tagged`, `ofJson_of_not_tagged`: Whose error is reported.
* `readExpression_dispatch`: What reading an expression from a text ends with.
-/

namespace TableClient

open Expression (Error)

namespace Query

/-- A value has the tag of a query. -/
def Tagged (value : Json) : Prop :=
  ∃ kind : Kind, value.tag? = some kind.tag

theorem hasTag_iff_tagged {value : Json} : hasTag value = true ↔ Tagged value := by
  simp only [hasTag, Option.isSome_iff_exists, kindOf?_eq_some_iff, Tagged]

theorem tagged_of_denotes {value : Json} {query : Query} (h : Denotes value query) :
    Tagged value := by
  cases h with
  | select htag => exact ⟨.select, htag⟩
  | filter htag => exact ⟨.filter, htag⟩
  | orderBy htag => exact ⟨.orderBy, htag⟩

theorem Tagged.not_negates {value content : Json} (h : Tagged value) : ¬value.Negates content := by
  rcases h with ⟨kind, htag⟩
  intro hnegates
  have heq : "Not" = kind.tag := Option.some.inj (hnegates.1.symm.trans htag)
  cases kind <;> exact absurd heq (by decide)

theorem Tagged.not_groups {value : Json} {connective : Connective} {items : List Json}
    (h : Tagged value) : ¬value.Groups connective items := by
  rcases h with ⟨kind, htag⟩
  intro hgroups
  have heq : connective.tag = kind.tag := Option.some.inj (hgroups.1.symm.trans htag)
  cases connective <;> cases kind <;> exact absurd heq (by decide)

/-- With the tag of a query a value does not have the form of a condition. -/
theorem not_form_of_tagged {value : Json} (h : Tagged value) : ¬Condition.Form value := by
  intro hform
  cases hform with
  | literal text =>
      rcases h with ⟨kind, htag⟩
      cases htag
  | not hnegates => exact h.not_negates hnegates
  | group hgroups => exact h.not_groups hgroups

end Query

namespace Expression

/-- A value is read as an expression, by the reader of its kind. -/
def Spells (value : Json) : Expression → Prop
  | .condition c => Condition.ofJson value = .ok c
  | .query q => Query.ofJson value = .ok q

/-- The expression a value spells when it is tried as a condition first and as a
    query only if that fails. -/
def ofJsonConditionFirst (value : Json) : Except Error Expression :=
  match Condition.ofJson value with
  | .ok c => .ok (.condition c)
  | .error _ => (Query.ofJson value).map .query

theorem not_tagged_of_ofJson {value : Json} {c : Condition} (h : Condition.ofJson value = .ok c) :
    ¬Query.Tagged value := by
  intro htagged
  exact Query.not_form_of_tagged htagged (Condition.exists_ofJson_eq_ok_iff.1 ⟨c, h⟩).1

theorem tagged_of_ofJson {value : Json} {q : Query} (h : Query.ofJson value = .ok q) :
    Query.Tagged value :=
  Query.tagged_of_denotes (Query.ofJson_eq_ok_iff.1 h)

/-- No value is read both as a query and as a condition. -/
theorem not_spells_both {value : Json} {q : Query} {c : Condition} :
    ¬(Query.ofJson value = .ok q ∧ Condition.ofJson value = .ok c) := by
  rintro ⟨hquery, hcondition⟩
  exact not_tagged_of_ofJson hcondition (tagged_of_ofJson hquery)

/-- A value with the tag of a query is judged as one. -/
theorem ofJson_of_tagged {value : Json} (h : Query.Tagged value) :
    ofJson value = (Query.ofJson value).map .query := by
  rw [ofJson, if_pos (Query.hasTag_iff_tagged.2 h)]

/-- Every other value is judged as a condition. -/
theorem ofJson_of_not_tagged {value : Json} (h : ¬Query.Tagged value) :
    ofJson value = (Condition.ofJson value).map .condition := by
  rw [ofJson, if_neg fun htag => h (Query.hasTag_iff_tagged.1 htag)]

/-- What is accepted is what one of the readers accepts. -/
theorem ofJson_eq_ok_iff_spells {value : Json} {e : Expression} :
    ofJson value = .ok e ↔ Spells value e := by
  by_cases htagged : Query.Tagged value
  · -- Only the reader of queries is asked, and the other would have refused.
    rw [ofJson_of_tagged htagged, map_eq_ok]
    cases e with
    | condition c =>
        refine ⟨fun ⟨_, _, h⟩ => (nomatch h), fun h => ?_⟩
        exact absurd htagged (not_tagged_of_ofJson h)
    | query q => simp [Spells]
  · rw [ofJson_of_not_tagged htagged, map_eq_ok]
    cases e with
    | condition c => simp [Spells]
    | query q =>
        refine ⟨fun ⟨_, _, h⟩ => (nomatch h), fun h => ?_⟩
        exact absurd (tagged_of_ofJson h) htagged

/-- The same is accepted when the condition is tried first. -/
theorem ofJsonConditionFirst_eq_ok_iff {value : Json} {e : Expression} :
    ofJsonConditionFirst value = .ok e ↔ Spells value e := by
  unfold ofJsonConditionFirst
  cases hread : Condition.ofJson value with
  | ok c =>
      cases e with
      | condition c' => simp [Spells, hread]
      | query q =>
          refine ⟨fun h => (nomatch h), fun h => ?_⟩
          exact absurd ⟨h, hread⟩ not_spells_both
  | error error =>
      simp only [map_eq_ok]
      cases e with
      | condition c => simp [Spells, hread]
      | query q => simp [Spells]

/-- Nothing is reported for the lack of the tag of a query. -/
theorem ofJson_ne_notQuery (value other : Json) : ofJson value ≠ .error (.notQuery other) := by
  intro h
  by_cases htagged : Query.Tagged value
  · rw [ofJson_of_tagged htagged] at h
    cases hread : Query.ofJson value with
    | ok q => rw [hread] at h; cases h
    | error error =>
        rw [hread] at h
        cases h
        rcases htagged with ⟨kind, htag⟩
        exact (Query.ofJson_eq_notQuery_iff.1 hread).2 kind htag
  · rw [ofJson_of_not_tagged htagged] at h
    have hverdict := Condition.ofJson_verdict value
    generalize Condition.ofJson value = result at h hverdict
    cases hverdict <;> cases h

end Expression

namespace Command

theorem readExpression_of_parse {text : String} {value : Json}
    (h : Json.parse text = .ok value) :
    readExpression text = (Expression.ofJson value).mapError .expression := by
  rw [readExpression, h]

theorem readExpression_eq_ok_iff {text : String} {value : Json} {e : Expression}
    (h : Json.parse text = .ok value) :
    readExpression text = .ok e ↔ Expression.Spells value e := by
  rw [readExpression_of_parse h, ← Expression.ofJson_eq_ok_iff_spells]
  cases Expression.ofJson value <;> simp [Except.mapError]

/-- What reading an expression from a text ends with. A text that is no value is
    reported as such. A value is read as a query just if it spells one and as a
    condition just if it spells one; it never spells both, so to try the
    condition first accepts the same. If it spells neither, the error is the one
    for a query if it has the tag of a query, and the one for a condition if
    not. Nothing is reported for the lack of the tag, and nothing with the tag
    is read as a condition. -/
theorem readExpression_dispatch (text : String) :
    (∀ error, Json.parse text = .error error → readExpression text = .error (.json error)) ∧
    ∀ value, Json.parse text = .ok value →
      (∀ q, readExpression text = .ok (.query q) ↔ Query.ofJson value = .ok q) ∧
      (∀ c, readExpression text = .ok (.condition c) ↔ Condition.ofJson value = .ok c) ∧
      (∀ q c, ¬(Query.ofJson value = .ok q ∧ Condition.ofJson value = .ok c)) ∧
      (∀ e, readExpression text = .ok e ↔ Expression.ofJsonConditionFirst value = .ok e) ∧
      (∀ queryError conditionError, Query.ofJson value = .error queryError →
        Condition.ofJson value = .error conditionError →
        (Query.Tagged value → readExpression text = .error (.expression queryError)) ∧
        (¬Query.Tagged value → readExpression text = .error (.expression conditionError))) ∧
      (∀ other, readExpression text ≠ .error (.expression (.notQuery other))) ∧
      (Query.Tagged value → ∀ c, readExpression text ≠ .ok (.condition c)) := by
  refine ⟨fun error h => by rw [readExpression, h], fun value h => ?_⟩
  refine ⟨fun q => readExpression_eq_ok_iff h, fun c => readExpression_eq_ok_iff h,
    fun q c => Expression.not_spells_both, fun e => ?_, ?_, fun other hread => ?_, ?_⟩
  · rw [readExpression_eq_ok_iff h, Expression.ofJsonConditionFirst_eq_ok_iff]
  · intro queryError conditionError hquery hcondition
    rw [readExpression_of_parse h]
    constructor
    · intro htagged
      rw [Expression.ofJson_of_tagged htagged, hquery]
      rfl
    · intro htagged
      rw [Expression.ofJson_of_not_tagged htagged, hcondition]
      rfl
  · rw [readExpression_of_parse h] at hread
    cases hvalue : Expression.ofJson value with
    | ok e => rw [hvalue] at hread; cases hread
    | error error =>
        rw [hvalue] at hread
        cases hread
        exact Expression.ofJson_ne_notQuery value other hvalue
  · intro htagged c hread
    have hcondition : Condition.ofJson value = .ok c := (readExpression_eq_ok_iff h).1 hread
    exact Expression.not_tagged_of_ofJson hcondition htagged

/-- A filter that lacks its dataset is reported as a filter, an object with a tag
    of no meaning as no condition, and a text that breaks off as no value. -/
theorem readExpression_dispatch_malformed :
    (∃ error, Json.parse "[" = .error error ∧ readExpression "[" = .error (.json error)) ∧
    Json.parse "\x7b\"selectRow\":\"TRUE\",\"type\":\"Filter\"\x7d"
      = .ok (.obj [("selectRow", .str "TRUE"), ("type", .str "Filter")]) ∧
    readExpression "\x7b\"selectRow\":\"TRUE\",\"type\":\"Filter\"\x7d"
      = .error (.expression (.missingField "Filter" "dataset")) ∧
    Json.parse "\x7b\"type\":\"Nor\"\x7d" = .ok (.obj [("type", .str "Nor")]) ∧
    readExpression "\x7b\"type\":\"Nor\"\x7d"
      = .error (.expression (.notCondition (.obj [("type", .str "Nor")]))) := by
  have hfilter : Json.parse "\x7b\"selectRow\":\"TRUE\",\"type\":\"Filter\"\x7d"
      = .ok (.obj [("selectRow", .str "TRUE"), ("type", .str "Filter")]) := by
    have htext : (Json.obj [("selectRow", .str "TRUE"), ("type", .str "Filter")]).compact
        = "\x7b\"selectRow\":\"TRUE\",\"type\":\"Filter\"\x7d" := by decide +kernel
    rw [← htext]
    exact Json.parse_compact (.obj (by decide) (by simp [Json.Textual.str])) (by decide)
  have hnor : Json.parse "\x7b\"type\":\"Nor\"\x7d" = .ok (.obj [("type", .str "Nor")]) := by
    have htext : (Json.obj [("type", .str "Nor")]).compact = "\x7b\"type\":\"Nor\"\x7d" := by
      decide +kernel
    rw [← htext]
    exact Json.parse_compact (.obj (by decide) (by simp [Json.Textual.str])) (by decide)
  have htagged : Query.Tagged (.obj [("selectRow", .str "TRUE"), ("type", .str "Filter")]) :=
    ⟨.filter, rfl⟩
  have huntagged : ¬Query.Tagged (.obj [("type", .str "Nor")]) := by
    rw [← Query.hasTag_iff_tagged]
    decide
  have hbreaks : (Json.parse "[").toOption.isNone = true := by decide +kernel
  refine ⟨?_, hfilter, ?_, hnor, ?_⟩
  · cases hparse : Json.parse "[" with
    | ok value => rw [hparse] at hbreaks; cases hbreaks
    | error error => exact ⟨error, rfl, (readExpression_dispatch "[").1 error hparse⟩
  · exact (((readExpression_dispatch _).2 _ hfilter).2.2.2.2.1 _ _ rfl rfl).1 htagged
  · exact (((readExpression_dispatch _).2 _ hnor).2.2.2.2.1 _ _ rfl rfl).2 huntagged

end Command

end TableClient
