import TableClient.Properties.Text
import TableClient.Proofs.Json.Skipped
import TableClient.Proofs.Json.Verbatim
import TableClient.Proofs.Properties.Fields

/-!
# What Is Read of Properties

Reading properties straight from a text, told by the values in the text.

The reader judges each property as it comes to it. What it makes of a property can
be told from the value that stands there: a reader that `Judges` reads the value with
all its entries and hands it to the judge, which is the reader of properties from a
value. The object around them is then a loop that keeps the values, followed by one
assignment for each, and so is the array.

The values of other members are skipped. The skipper passes over values that could not
be read, so a text need not spell a value for properties to be read from it. What the
reader looks at is `Glimpsed`: the entries of the object, with nothing said about the
values under other keys, or the items of the array. `read_eq_ok_iff` says that what is
read is what the glimpsed value says, as long as it assigns to no field twice.

A text that spells a value is glimpsed with the same assignments, for what can be read
can be skipped.

## Main definitions

* `Judges`: A reader that is a reader of values followed by a judgement.
* `noted`: Reads the values of known members and skips the others.
* `Glimpsed`: A text as far as the reader looks at it.

## Theorems

* `stringValue_judges`, `optional_judges`, `readSettings_judges`, `readField_judges`:
  The readers of a property.
* `readItems_eq_ok_iff`: The loop over items.
* `read_eq_ok_iff`: What is read is what is glimpsed.
* `read_eq_ok_iff_of_verbatim`: What is read of a text that spells a value.
-/

namespace TableClient

open Json (Fault Reader Wanted)

namespace Json

theorem refuse_ne_ok {α : Type} {wanted : Wanted} {text rest : List Char} {a : α} :
    refuse wanted text ≠ .ok (a, rest) := by
  intro h
  unfold refuse at h
  split at h
  · cases h
  · cases h
  · simp only [bind_eq_ok] at h
    rcases h with ⟨_, -, h⟩
    cases h

/-- Where a value starts with the first letter of a null there is a null. -/
theorem verbatim_eq_null {depth : Nat} {text inside rest : List Char} {v : Json}
    (hopen : skipBlanks text = 'n' :: inside) (h : verbatim depth text = .ok (v, rest)) :
    v = .null := by
  have hnode : ∀ array object : Reader Json, node array object text = .ok (v, rest) →
      v = .null := by
    intro array object h
    rw [node, hopen] at h
    change (word _ inside >>= _) = _ at h
    rcases bind_eq_ok.1 h with ⟨_, -, h⟩
    cases h
    rfl
  cases depth <;> exact hnode _ _ h

theorem nextItem_end_iff {first : Bool} {text rest : List Char} :
    nextItem first text = .ok (false, rest) ↔ skipBlanks text = ']' :: rest := by
  constructor
  · intro h
    unfold nextItem at h
    split at h
    · cases h
    · rename_i behind hclose
      cases h
      exact hclose
    -- Behind a comma, or without one, there is an item or a failure.
    · split at h
      · cases h
      · split at h <;> cases h
    · split at h <;> cases h
  · intro h
    unfold nextItem
    rw [h]
    rfl

/-- How many rounds a loop over items may take does not matter to what it reads. -/
theorem items_unique {α : Type} {item : Reader α} {bound bound' : List Char} {first : Bool}
    {text : List Char} {read read' : List α × List Char}
    (h : items item bound first text = .ok read) (h' : items item bound' first text = .ok read') :
    read = read' := by
  induction bound generalizing bound' first text read read' with
  | nil => cases h
  | cons c bound ih =>
      rcases bound' with _ | ⟨c', bound'⟩
      · cases h'
      · rcases read with ⟨xs, rest⟩
        rcases read' with ⟨xs', rest'⟩
        -- Both take the same round, as the bounds have no say in it.
        rcases items_round.1 h with ⟨hnext, rfl⟩ | ⟨front, x, behind, later, hnext, hx, hlater, rfl⟩
        · rcases items_round.1 h' with ⟨hnext', rfl⟩ | ⟨_, _, _, _, hnext', -, -, -⟩
          · cases hnext.symm.trans hnext'
            rfl
          · cases hnext.symm.trans hnext'
        · rcases items_round.1 h' with ⟨hnext', -⟩ | ⟨_, _, _, _, hnext', hx', hlater', rfl⟩
          · cases hnext.symm.trans hnext'
          · cases hnext.symm.trans hnext'
            cases hx.symm.trans hx'
            cases ih hlater hlater'
            rfl

end Json

namespace Properties

/-! ### The readers of a property -/

/-- A reader reads the value that stands in a text and judges it. -/
def Judges {α : Type} (depth : Nat) (reader : Reader α) (judge : Json → Except Fault α) : Prop :=
  ∀ text a rest, reader text = .ok (a, rest) ↔
    ∃ v, Json.verbatim depth text = .ok (v, rest) ∧ judge v = .ok a

theorem stringValue_judges (depth : Nat) : Judges depth Json.stringValue textOfJson := by
  intro text content rest
  have hjudge : ∀ v, textOfJson v = .ok content ↔ v = .str content := by
    intro v
    cases v with
    | str other => exact ⟨fun h => congrArg Json.str (Except.ok.inj h), fun h => by cases h; rfl⟩
    | _ => exact iff_of_false (by rintro ⟨⟩) (by rintro ⟨⟩)
  simp only [hjudge, exists_eq_right, Json.verbatim_str_iff]
  unfold Json.stringValue
  split
  · rename_i inside hopen
    rw [hopen]
    constructor
    · exact fun h => ⟨inside, rfl, h⟩
    · rintro ⟨_, hinside, h⟩
      cases hinside
      exact h
  · rename_i hquote
    refine iff_of_false Json.refuse_ne_ok ?_
    rintro ⟨inside, hopen, -⟩
    exact hquote inside hopen

theorem optionalOfJson_of_ne_null {α : Type} {read : Json → Except Fault α} {v : Json}
    (h : v ≠ .null) : optionalOfJson read v = (read v).map some := by
  cases v with
  | null => exact absurd rfl h
  | _ => rfl

theorem optional_judges {α : Type} {depth : Nat} {reader : Reader α}
    {judge : Json → Except Fault α} (h : Judges depth reader judge) :
    Judges depth (Json.optional reader) (optionalOfJson judge) := by
  intro text a rest
  unfold Json.optional
  split
  · rename_i inside hopen
    rw [bind_eq_ok]
    constructor
    · rintro ⟨_, hword, h⟩
      cases h
      exact ⟨.null, Json.verbatim_null_iff.2 ⟨inside, hopen, hword⟩, rfl⟩
    · rintro ⟨v, hread, hjudge⟩
      cases Json.verbatim_eq_null hopen hread
      cases hjudge
      rcases Json.verbatim_null_iff.1 hread with ⟨_, hinside, hword⟩
      cases hopen.symm.trans hinside
      exact ⟨rest, hword, rfl⟩
  · rename_i hnull
    -- There is no null here, so the value is left to the judge.
    have hother : ∀ v, Json.verbatim depth text = .ok (v, rest) → v ≠ .null := by
      rintro _ hread rfl
      rcases Json.verbatim_null_iff.1 hread with ⟨inside, hopen, -⟩
      exact hnull inside hopen
    simp only [bind_eq_ok, Prod.exists, h (Json.skipBlanks text), Json.verbatim_skipBlanks]
    constructor
    · rintro ⟨a, _, ⟨v, hread, hjudge⟩, h⟩
      cases h
      refine ⟨v, hread, ?_⟩
      rw [optionalOfJson_of_ne_null (hother v hread), hjudge]
      rfl
    · rintro ⟨v, hread, hjudge⟩
      rw [optionalOfJson_of_ne_null (hother v hread), map_eq_ok] at hjudge
      rcases hjudge with ⟨a, hjudge, rfl⟩
      exact ⟨a, rest, ⟨v, hread, hjudge⟩, rfl⟩

theorem settingsOfJson_eq_ok {v : Json} {settings : Settings}
    (h : settingsOfJson v = .ok settings) : ∃ entries, v = .obj entries := by
  cases v with
  | obj entries => exact ⟨entries, rfl⟩
  | _ => cases h

/-- A setting is read by reading the value behind its key and taking it for a string. -/
theorem readSetting_eq_ok_iff (depth : Nat) (settings : Settings) (key : String)
    (text : List Char) (next : Settings) (rest : List Char) :
    (do
      let rest ← Json.colon text
      let (value, rest) ← Json.stringValue rest
      .ok (settings.insert key value, rest)) = (.ok (next, rest) : Except Json.Failure _) ↔
    ∃ inside v, Json.colon text = .ok inside ∧ Json.verbatim depth inside = .ok (v, rest) ∧
      (do
        let text ← textOfJson v
        .ok (settings.insert key text)) = .ok next := by
  simp only [bind_eq_ok, Prod.exists, stringValue_judges depth _ _ _]
  constructor
  · rintro ⟨inside, hcolon, content, _, ⟨v, hread, hcontent⟩, h⟩
    cases h
    exact ⟨inside, v, hcolon, hread, content, hcontent, rfl⟩
  · rintro ⟨inside, v, hcolon, hread, content, hcontent, h⟩
    cases h
    exact ⟨inside, hcolon, content, rest, ⟨v, hread, hcontent⟩, rfl⟩

theorem readSettings_judges (depth : Nat) : Judges (depth + 1) readSettings settingsOfJson := by
  intro text settings rest
  unfold readSettings
  split
  · rename_i inside hopen
    refine (Json.members_eq_ok_iff (readSetting_eq_ok_iff depth) inside).trans ?_
    constructor
    · rintro ⟨entries, hentries, hsettings⟩
      exact ⟨.obj entries, Json.verbatim_obj_iff.2 ⟨inside, hopen, hentries⟩, hsettings⟩
    · rintro ⟨v, hread, hjudge⟩
      rcases settingsOfJson_eq_ok hjudge with ⟨entries, rfl⟩
      rcases Json.verbatim_obj_iff.1 hread with ⟨_, hinside, hentries⟩
      cases hopen.symm.trans hinside
      exact ⟨entries, hentries, hjudge⟩
  · rename_i hbrace
    refine iff_of_false Json.refuse_ne_ok ?_
    rintro ⟨v, hread, hjudge⟩
    rcases settingsOfJson_eq_ok hjudge with ⟨entries, rfl⟩
    rcases Json.verbatim_obj_iff.1 hread with ⟨inside, hopen, -⟩
    exact hbrace inside hopen

/-- What is done with a value that is judged can be done with what the judge says. -/
theorem Judges.put {α β : Type} {depth : Nat} {reader : Reader α} {judge : Json → Except Fault α}
    (h : Judges depth reader judge) (put : α → β) :
    Judges depth
      (fun text => do
        let (a, rest) ← reader text
        .ok (put a, rest))
      (fun v => do
        let a ← judge v
        .ok (put a)) := by
  intro text b rest
  simp only [bind_eq_ok, Prod.exists, h text]
  constructor
  · rintro ⟨a, _, ⟨v, hread, hjudge⟩, hput⟩
    cases hput
    exact ⟨v, hread, a, hjudge, rfl⟩
  · rintro ⟨v, hread, a, hjudge, hput⟩
    cases hput
    exact ⟨a, rest, ⟨v, hread, hjudge⟩, rfl⟩

/-- A property is read by an assignment of the value that stands there. -/
theorem readField_judges (depth : Nat) (properties : Properties) (field : Field) :
    Judges (depth + 1) (readField properties field) fun v => setOfJson properties v field := by
  cases field with
  | locale =>
      exact (optional_judges (stringValue_judges _)).put fun locale =>
        { properties with locale }
  | location =>
      exact (optional_judges (stringValue_judges _)).put fun location =>
        { properties with location }
  | timezone =>
      exact (optional_judges (stringValue_judges _)).put fun timezone =>
        { properties with timezone }
  | selector =>
      exact (optional_judges (stringValue_judges _)).put fun selector =>
        { properties with selector }
  | userSettings =>
      exact (optional_judges (readSettings_judges depth)).put fun userSettings =>
        { properties with userSettings }

/-! ### The items of an array -/

theorem endItems_eq_ok_iff {text rest : List Char} :
    endItems text = .ok rest ↔ Json.skipBlanks text = ']' :: rest := by
  constructor
  · intro h
    unfold endItems at h
    split at h
    · cases h
    · rename_i behind hclose
      cases h
      exact hclose
    · split at h <;> cases h
    · cases h
  · intro h
    unfold endItems
    rw [h]
    rfl

/-- The items for some fields are read by reading as many values and assigning one to
    each field. -/
theorem readItems_eq_ok_iff (depth : Nat) {properties next : Properties} {count : Nat}
    {fields : List Field} {text rest : List Char} :
    readItems properties count fields text = .ok (next, rest) ↔
      ∃ bound values,
        Json.items (Json.verbatim (depth + 1)) bound (count == 0) text = .ok (values, rest) ∧
        values.length = fields.length ∧ assign properties (fields.zip values) = .ok next := by
  induction fields generalizing properties count text with
  | nil =>
      rw [readItems]
      simp only [bind_eq_ok, endItems_eq_ok_iff, List.length_nil, List.length_eq_zero_iff]
      constructor
      · rintro ⟨_, hclose, h⟩
        cases h
        -- One round is enough to find the end.
        refine ⟨[' '], [], ?_, rfl, rfl⟩
        exact Json.items_round.2 (.inl ⟨Json.nextItem_end_iff.2 hclose, rfl⟩)
      · rintro ⟨bound, _, hitems, rfl, hassign⟩
        cases hassign
        rcases bound with _ | ⟨c, bound⟩
        · cases hitems
        · rcases Json.items_round.1 hitems with ⟨hnext, -⟩ | ⟨_, _, _, _, -, -, -, ⟨⟩⟩
          exact ⟨rest, Json.nextItem_end_iff.1 hnext, rfl⟩
  | cons field fields ih =>
      rw [readItems]
      have hcount : (count + 1 == 0) = false := rfl
      constructor
      · intro h
        rcases bind_eq_ok.1 h with ⟨⟨_ | _, front⟩, hnext, h⟩
        · cases h
        · simp only [if_true, bind_eq_ok, Prod.exists, readField_judges depth _ _ _, ih,
            hcount] at h
          rcases h with ⟨middle, behind, ⟨v, hread, hset⟩, bound, values, hitems, hlength, hassign⟩
          -- The bound counts rounds, so it takes one more of whatever it is made of.
          refine ⟨' ' :: bound, v :: values, ?_, congrArg Nat.succ hlength, ?_⟩
          · exact Json.items_round.2 (.inr ⟨front, v, behind, values, hnext, hread, hitems, rfl⟩)
          · rw [List.zip_cons_cons, assign, List.foldlM_cons, hset]
            exact hassign
      · rintro ⟨bound, values, hitems, hlength, hassign⟩
        rcases bound with _ | ⟨c, bound⟩
        · cases hitems
        · rcases Json.items_round.1 hitems
            with ⟨-, rfl⟩ | ⟨front, v, behind, later, hnext, hread, hlater, rfl⟩
          · cases hlength
          · rw [List.zip_cons_cons, assign, List.foldlM_cons, bind_eq_ok] at hassign
            rcases hassign with ⟨middle, hset, hassign⟩
            rw [hnext]
            change (readField properties field front >>= _) = _
            rw [((readField_judges depth properties field) _ _ _).2 ⟨v, hread, hset⟩]
            change readItems middle (count + 1) fields behind = _
            exact ih.2 ⟨bound, later, hlater, Nat.succ.inj hlength, hassign⟩

/-! ### The members of an object -/

/-- Reads the value of a member that gives a property, and skips any other, which then
    counts as a null. -/
def noted (depth : Nat) (key : String) : Reader Json := fun text =>
  match Field.ofKey? key with
  | some _ => Json.verbatim depth text
  | none => do
    let rest ← Json.skip text
    .ok (.null, rest)

/-- What a member does to the properties read so far. -/
def Progress.take (progress : Progress) (key : String) (v : Json) : Except Fault Progress :=
  match Field.ofKey? key with
  | none => .ok progress
  | some field =>
    if field ∈ progress.seen then .error (.repeatedMember field.key)
    else do
      let properties ← setOfJson progress.properties v field
      .ok ⟨properties, field :: progress.seen⟩

theorem readMember_eq_ok_iff (depth : Nat) (progress : Progress) (key : String)
    (text : List Char) (next : Progress) (rest : List Char) :
    readMember progress key text = .ok (next, rest) ↔
      ∃ inside v, Json.colon text = .ok inside ∧ noted (depth + 1) key inside = .ok (v, rest) ∧
        progress.take key v = .ok next := by
  unfold readMember noted Progress.take
  cases Field.ofKey? key with
  | none =>
      simp only [bind_eq_ok]
      constructor
      · rintro ⟨inside, hcolon, _, hskip, h⟩
        cases h
        exact ⟨inside, .null, hcolon, ⟨rest, hskip, rfl⟩, rfl⟩
      · rintro ⟨inside, v, hcolon, ⟨_, hskip, h⟩, hnext⟩
        cases h
        cases hnext
        exact ⟨inside, hcolon, rest, hskip, rfl⟩
  | some field =>
      by_cases hseen : field ∈ progress.seen
      · simp only [if_pos hseen]
        exact iff_of_false (by rintro ⟨⟩) (by rintro ⟨_, _, _, _, ⟨⟩⟩)
      · simp only [if_neg hseen, bind_eq_ok, Prod.exists, readField_judges depth _ _ _]
        constructor
        · rintro ⟨inside, hcolon, properties, _, ⟨v, hread, hset⟩, h⟩
          cases h
          exact ⟨inside, v, hcolon, hread, properties, hset, rfl⟩
        · rintro ⟨inside, v, hcolon, hread, properties, hset, h⟩
          cases h
          exact ⟨inside, hcolon, properties, rest, ⟨v, hread, hset⟩, rfl⟩

/-- Members are taken one after the other if each of the properties they give is new
    and its value can be assigned. -/
theorem foldlM_take_eq_ok_iff {entries : List (String × Json)} {progress : Progress}
    {properties : Properties} :
    (∃ seen, entries.foldlM (fun progress entry => progress.take entry.1 entry.2) progress
        = .ok ⟨properties, seen⟩) ↔
      assign progress.properties (known entries) = .ok properties ∧
        ((known entries).map Prod.fst).Nodup ∧
        ∀ field ∈ (known entries).map Prod.fst, field ∉ progress.seen := by
  induction entries generalizing progress with
  | nil =>
      constructor
      · rintro ⟨seen, h⟩
        cases h
        exact ⟨rfl, List.nodup_nil, fun _ hmem => (List.not_mem_nil hmem).elim⟩
      · rintro ⟨h, -, -⟩
        cases h
        exact ⟨progress.seen, rfl⟩
  | cons entry entries ih =>
      rcases entry with ⟨key, v⟩
      rw [List.foldlM_cons, known_cons, Progress.take]
      cases Field.ofKey? key with
      | none => exact ih
      | some field =>
          by_cases hseen : field ∈ progress.seen
          · -- A field that was seen is refused, and it is not new.
            simp only [if_pos hseen]
            refine iff_of_false (by rintro ⟨_, ⟨⟩⟩) ?_
            rintro ⟨-, -, h⟩
            exact h field List.mem_cons_self hseen
          · simp only [if_neg hseen, Option.map_some, Option.toList_some, List.singleton_append,
              List.map_cons, List.nodup_cons, List.forall_mem_cons, assign, List.foldlM_cons,
              bind_eq_ok]
            constructor
            · rintro ⟨seen, _, ⟨middle, hset, h⟩, hrest⟩
              cases h
              obtain ⟨hassign, hnodup, hnew⟩ := ih.1 ⟨seen, hrest⟩
              refine ⟨⟨middle, hset, hassign⟩, ⟨fun hmem => ?_, hnodup⟩, hseen,
                fun other hmem => ?_⟩
              · exact hnew field hmem List.mem_cons_self
              · exact fun h => hnew other hmem (List.mem_cons_of_mem _ h)
            · rintro ⟨⟨middle, hset, hassign⟩, ⟨hfield, hnodup⟩, -, hnew⟩
              have hlater : ∀ other ∈ (known entries).map Prod.fst,
                  other ∉ field :: progress.seen := by
                intro other hmem h
                rcases List.mem_cons.1 h with rfl | h
                · exact hfield hmem
                · exact hnew other hmem h
              have hrest := (@ih ⟨middle, field :: progress.seen⟩).2 ⟨hassign, hnodup, hlater⟩
              rcases hrest with ⟨seen, hrest⟩
              exact ⟨seen, _, ⟨middle, hset, rfl⟩, hrest⟩

/-! ### What the reader looks at -/

/-- A text starts with an object or an array, as far as the reader looks at it: the
    values of unknown members are nulls. -/
inductive GlimpsedAt (text : List Char) : Json → List Char → Prop where
  | obj {inside rest : List Char} {entries : List (String × Json)}
    (hopen : Json.skipBlanks text = '\x7b' :: inside)
    (hentries : Json.members (Json.gathered (noted (Json.maxDepth - 1))) inside true [] inside
      = .ok (entries, rest)) : GlimpsedAt text (.obj entries) rest
  | arr {inside bound rest : List Char} {values : List Json}
    (hopen : Json.skipBlanks text = '[' :: inside)
    (hvalues : Json.items (Json.verbatim (Json.maxDepth - 1)) bound true inside
      = .ok (values, rest)) : GlimpsedAt text (.arr values) rest

/-- A text is an object or an array, as far as the reader looks at it. -/
def Glimpsed (text : String) (v : Json) : Prop :=
  ∃ rest, GlimpsedAt text.toList v rest ∧ Json.skipBlanks rest = []

theorem GlimpsedAt.unique {text rest rest' : List Char} {v w : Json} (hv : GlimpsedAt text v rest)
    (hw : GlimpsedAt text w rest') : v = w ∧ rest = rest' := by
  cases hv with
  | obj hopen hentries =>
      cases hw with
      | obj hopen' hentries' =>
          cases hopen.symm.trans hopen'
          cases hentries.symm.trans hentries'
          exact ⟨rfl, rfl⟩
      | arr hopen' _ => cases hopen.symm.trans hopen'
  | arr hopen hvalues =>
      cases hw with
      | obj hopen' _ => cases hopen.symm.trans hopen'
      | arr hopen' hvalues' =>
          cases hopen.symm.trans hopen'
          cases Json.items_unique hvalues hvalues'
          exact ⟨rfl, rfl⟩

theorem Glimpsed.unique {text : String} {v w : Json} (hv : Glimpsed text v)
    (hw : Glimpsed text w) : v = w := by
  rcases hv with ⟨_, hv, -⟩
  rcases hw with ⟨_, hw, -⟩
  exact (hv.unique hw).1

/-- Properties are read of what the reader looks at if they are those of the value and
    nothing is assigned twice. -/
theorem reader_eq_ok_iff {text rest : List Char} {properties : Properties} :
    reader text = .ok (properties, rest) ↔
      ∃ v, GlimpsedAt text v rest ∧ ofJson v = .ok properties ∧ ¬Repeats v := by
  unfold reader
  split
  · rename_i inside hopen
    simp only [bind_eq_ok, Prod.exists,
      Json.members_eq_ok_iff (readMember_eq_ok_iff (Json.maxDepth - 2)) inside]
    constructor
    · rintro ⟨progress, _, ⟨entries, hentries, htake⟩, h⟩
      cases h
      obtain ⟨hassign, hnodup, -⟩ := foldlM_take_eq_ok_iff.1 ⟨progress.seen, htake⟩
      refine ⟨.obj entries, .obj hopen hentries, ?_, not_not.2 hnodup⟩
      exact ofJson_eq_ok_iff_assign.2 ⟨trivial, hassign⟩
    · rintro ⟨v, hv, hjudge, hnodup⟩
      cases hv with
      | @obj inside' _ entries hopen' hentries =>
          cases hopen.symm.trans hopen'
          have htake := (@foldlM_take_eq_ok_iff entries ⟨empty, []⟩ properties).2
            ⟨(ofJson_eq_ok_iff_assign.1 hjudge).2, not_not.1 hnodup, fun _ _ => List.not_mem_nil⟩
          rcases htake with ⟨seen, htake⟩
          exact ⟨_, rest, ⟨entries, hentries, htake⟩, rfl⟩
      | arr hopen' _ => cases hopen.symm.trans hopen'
  · rename_i inside hopen
    rw [readItems_eq_ok_iff (Json.maxDepth - 2)]
    constructor
    · rintro ⟨bound, values, hvalues, hassign⟩
      exact ⟨.arr values, .arr hopen hvalues, ofJson_eq_ok_iff_assign.2 hassign,
        not_repeats_arr values⟩
    · rintro ⟨v, hv, hjudge, -⟩
      cases hv with
      | obj hopen' _ => cases hopen.symm.trans hopen'
      | @arr inside' bound _ values hopen' hvalues =>
          cases hopen.symm.trans hopen'
          exact ⟨bound, values, hvalues, ofJson_eq_ok_iff_assign.1 hjudge⟩
  · rename_i hobj harr
    refine iff_of_false Json.refuse_ne_ok ?_
    rintro ⟨v, hv, -⟩
    cases hv with
    | obj hopen _ => exact hobj _ hopen
    | arr hopen _ => exact harr _ hopen

/-- The properties of a text are those of the value it is, as far as the reader looks,
    and a text that assigns to one field twice has none. -/
theorem read_eq_ok_iff {text : String} {properties : Properties} :
    read text = .ok properties ↔
      ∃ v, Glimpsed text v ∧ ofJson v = .ok properties ∧ ¬Repeats v := by
  rw [read, Json.run_eq_ok_iff]
  simp only [reader_eq_ok_iff]
  constructor
  · rintro ⟨rest, ⟨v, hv, hjudge⟩, hblank⟩
    exact ⟨v, ⟨rest, hv, hblank⟩, hjudge⟩
  · rintro ⟨v, ⟨rest, hv, hblank⟩, hjudge⟩
    exact ⟨rest, ⟨v, hv, hjudge⟩, hblank⟩

theorem read_eq_ok_iff_of_glimpsed {text : String} {v : Json} (h : Glimpsed text v)
    {properties : Properties} :
    read text = .ok properties ↔ ofJson v = .ok properties ∧ ¬Repeats v := by
  rw [read_eq_ok_iff]
  constructor
  · rintro ⟨w, hw, hjudge⟩
    rwa [h.unique hw]
  · exact fun hjudge => ⟨v, h, hjudge⟩

/-! ### Texts that spell values -/

/-- Entries with a null in place of each value that gives no property. -/
def masked (entries : List (String × Json)) : List (String × Json) :=
  entries.map fun entry => (entry.1, if (Field.ofKey? entry.1).isSome then entry.2 else .null)

/-- Nobody looks at what is masked. -/
theorem known_masked (entries : List (String × Json)) : known (masked entries) = known entries := by
  rw [masked, known, known, List.filterMap_map]
  refine List.filterMap_congr fun entry _ => ?_
  cases h : Field.ofKey? entry.1 <;> simp [h]

/-- A member that can be read can be noted. -/
theorem noted_of_verbatim {depth : Nat} {key : String} {text rest : List Char} {v : Json}
    (h : Json.verbatim depth text = .ok (v, rest)) :
    noted depth key text = .ok (if (Field.ofKey? key).isSome then v else .null, rest) := by
  unfold noted
  cases Field.ofKey? key with
  | some field => exact h
  | none =>
      have hread : Json.value depth text = .ok (v.tidied, rest) := by
        rw [Json.value_eq_tidied, h]
        rfl
      simp only [Json.skip_of_value hread]
      rfl

/-- An object that can be read is glimpsed with its unknown members masked, for these
    can be skipped. -/
theorem glimpsed_obj {text : String} {entries : List (String × Json)}
    (h : Json.Verbatim text (.obj entries)) : Glimpsed text (.obj (masked entries)) := by
  rcases h with ⟨rest, hread, hblank⟩
  rcases (@Json.verbatim_obj_iff (Json.maxDepth - 1) _ _ _).1 hread with ⟨inside, hopen, hentries⟩
  refine ⟨rest, .obj hopen ?_, hblank⟩
  -- In each round what was gathered is masked, and what is read is noted.
  refine Json.members_of_members masked (fun before key text next rest h => ?_) inside hentries
  rcases (@Json.gathered_eq_ok_iff fun _ => Json.verbatim _).1 h with ⟨front, v, hcolon, hread, rfl⟩
  refine Json.gathered_eq_ok_iff.2 ⟨front, _, hcolon, noted_of_verbatim hread, ?_⟩
  rw [masked, masked, List.map_append]
  rfl

/-- An array that can be read is glimpsed as it is. -/
theorem glimpsed_arr {text : String} {values : List Json}
    (h : Json.Verbatim text (.arr values)) : Glimpsed text (.arr values) := by
  rcases h with ⟨rest, hread, hblank⟩
  rcases (@Json.verbatim_arr_iff (Json.maxDepth - 1) _ _ _).1 hread with ⟨inside, hopen, hvalues⟩
  exact ⟨rest, .arr hopen hvalues, hblank⟩

/-- What is glimpsed is an object or an array, so nothing is of a scalar. -/
theorem not_glimpsed {text : String} {v : Json} (h : Json.Verbatim text v)
    (harr : ∀ values, Json.arr values ≠ v) (hobj : ∀ entries, Json.obj entries ≠ v) (w : Json) :
    ¬Glimpsed text w := by
  rintro ⟨_, hw, -⟩
  rcases h with ⟨rest, hread, -⟩
  have hscalar := (Json.verbatim_eq_scalar_iff harr hobj).1 hread
  cases hw with
  | obj hopen _ =>
      rw [hopen] at hscalar
      exact Json.scalar_opening (.inr rfl) _ hscalar
  | arr hopen _ =>
      rw [hopen] at hscalar
      exact Json.scalar_opening (.inl rfl) _ hscalar

/-- The properties of a text that spells a value are those of the value with all its
    entries, and a text that assigns to one field twice has none. -/
theorem read_eq_ok_iff_of_verbatim {text : String} {v : Json} (h : Json.Verbatim text v)
    {properties : Properties} :
    read text = .ok properties ↔ ofJson v = .ok properties ∧ ¬Repeats v := by
  -- Of a scalar neither of the two readers makes anything.
  have hother : (∀ values, Json.arr values ≠ v) → (∀ entries, Json.obj entries ≠ v) →
      ofJson v ≠ .ok properties →
      (read text = .ok properties ↔ ofJson v = .ok properties ∧ ¬Repeats v) := by
    intro harr hobj hjudge
    rw [read_eq_ok_iff]
    refine iff_of_false ?_ fun h => hjudge h.1
    rintro ⟨w, hw, -⟩
    exact not_glimpsed h harr hobj w hw
  cases v with
  | obj entries =>
      rw [read_eq_ok_iff_of_glimpsed (glimpsed_obj h), ofJson, ofJson, ofMembers_eq_assign,
        ofMembers_eq_assign, Repeats, Repeats, assignments, assignments, known_masked]
  | arr values => exact read_eq_ok_iff_of_glimpsed (glimpsed_arr h)
  | _ => exact hother (by rintro _ ⟨⟩) (by rintro _ ⟨⟩) (by rintro ⟨⟩)

end Properties

end TableClient
