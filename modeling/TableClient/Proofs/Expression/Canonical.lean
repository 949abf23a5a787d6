import TableClient.Proofs.Dictionary
import TableClient.Proofs.Expression.Dispatch
import TableClient.Proofs.Expression.RoundTrip
import TableClient.Proofs.Json.WellFormed

/-!
# Canonical Values

What is left of a value when it is read as an expression and written again.

A reader looks at certain members of an object and at nothing else, and it
takes a flag as a boolean or as a text. So two things are lost on the way: the
members that nobody looks at, and how the flags were given. `canonical` takes
both away without reading anything. It keeps of every object the members that
belong to its tag, goes on in those that hold conditions, and writes flags as
texts. What is written for an expression is the canonical form of every value
that the expression is read from.

The induction is over the condition that a value denotes. An object in order is
known by its members, so it suffices to look at the few that belong to the tag;
`canonical_eq_obj` is that argument, and each form of an expression is one use
of it. The same holds for the question when nothing is lost, with
`canonical_eq_self_iff`.

Rows are the place where reading what was written could go wrong, since a lone
fragment would come back as formula text. No value denotes such rows, so a
query that was read is settled.

All of this asks that the objects in a value are in order. They are in every
value that is read from a text, which `toJson_of_readExpression` makes use of.

## Main definitions

* `Json.ownKeysOf`, `Json.ownKeys`: The keys of the members that belong to a tag.
* `Json.canonical`: A value with its own members only and flags as texts.
* `Json.HasNode`: The values that are read when a value is read.
* `Json.NoExtraKeys`: All of these have their own members only.
* `Json.HasBooleanFlag`: A flag is given as a boolean.

## Theorems

* `canonical_eq_obj`: A canonical object is known by the members of its tag.
* `canonical_of_denotes`: What is written is the canonical form of what was read.
* `canonical_eq_self_of_denotes`: When a value is its own canonical form.
* `settled_of_denotes`: A query that was read is settled.
* `canonical_of_spells`, `spells_toJson`: The same for expressions of both kinds.
* `toJson_eq_canonical`: Writing what was read makes it canonical.
* `toJson_of_readExpression`: So does writing what was read from a text.
-/

namespace TableClient

namespace Json

/-- The keys of the members that belong to a tag, in their order. -/
def ownKeysOf : String → List String
  | "Not" => ["condition", "type"]
  | "And" => ["conditions", "type"]
  | "Or" => ["conditions", "type"]
  | "Select" => ["distinctOnly", "fromDatasetColumn", "selectRow", "type"]
  | "Filter" => ["dataset", "selectRow", "type"]
  | "OrderBy" => ["keys", "orderBy", "type"]
  | _ => []

/-- The keys of the members of a value that belong to its tag. -/
def ownKeys (value : Json) : List String :=
  (value.tag?.map ownKeysOf).getD []

/-- A flag as a text. -/
def flagText : Json → Json
  | .bool value => .str (Formula.flag value)
  | value => value

/-- A pair of a column and a flag with the flag as a text. -/
def sortKeyText : Json → Json
  | .arr [column, direction] => .arr [column, direction.flagText]
  | value => value

/-- Pairs of a column and a flag with the flags as texts. -/
def orderText : Json → Json
  | .arr pairs => .arr (pairs.map sortKeyText)
  | value => value

/-- What becomes of a member: one that holds conditions becomes `nested`, and one
    that holds flags is written with texts. -/
def canonicalMember (nested : Json) (key : String) (content : Json) : Json :=
  match key with
  | "condition" => nested
  | "conditions" => nested
  | "selectRow" => nested
  | "distinctOnly" => content.flagText
  | "orderBy" => content.orderText
  | _ => content

mutual

/-- A value with the members only that belong to its tag, in all conditions that
    it holds, and with its flags as texts. -/
def canonical : Json → Json
  | .arr items => .arr (canonicalItems items)
  | .obj members => .obj (canonicalMembers (Json.obj members).ownKeys members)
  | value => value

/-- Values with the members only that belong to their tags. -/
def canonicalItems : List Json → List Json
  | [] => []
  | item :: rest => canonical item :: canonicalItems rest

/-- The members with certain keys, as they are in a canonical value. -/
def canonicalMembers (keys : List String) : List (String × Json) → List (String × Json)
  | [] => []
  | (key, content) :: rest =>
    if key ∈ keys then
      (key, canonicalMember (canonical content) key content) :: canonicalMembers keys rest
    else canonicalMembers keys rest

end

/-- The values that are read when a value is read: the value itself, what it
    negates or groups, and the rows of a query. -/
inductive HasNode : Json → Json → Prop where
  | here (value : Json) : HasNode value value
  | operand {value content node : Json} (h : value.Negates content)
    (hrest : HasNode content node) : HasNode value node
  | item {value item node : Json} {connective : Connective} {items : List Json}
    (h : value.Groups connective items) (hitem : item ∈ items) (hrest : HasNode item node) :
    HasNode value node
  | row {value row node : Json} (hown : "selectRow" ∈ value.ownKeys)
    (h : value.member? "selectRow" = some row) (hrest : HasNode row node) : HasNode value node

/-- All members of a value belong to its tag. -/
def OwnKeysOnly (value : Json) : Prop :=
  ∀ key content, value.member? key = some content → key ∈ value.ownKeys

/-- All members of all values that are read belong to the tags of these. -/
def NoExtraKeys (value : Json) : Prop :=
  ∀ node, value.HasNode node → node.OwnKeysOnly

/-- A flag of a query is given as a boolean. -/
inductive HasBooleanFlag (value : Json) : Prop where
  | distinct {flag : Bool} (htag : value.tag? = some "Select")
    (h : value.member? "distinctOnly" = some (.bool flag)) : HasBooleanFlag value
  | direction {pairs : List Json} {column : Json} {flag : Bool}
    (htag : value.tag? = some "OrderBy") (h : value.member? "orderBy" = some (.arr pairs))
    (hpair : .arr [column, .bool flag] ∈ pairs) : HasBooleanFlag value

/-! ### Canonical objects -/

theorem ordered_ownKeysOf (tag : String) : (ownKeysOf tag).Pairwise (· < ·) := by
  unfold ownKeysOf
  split <;> decide

theorem tag?_eq_some_iff {value : Json} {tag : String} :
    value.tag? = some tag ↔ value.member? "type" = some (.str tag) := by
  simp only [tag?, Option.bind_eq_some_iff, string?_eq_some_iff, exists_eq_right]

theorem ownKeys_of_tag {value : Json} {tag : String} (h : value.tag? = some tag) :
    value.ownKeys = ownKeysOf tag := by
  rw [ownKeys, h]
  rfl

theorem canonical_str (text : String) : (str text).canonical = .str text :=
  rfl

theorem canonicalItems_eq_map (items : List Json) : canonicalItems items = items.map canonical := by
  induction items with
  | nil => rfl
  | cons item rest ih => rw [canonicalItems, ih, List.map_cons]

theorem canonical_arr (items : List Json) : (arr items).canonical = .arr (items.map canonical) := by
  rw [canonical, canonicalItems_eq_map]

theorem canonicalMembers_eq_restrict (keys : List String) (members : List (String × Json)) :
    canonicalMembers keys members = Dictionary.restrict keys
      (fun key content => canonicalMember content.canonical key content) members := by
  induction members with
  | nil => rfl
  | cons entry rest ih =>
      rcases entry with ⟨key, content⟩
      rw [canonicalMembers, Dictionary.restrict_cons, ih]

/-- A canonical object is known by the members that belong to its tag. -/
theorem canonical_eq_obj {value : Json} {tag : String} {entries : List (String × Json)}
    (hvalue : value.WellFormed) (htag : value.tag? = some tag)
    (hkeys : entries.map Prod.fst = ownKeysOf tag)
    (h : entries.Forall fun entry => ∃ content, value.member? entry.1 = some content ∧
      canonicalMember content.canonical entry.1 content = entry.2) :
    value.canonical = .obj entries := by
  rw [List.forall_iff_forall_mem] at h
  have hown : value.ownKeys = ownKeysOf tag := ownKeys_of_tag htag
  cases value with
  | obj members =>
      have hmembers : Dictionary.Ordered members := (wellFormed_obj.1 hvalue).1
      -- The keys of a tag are listed in order, so the entries are a dictionary as well.
      have hentries : Dictionary.Ordered entries :=
        Dictionary.ordered_of_keys _ hkeys (ordered_ownKeysOf tag)
      rw [canonical, hown, canonicalMembers_eq_restrict]
      exact congrArg Json.obj (Dictionary.restrict_eq hmembers hentries hkeys h)
  | _ => cases htag

/-- A tagged value is its own canonical form just if it has no other members than
    those of its tag and these stay as they are. -/
theorem canonical_eq_self_iff {value : Json} {tag : String} (hvalue : value.WellFormed)
    (htag : value.tag? = some tag) :
    value.canonical = value ↔ value.OwnKeysOnly ∧ ∀ key ∈ ownKeysOf tag, ∀ content,
      value.member? key = some content →
        canonicalMember content.canonical key content = content := by
  have hown : value.ownKeys = ownKeysOf tag := ownKeys_of_tag htag
  cases value with
  | obj members =>
      have hmembers : Dictionary.Ordered members := (wellFormed_obj.1 hvalue).1
      rw [OwnKeysOnly, canonical, hown, canonicalMembers_eq_restrict, Json.obj.injEq,
        Dictionary.restrict_eq_self_iff]
      -- In a dictionary, to be found under a key is to be an entry.
      simp only [member?, Dictionary.get?_eq_some_iff hmembers]
      constructor
      · intro h
        exact ⟨fun key content hmem => (h _ hmem).1, fun key _ content hmem => (h _ hmem).2⟩
      · rintro ⟨hkeys, hsame⟩ ⟨key, content⟩ hmem
        exact ⟨hkeys _ _ hmem, hsame _ (hkeys _ _ hmem) _ hmem⟩
  | _ => cases htag

/-! ### Nodes -/

theorem noExtraKeys_str (text : String) : (str text).NoExtraKeys := by
  intro node hnode
  cases hnode with
  | here => exact fun key content h => (nomatch h)
  | operand h => cases h.2
  | item h => cases h.2
  | row _ h => cases h

theorem noExtraKeys_not {value content : Json} (h : value.Negates content) :
    value.NoExtraKeys ↔ value.OwnKeysOnly ∧ content.NoExtraKeys := by
  constructor
  · exact fun hall => ⟨hall _ (.here value), fun node hnode => hall _ (.operand h hnode)⟩
  · rintro ⟨hown, hcontent⟩ node hnode
    -- Only one way leads into a negation; the others ask for another tag.
    cases hnode with
    | here => exact hown
    | operand h' hrest =>
        rw [← h.unique h'] at hrest
        exact hcontent node hrest
    | item hgroups => exact absurd hgroups h.not_groups
    | row hrow =>
        rw [ownKeys_of_tag h.1] at hrow
        exact absurd hrow (by decide)

theorem noExtraKeys_group {value : Json} {connective : Connective} {items : List Json}
    (h : value.Groups connective items) :
    value.NoExtraKeys ↔ value.OwnKeysOnly ∧ ∀ item ∈ items, item.NoExtraKeys := by
  constructor
  · exact fun hall => ⟨hall _ (.here value), fun item hitem node hnode =>
      hall _ (.item h hitem hnode)⟩
  · rintro ⟨hown, hitems⟩ node hnode
    cases hnode with
    | here => exact hown
    | operand hnegates => exact absurd h hnegates.not_groups
    | item h' hitem hrest =>
        rw [← (h.unique h').2] at hitem
        exact hitems _ hitem node hrest
    | row hrow =>
        rw [ownKeys_of_tag h.1] at hrow
        cases connective <;> exact absurd hrow (by decide)

/-- In a query only the rows are looked into. -/
theorem noExtraKeys_of_tagged {value : Json} (h : Query.Tagged value) :
    value.NoExtraKeys ↔ value.OwnKeysOnly ∧ ("selectRow" ∈ value.ownKeys →
      ∀ row, value.member? "selectRow" = some row → row.NoExtraKeys) := by
  constructor
  · exact fun hall => ⟨hall _ (.here value), fun hown row hrow node hnode =>
      hall _ (.row hown hrow hnode)⟩
  · rintro ⟨hown, hrows⟩ node hnode
    cases hnode with
    | here => exact hown
    | operand hnegates => exact absurd hnegates h.not_negates
    | item hgroups => exact absurd hgroups h.not_groups
    | row hown' hrow hrest => exact hrows hown' _ hrow node hrest

/-! ### Flags -/

theorem flagText_of_isFlag {content : Json} {value : Bool} (h : content.IsFlag value) :
    content.flagText = .str (Formula.flag value) := by
  cases h <;> rfl

theorem flagText_eq_self_iff {content : Json} :
    content.flagText = content ↔ ¬∃ flag, content = .bool flag := by
  cases content <;> simp [flagText]

/-- A query that reads a column has one flag. -/
theorem hasBooleanFlag_select {value content : Json} (htag : value.tag? = some "Select")
    (h : value.member? "distinctOnly" = some content) :
    value.HasBooleanFlag ↔ ∃ flag, content = .bool flag := by
  constructor
  · intro hboolean
    cases hboolean with
    | distinct _ h' => exact ⟨_, Option.some.inj (h.symm.trans h')⟩
    | direction htag' => exact absurd (htag.symm.trans htag') (by decide)
  · rintro ⟨flag, rfl⟩
    exact .distinct htag h

/-- A query that filters keys has no flags. -/
theorem not_hasBooleanFlag_filter {value : Json} (htag : value.tag? = some "Filter") :
    ¬value.HasBooleanFlag := by
  intro hboolean
  cases hboolean with
  | distinct htag' => exact absurd (htag.symm.trans htag') (by decide)
  | direction htag' => exact absurd (htag.symm.trans htag') (by decide)

/-- A query that sorts keys has a flag in each pair. -/
theorem hasBooleanFlag_orderBy {value : Json} {pairs : List Json}
    (htag : value.tag? = some "OrderBy") (h : value.member? "orderBy" = some (.arr pairs)) :
    value.HasBooleanFlag ↔ ∃ pair ∈ pairs, ∃ column flag, pair = .arr [column, .bool flag] := by
  constructor
  · intro hboolean
    cases hboolean with
    | distinct htag' => exact absurd (htag.symm.trans htag') (by decide)
    | direction _ h' hpair =>
        cases Option.some.inj (h.symm.trans h')
        exact ⟨_, hpair, _, _, rfl⟩
  · rintro ⟨_, hpair, column, flag, rfl⟩
    exact .direction htag h hpair

end Json

namespace Condition

/-- What is written for a condition is the canonical form of every value that
    denotes it. -/
theorem canonical_of_denotes {value : Json} {condition : Condition} (hvalue : value.WellFormed)
    (h : Denotes value condition) : value.canonical = condition.toJson := by
  induction condition using Condition.induction generalizing value with
  | literal text =>
      cases h
      rw [toJson, Json.canonical_str]
  | not operand ih =>
      cases h with
      | not hnegates hoperand =>
          rw [toJson]
          refine Json.canonical_eq_obj hvalue hnegates.1 rfl ?_
          exact ⟨⟨_, hnegates.2, ih (hvalue.member hnegates.2) hoperand⟩,
            _, Json.tag?_eq_some_iff.1 hnegates.1, rfl⟩
  | group connective first rest ih =>
      cases h with
      | group hgroups hoperands =>
          rename_i items
          have hitems : ∀ item ∈ items, item.WellFormed :=
            Json.wellFormed_arr.1 (hvalue.member hgroups.2)
          -- Each operand is written as the canonical form of its own item.
          have hwritten : items.map Json.canonical = (first :: rest).map toJson :=
            map_eq_map_of_forall₂ hoperands fun item hitem c hc h =>
              ih c hc (hitems item hitem) h
          rw [toJson, toJsonAll_eq_map, ← List.map_cons, ← hwritten]
          refine Json.canonical_eq_obj hvalue hgroups.1 (by cases connective <;> rfl) ?_
          exact ⟨⟨_, hgroups.2, Json.canonical_arr items⟩,
            _, Json.tag?_eq_some_iff.1 hgroups.1, rfl⟩

/-- A value that denotes a condition is its own canonical form just if there are
    no extra keys in it. -/
theorem canonical_eq_self_of_denotes {value : Json} {condition : Condition}
    (hvalue : value.WellFormed) (h : Denotes value condition) :
    value.canonical = value ↔ value.NoExtraKeys := by
  induction condition using Condition.induction generalizing value with
  | literal text =>
      cases h
      exact ⟨fun _ => Json.noExtraKeys_str text, fun _ => canonical_of_denotes hvalue (.literal text)⟩
  | not operand ih =>
      cases h with
      | not hnegates hoperand =>
          rw [Json.canonical_eq_self_iff hvalue hnegates.1, Json.noExtraKeys_not hnegates,
            ← ih (hvalue.member hnegates.2) hoperand]
          simp [Json.ownKeysOf, Json.canonicalMember, hnegates.2,
            Json.tag?_eq_some_iff.1 hnegates.1]
  | group connective first rest ih =>
      cases h with
      | group hgroups hoperands =>
          rename_i items
          have hitems : ∀ item ∈ items, item.WellFormed :=
            Json.wellFormed_arr.1 (hvalue.member hgroups.2)
          have hsame : ∀ item ∈ items, (item.canonical = item ↔ item.NoExtraKeys) :=
            forall_mem_of_forall₂ hoperands fun item hitem c hc h => ih c hc (hitems item hitem) h
          have hkeys : Json.ownKeysOf connective.tag = ["conditions", "type"] := by
            cases connective <;> rfl
          rw [Json.canonical_eq_self_iff hvalue hgroups.1, Json.noExtraKeys_group hgroups, hkeys,
            ← forall₂_congr hsame]
          simp [Json.canonicalMember, hgroups.2, Json.tag?_eq_some_iff.1 hgroups.1,
            Json.canonical_arr, map_eq_self_iff]

end Condition

namespace RowFilter

theorem canonical_of_denotes {row : Json} {rows : RowFilter} (hrow : row.WellFormed)
    (h : Denotes row rows) : row.canonical = rows.toJson := by
  cases h with
  | raw text => exact Condition.canonical_of_denotes hrow (.literal text)
  | condition _ hdenotes => exact Condition.canonical_of_denotes hrow hdenotes

theorem canonical_eq_self_of_denotes {row : Json} {rows : RowFilter} (hrow : row.WellFormed)
    (h : Denotes row rows) : row.canonical = row ↔ row.NoExtraKeys := by
  cases h with
  | raw text => exact Condition.canonical_eq_self_of_denotes hrow (.literal text)
  | condition _ hdenotes => exact Condition.canonical_eq_self_of_denotes hrow hdenotes

/-- Rows that were read are settled: a string stands for formula text, so there
    is no lone fragment among what values denote. -/
theorem settled_of_denotes {row : Json} {rows : RowFilter} (h : Denotes row rows) :
    rows.settled = rows := by
  rw [settled_eq_iff]
  rintro text rfl
  cases h with
  | condition hstr hdenotes =>
      cases hdenotes
      exact hstr _ rfl

end RowFilter

namespace SortKey

theorem sortKeyText_of_denotes {pair : Json} {key : SortKey} (h : Denotes pair key) :
    pair.sortKeyText = key.toJson := by
  cases h with
  | pair column hflag => rw [Json.sortKeyText, Json.flagText_of_isFlag hflag, toJson]

theorem sortKeyText_eq_self_of_denotes {pair : Json} {key : SortKey} (h : Denotes pair key) :
    pair.sortKeyText = pair ↔ ¬∃ column flag, pair = .arr [column, .bool flag] := by
  cases h with
  | pair column hflag =>
      rw [Json.sortKeyText, Json.arr.injEq, List.cons.injEq, List.cons.injEq,
        Json.flagText_eq_self_iff]
      simp

end SortKey

namespace Query

theorem canonical_of_denotes {value : Json} {query : Query} (hvalue : value.WellFormed)
    (h : Denotes value query) : value.canonical = query.toJson := by
  cases h with
  | select htag hcolumn hrow hrows hflag hdistinct =>
      refine Json.canonical_eq_obj hvalue htag rfl ?_
      exact ⟨⟨_, hflag, Json.flagText_of_isFlag hdistinct⟩, ⟨_, hcolumn, rfl⟩,
        ⟨_, hrow, RowFilter.canonical_of_denotes (hvalue.member hrow) hrows⟩,
        _, Json.tag?_eq_some_iff.1 htag, rfl⟩
  | filter htag hdataset hrow hrows =>
      refine Json.canonical_eq_obj hvalue htag rfl ?_
      exact ⟨⟨_, hdataset, rfl⟩,
        ⟨_, hrow, RowFilter.canonical_of_denotes (hvalue.member hrow) hrows⟩,
        _, Json.tag?_eq_some_iff.1 htag, rfl⟩
  | orderBy htag hkeys hitems horder =>
      rename_i items order
      have hwritten : items.map Json.sortKeyText = order.map SortKey.toJson :=
        map_eq_map_of_forall₂ horder fun _ _ _ _ h => SortKey.sortKeyText_of_denotes h
      refine Json.canonical_eq_obj hvalue htag rfl ?_
      exact ⟨⟨_, hkeys, rfl⟩, ⟨_, hitems, congrArg Json.arr hwritten⟩,
        _, Json.tag?_eq_some_iff.1 htag, rfl⟩

theorem canonical_eq_self_of_denotes {value : Json} {query : Query} (hvalue : value.WellFormed)
    (h : Denotes value query) :
    value.canonical = value ↔ value.NoExtraKeys ∧ ¬value.HasBooleanFlag := by
  have htagged : Tagged value := tagged_of_denotes h
  cases h with
  | @select column row flag rows distinct htag hcolumn hrow hrows hflag hdistinct =>
      have hkept : (∀ key ∈ Json.ownKeysOf "Select", ∀ content, value.member? key = some content →
          Json.canonicalMember content.canonical key content = content) ↔
            row.canonical = row ∧ flag.flagText = flag := by
        simp [Json.ownKeysOf, Json.canonicalMember, hflag, hcolumn, hrow,
          Json.tag?_eq_some_iff.1 htag, and_comm]
      rw [Json.canonical_eq_self_iff hvalue htag, Json.noExtraKeys_of_tagged htagged,
        Json.ownKeys_of_tag htag, Json.hasBooleanFlag_select htag hflag, hkept,
        RowFilter.canonical_eq_self_of_denotes (hvalue.member hrow) hrows,
        ← Json.flagText_eq_self_iff]
      simp [Json.ownKeysOf, hrow, and_assoc]
  | filter htag hdataset hrow hrows =>
      rw [Json.canonical_eq_self_iff hvalue htag, Json.noExtraKeys_of_tagged htagged,
        Json.ownKeys_of_tag htag]
      simp [Json.ownKeysOf, Json.canonicalMember, hdataset, hrow,
        Json.not_hasBooleanFlag_filter htag, Json.tag?_eq_some_iff.1 htag,
        RowFilter.canonical_eq_self_of_denotes (hvalue.member hrow) hrows]
  | @orderBy keys pairs order htag hkeys hpairs horder =>
      have heach : ∀ pair ∈ pairs, (pair.sortKeyText = pair ↔
          ¬∃ column flag, pair = .arr [column, .bool flag]) :=
        forall_mem_of_forall₂ horder fun _ _ _ _ h => SortKey.sortKeyText_eq_self_of_denotes h
      have hsame : (∀ pair ∈ pairs, pair.sortKeyText = pair) ↔
          ¬∃ pair ∈ pairs, ∃ column flag, pair = .arr [column, .bool flag] := by
        rw [forall₂_congr heach]
        simp only [not_exists, not_and]
      rw [Json.canonical_eq_self_iff hvalue htag, Json.noExtraKeys_of_tagged htagged,
        Json.ownKeys_of_tag htag, Json.hasBooleanFlag_orderBy htag hpairs, ← hsame]
      simp [Json.ownKeysOf, Json.canonicalMember, hkeys, hpairs, Json.tag?_eq_some_iff.1 htag,
        Json.orderText, map_eq_self_iff]

theorem settled_of_denotes {value : Json} {query : Query} (h : Denotes value query) :
    query.settled = query := by
  cases h with
  | select _ _ _ hrows => rw [settled, RowFilter.settled_of_denotes hrows]
  | filter _ _ _ hrows => rw [settled, RowFilter.settled_of_denotes hrows]
  | orderBy => rfl

end Query

namespace Expression

/-- What is written for an expression is the canonical form of every value that
    it is read from. -/
theorem canonical_of_spells {value : Json} {e : Expression} (hvalue : value.WellFormed)
    (h : Spells value e) : value.canonical = e.toJson := by
  cases e with
  | condition c => exact Condition.canonical_of_denotes hvalue (Condition.ofJson_eq_ok_iff.1 h)
  | query q => exact Query.canonical_of_denotes hvalue (Query.ofJson_eq_ok_iff.1 h)

/-- An expression that was read comes back from what is written for it. -/
theorem spells_toJson {value : Json} {e : Expression} (h : Spells value e) :
    Spells e.toJson e := by
  cases e with
  | condition c => exact Condition.ofJson_eq_ok_iff.2 c.denotes_toJson
  | query q =>
      have hsettled : q.settled = q := Query.settled_of_denotes (Query.ofJson_eq_ok_iff.1 h)
      have hread := q.ofJson_eq_settled
      rw [hsettled] at hread
      exact hread

theorem canonical_eq_self_of_spells {value : Json} {e : Expression} (hvalue : value.WellFormed)
    (h : Spells value e) :
    value.canonical = value ↔ value.NoExtraKeys ∧ ¬value.HasBooleanFlag := by
  cases e with
  | condition c =>
      -- Only queries have flags, and no value is read as both.
      have hboolean : ¬value.HasBooleanFlag := by
        intro hboolean
        refine not_tagged_of_ofJson h ?_
        cases hboolean with
        | distinct htag => exact ⟨.select, htag⟩
        | direction htag => exact ⟨.orderBy, htag⟩
      rw [Condition.canonical_eq_self_of_denotes hvalue (Condition.ofJson_eq_ok_iff.1 h)]
      exact (and_iff_left hboolean).symm
  | query q => exact Query.canonical_eq_self_of_denotes hvalue (Query.ofJson_eq_ok_iff.1 h)

/-- A value spells one expression only. -/
theorem Spells.unique {value : Json} {e f : Expression} (he : Spells value e)
    (hf : Spells value f) : e = f := by
  rw [← ofJson_eq_ok_iff_spells] at he hf
  exact Except.ok.inj (he.symm.trans hf)

/-- Writing what was read makes it canonical: of every value that was read only
    the members of its tag are left, and flags are texts. So what is written
    spells the expression again, it is the value itself just if there were no
    extra keys and no boolean flags, and two values spell the same expression
    just if they have the same canonical form. The objects in the values are in
    order, as they are in all values that texts spell. -/
theorem toJson_eq_canonical {value : Json} {e : Expression} (hvalue : value.WellFormed)
    (he : Spells value e) :
    e.toJson = value.canonical ∧ Spells e.toJson e ∧
      (e.toJson = value ↔ value.NoExtraKeys ∧ ¬value.HasBooleanFlag) ∧
      ∀ other f, other.WellFormed → Spells other f →
        (e = f ↔ value.canonical = other.canonical) := by
  have hcanonical : value.canonical = e.toJson := canonical_of_spells hvalue he
  refine ⟨hcanonical.symm, spells_toJson he, ?_, fun other f hother hf => ?_⟩
  · rw [← hcanonical]
    exact canonical_eq_self_of_spells hvalue he
  · rw [hcanonical, canonical_of_spells hother hf]
    constructor
    · exact fun h => congrArg toJson h
    · -- What is written for both spells both, and it spells one expression only.
      intro h
      have hback : Spells e.toJson f := h ▸ spells_toJson hf
      exact (spells_toJson he).unique hback

/-- A query with a key of no meaning in it and in its rows, and with its flag
    given as a boolean. -/
def cluttered : Json :=
  .obj
    [("distinctOnly", .bool true), ("fromDatasetColumn", .str "T[A]"), ("note", .null),
      ("selectRow",
        .obj [("condition", .str "[B]"), ("note", .arr [.bool false]), ("type", .str "Not")]),
      ("type", .str "Select")]

/-- The same query without any of this. -/
def bare : Json :=
  .obj
    [("distinctOnly", .str "TRUE"), ("fromDatasetColumn", .str "T[A]"),
      ("selectRow", .obj [("condition", .str "[B]"), ("type", .str "Not")]),
      ("type", .str "Select")]

theorem toJson_eq_canonical_cluttered :
    cluttered.WellFormed ∧ bare.WellFormed ∧
    Spells cluttered (.query (.select "T[A]" (.condition (.not (.literal "[B]"))) true)) ∧
    Spells bare (.query (.select "T[A]" (.condition (.not (.literal "[B]"))) true)) ∧
    cluttered.canonical = bare ∧ cluttered.canonical = bare.canonical ∧
    bare.NoExtraKeys ∧ ¬bare.HasBooleanFlag ∧
    ¬(cluttered.NoExtraKeys ∧ ¬cluttered.HasBooleanFlag) := by
  have hcluttered : cluttered.WellFormed := by
    simp only [cluttered, Json.WellFormed, Json.WellFormedMembers, Json.WellFormedItems, and_true,
      true_and]
    decide
  have hbare : bare.WellFormed := by
    simp only [bare, Json.WellFormed, Json.WellFormedMembers, and_true, true_and]
    decide
  have hread : Spells cluttered
      (.query (.select "T[A]" (.condition (.not (.literal "[B]"))) true)) := rfl
  have hback : Spells bare (.query (.select "T[A]" (.condition (.not (.literal "[B]"))) true)) := rfl
  rcases toJson_eq_canonical hcluttered hread with ⟨hwritten, -, hsame, hform⟩
  rcases toJson_eq_canonical hbare hback with ⟨-, -, hkept, -⟩
  refine ⟨hcluttered, hbare, hread, hback, hwritten.symm, (hform _ _ hbare hback).1 rfl,
    (hkept.1 rfl).1, (hkept.1 rfl).2, fun h => ?_⟩
  have hlength := congrArg (fun value => (value.member? "note").isSome) (hsame.2 h)
  exact absurd hlength (by decide)

end Expression

/-- What is written for an expression that was read from a text is the canonical
    form of the value that the text spells. Nothing is asked of the value here,
    since a text spells none but well-formed ones. -/
theorem Command.toJson_of_readExpression {text : String} {value : Json} {e : Expression}
    (hparse : Json.parse text = .ok value) (hread : readExpression text = .ok e) :
    e.toJson = value.canonical := by
  have hspells : Expression.Spells value e := (readExpression_eq_ok_iff hparse).1 hread
  exact (Expression.canonical_of_spells (Json.parse_wellFormed hparse) hspells).symm

end TableClient
