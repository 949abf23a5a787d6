import TableClient.Proofs.Json.Entries

/-!
# Values with All Their Entries

The value a text spells before any of its entries is lost.

Of several entries with one key an object keeps the last, and which others the text
had can no longer be seen. `verbatim` reads a text in the same way and keeps the
entries of every object, in their order and as often as they occur. It is not one of
the readers of this library; it is there to speak about texts. Two readers that look
at the entries of a text in different ways can be compared by what they make of the
value with all entries.

`tidied` puts the entries of every object into a dictionary, and what is read from a
text is the tidied form of what it spells. The induction is over the levels that may
still be opened, and the loops go by `items_map` and `members_map`.

## Main definitions

* `entriesOf`: Reads an object and keeps all entries.
* `verbatim`: Reads a value and keeps the entries of all objects.
* `Verbatim`: The value a text spells, with all entries.
* `tidied`: A value with its entries put into dictionaries.

## Theorems

* `items_map`: Loops over items that read related items.
* `value_eq_tidied`: What is read is the tidied form of what is spelled.
* `parse_eq_ok_iff_verbatim`: The same for whole texts.
* `verbatim_null_iff`, `verbatim_str_iff`, `verbatim_obj_iff`: Which texts spell a
  null, a string or an object.
* `reads_arr`, `reads_obj`: What is written is spelled.
-/

namespace TableClient

namespace Json

/-- Reads an object behind its opening brace and keeps all its entries. -/
def entriesOf (item : Reader Json) : Reader Json := fun text => do
  let (entries, rest) ← members (listed item) text true [] text
  .ok (.obj entries, rest)

/-- Reads a value that nests arrays and objects at most so deep, and keeps the
    entries of all its objects. -/
def verbatim : Nat → Reader Json
  | 0 => node tooDeep tooDeep
  | depth + 1 => node (array (verbatim depth)) (entriesOf (verbatim depth))

/-- A text spells a value, with the entries of all its objects in the order in which
    they are written. -/
def Verbatim (text : String) (v : Json) : Prop :=
  ∃ rest, verbatim maxDepth text.toList = .ok (v, rest) ∧ skipBlanks rest = []

mutual

/-- A value with the entries of each object put into a dictionary. -/
def tidied : Json → Json
  | .arr items => .arr (tidiedItems items)
  | .obj entries => object (tidiedEntries entries)
  | .null => .null
  | .bool value => .bool value
  | .num value => .num value
  | .str text => .str text

/-- Some values with the entries of each object put into a dictionary. -/
def tidiedItems : List Json → List Json
  | [] => []
  | item :: rest => tidied item :: tidiedItems rest

/-- Some entries with the objects in their values put into dictionaries. -/
def tidiedEntries : List (String × Json) → List (String × Json)
  | [] => []
  | (key, value) :: rest => (key, tidied value) :: tidiedEntries rest

end

theorem tidiedItems_eq_map (items : List Json) : tidiedItems items = items.map tidied := by
  induction items with
  | nil => rfl
  | cons item rest ih => rw [tidiedItems, ih, List.map_cons]

theorem tidiedEntries_eq_map (entries : List (String × Json)) :
    tidiedEntries entries = entries.map fun entry => (entry.1, entry.2.tidied) := by
  induction entries with
  | nil => rfl
  | cons entry rest ih => rw [tidiedEntries, ih, List.map_cons]

theorem tidied_arr (items : List Json) : (arr items).tidied = .arr (items.map tidied) := by
  rw [tidied, tidiedItems_eq_map]

theorem tidied_obj (entries : List (String × Json)) :
    (obj entries).tidied = object (entries.map fun entry => (entry.1, entry.2.tidied)) := by
  rw [tidied, tidiedEntries_eq_map]

/-! ### What is read is tidied -/

/-- Loops over items that read related items read related lists. -/
theorem items_map {α β : Type} (f : α → β) {item : Reader α} {item' : Reader β}
    (hitem : ∀ text, item' text = (item text).map fun read => (f read.1, read.2))
    (bound : List Char) (first : Bool) (text : List Char) :
    items item' bound first text
      = (items item bound first text).map fun read => (read.1.map f, read.2) := by
  induction bound generalizing first text with
  | nil => rfl
  | cons c bound ih =>
      rw [items, items]
      cases nextItem first text with
      | error failure => rfl
      | ok next =>
          rcases next with ⟨_ | _, rest⟩
          · rfl
          · simp only [bind, Except.bind, if_true, hitem]
            cases item rest with
            | error failure => rfl
            | ok read =>
                have hrest := ih false read.2
                simp only [Except.map, hrest]
                cases items item bound false read.2 <;> rfl

/-- The loop over members whose values are tidied. -/
theorem listed_tidied {item item' : Reader Json}
    (hitem : ∀ text, item' text = (item text).map fun read => (read.1.tidied, read.2))
    (bound : List Char) (first : Bool) (text : List Char) :
    members (listed item') bound first [] text
      = (members (listed item) bound first [] text).map fun read =>
          (read.1.map fun entry => (entry.1, entry.2.tidied), read.2) := by
  refine members_map (List.map fun entry : String × Json => (entry.1, entry.2.tidied)) ?_
    bound first [] text
  intro entries key text
  unfold listed
  cases colon text with
  | error failure => rfl
  | ok rest =>
      simp only [bind, Except.bind, hitem]
      cases item rest with
      | error failure => rfl
      | ok read =>
          simp only [Except.map, List.map_append, List.map_cons, List.map_nil]

/-- A scalar has nothing to put into dictionaries. -/
theorem tidied_of_scalar {text rest : List Char} {v : Json} (h : scalar text = .ok (v, rest)) :
    v.tidied = v := by
  cases scalarAt_of_scalar h <;> rw [tidied]

/-- What stands at the top of a value is tidied if the arrays and objects there
    are. -/
theorem node_tidied {array object array' object' : Reader Json}
    (harray : ∀ text, array' text = (array text).map fun read => (read.1.tidied, read.2))
    (hobject : ∀ text, object' text = (object text).map fun read => (read.1.tidied, read.2))
    (text : List Char) :
    node array' object' text = (node array object text).map fun read =>
      (read.1.tidied, read.2) := by
  unfold node
  split
  · exact harray _
  · exact hobject _
  · cases hread : scalar (skipBlanks text) with
    | error failure => rfl
    | ok read =>
        rw [Except.map, tidied_of_scalar hread]

/-- What is read from the front of a text is the tidied form of what is spelled
    there. -/
theorem value_eq_tidied (depth : Nat) (text : List Char) :
    value depth text = (verbatim depth text).map fun read => (read.1.tidied, read.2) := by
  induction depth generalizing text with
  | zero =>
      rw [value, verbatim]
      have hdeep : ∀ text, tooDeep text
          = (tooDeep text).map fun read : Json × List Char => (read.1.tidied, read.2) :=
        fun _ => rfl
      exact node_tidied hdeep hdeep text
  | succ depth ih =>
      rw [value, verbatim]
      refine node_tidied (fun text => ?_) (fun text => ?_) text
      · have hitems := items_map tidied ih text true text
        simp only [array, bind, Except.bind, hitems]
        cases items (verbatim depth) text true text with
        | error failure => rfl
        | ok read => simp only [Except.map, tidied_arr]
      · have hentries := listed_tidied ih text true text
        -- The reader puts entries into the dictionary as it goes, here that is done at the end.
        have hdictionary : members (member (value depth)) text true [] text
            = (members (listed (value depth)) text true [] text).map
              fun read => (Dictionary.ofList read.1, read.2) :=
          members_map Dictionary.ofList (member_ofList (value depth)) text true [] text
        simp only [objectOf, entriesOf, bind, Except.bind, hdictionary, hentries]
        cases members (listed (verbatim depth)) text true [] text with
        | error failure => rfl
        | ok read => simp only [Except.map, tidied_obj, object]

/-- A text spells one value. -/
theorem Verbatim.unique {text : String} {v w : Json} (hv : Verbatim text v)
    (hw : Verbatim text w) : v = w := by
  rcases hv with ⟨_, hv, -⟩
  rcases hw with ⟨_, hw, -⟩
  rw [hv] at hw
  exact congrArg Prod.fst (Except.ok.inj hw)

/-- What is read from a text is the tidied form of the value it spells. -/
theorem parse_eq_ok_iff_verbatim {text : String} {v : Json} :
    parse text = .ok v ↔ ∃ w, Verbatim text w ∧ w.tidied = v := by
  rw [parse_eq_ok_iff]
  simp only [value_eq_tidied, map_eq_ok, Prod.exists, Prod.mk.injEq]
  constructor
  · rintro ⟨rest, ⟨w, _, hread, rfl, rfl⟩, hblank⟩
    exact ⟨w, ⟨_, hread, hblank⟩, rfl⟩
  · rintro ⟨w, ⟨rest, hread, hblank⟩, rfl⟩
    exact ⟨rest, ⟨w, rest, hread, rfl, rfl⟩, hblank⟩

/-! ### What a text spells -/

section

variable {depth : Nat} {text rest : List Char}

/-- Behind an opening bracket there is no scalar. -/
theorem scalar_opening {c : Char} (hopen : c = '[' ∨ c = '\x7b') (inside : List Char)
    {read : Json × List Char} : scalar (c :: inside) ≠ .ok read := by
  intro h
  rcases hopen with rfl | rfl
  · cases h
  · cases h

/-- A value that is neither array nor object is read as a scalar. -/
theorem verbatim_eq_scalar_iff {v : Json} (harr : ∀ values, Json.arr values ≠ v)
    (hobj : ∀ entries, Json.obj entries ≠ v) :
    verbatim depth text = .ok (v, rest) ↔ scalar (skipBlanks text) = .ok (v, rest) := by
  have harray : ∀ (item : Reader Json) (inside : List Char), array item inside ≠ .ok (v, rest) := by
    intro item inside h
    simp only [array, bind_eq_ok, Prod.exists] at h
    rcases h with ⟨values, _, -, h⟩
    cases h
    exact harr values rfl
  have hobject : ∀ (item : Reader Json) (inside : List Char),
      entriesOf item inside ≠ .ok (v, rest) := by
    intro item inside h
    simp only [entriesOf, bind_eq_ok, Prod.exists] at h
    rcases h with ⟨entries, _, -, h⟩
    cases h
    exact hobj entries rfl
  -- So only the reader of scalars is left to have read it.
  have hnode : ∀ array object : Reader Json, (∀ inside, array inside ≠ .ok (v, rest)) →
      (∀ inside, object inside ≠ .ok (v, rest)) →
      (node array object text = .ok (v, rest) ↔ scalar (skipBlanks text) = .ok (v, rest)) := by
    intro array object harray hobject
    unfold node
    split
    · rename_i inside hopen
      rw [hopen]
      exact iff_of_false (harray inside) (scalar_opening (.inl rfl) inside)
    · rename_i inside hopen
      rw [hopen]
      exact iff_of_false (hobject inside) (scalar_opening (.inr rfl) inside)
    · exact Iff.rfl
  cases depth with
  | zero => exact hnode _ _ (by rintro _ ⟨⟩) (by rintro _ ⟨⟩)
  | succ depth => exact hnode _ _ (harray _) (hobject _)

theorem scalar_null_iff : scalar text = .ok (.null, rest) ↔
    ∃ inside, text = 'n' :: inside ∧ word "ull".toList inside = .ok rest := by
  constructor
  · intro h
    cases scalarAt_of_scalar h with
    | null hword => exact ⟨_, rfl, hword⟩
  · rintro ⟨inside, rfl, hword⟩
    rw [scalar, hword]
    rfl

theorem scalar_str_iff {content : String} : scalar text = .ok (.str content, rest) ↔
    ∃ inside, text = '"' :: inside ∧ string inside = .ok (content, rest) := by
  constructor
  · intro h
    cases scalarAt_of_scalar h with
    | str hstring => exact ⟨_, rfl, hstring⟩
  · rintro ⟨inside, rfl, hstring⟩
    rw [scalar, hstring]
    rfl

theorem scalar_ne_arr {values : List Json} : scalar text ≠ .ok (.arr values, rest) := by
  intro h
  cases scalarAt_of_scalar h

/-- A null is spelled by its word. -/
theorem verbatim_null_iff : verbatim depth text = .ok (.null, rest) ↔
    ∃ inside, skipBlanks text = 'n' :: inside ∧ word "ull".toList inside = .ok rest := by
  rw [verbatim_eq_scalar_iff (by simp) (by simp), scalar_null_iff]

/-- A string is spelled behind a quote. -/
theorem verbatim_str_iff {content : String} : verbatim depth text = .ok (.str content, rest) ↔
    ∃ inside, skipBlanks text = '"' :: inside ∧ string inside = .ok (content, rest) := by
  rw [verbatim_eq_scalar_iff (by simp) (by simp), scalar_str_iff]

/-- An object is spelled by its entries behind a brace. -/
theorem verbatim_obj_iff {entries : List (String × Json)} :
    verbatim (depth + 1) text = .ok (.obj entries, rest) ↔
      ∃ inside, skipBlanks text = '\x7b' :: inside ∧
        members (listed (verbatim depth)) inside true [] inside = .ok (entries, rest) := by
  rw [verbatim, node]
  split
  · rename_i inside hopen
    refine iff_of_false (fun h => ?_) ?_
    · simp only [array, bind_eq_ok, Prod.exists] at h
      rcases h with ⟨_, _, -, h⟩
      cases h
    · rintro ⟨_, h, -⟩
      cases hopen.symm.trans h
  · rename_i inside hopen
    simp only [entriesOf, bind_eq_ok, Prod.exists]
    constructor
    · rintro ⟨entries, _, hentries, h⟩
      cases h
      exact ⟨inside, hopen, hentries⟩
    · rintro ⟨_, h, hentries⟩
      cases hopen.symm.trans h
      exact ⟨entries, rest, hentries, rfl⟩
  · rename_i hobject
    refine iff_of_false scalar_ne_obj ?_
    rintro ⟨inside, h, -⟩
    exact hobject inside h

/-- An array is spelled by its items behind a bracket. -/
theorem verbatim_arr_iff {values : List Json} :
    verbatim (depth + 1) text = .ok (.arr values, rest) ↔
      ∃ inside, skipBlanks text = '[' :: inside ∧
        items (verbatim depth) inside true inside = .ok (values, rest) := by
  rw [verbatim, node]
  split
  · rename_i inside hopen
    simp only [array, bind_eq_ok, Prod.exists]
    constructor
    · rintro ⟨values, _, hvalues, h⟩
      cases h
      exact ⟨inside, hopen, hvalues⟩
    · rintro ⟨_, h, hvalues⟩
      cases hopen.symm.trans h
      exact ⟨values, rest, hvalues, rfl⟩
  · rename_i inside hopen
    refine iff_of_false (fun h => ?_) ?_
    · simp only [entriesOf, bind_eq_ok, Prod.exists] at h
      rcases h with ⟨_, _, -, h⟩
      cases h
    · rintro ⟨_, h, -⟩
      cases hopen.symm.trans h
  · rename_i harray _
    refine iff_of_false scalar_ne_arr ?_
    rintro ⟨inside, h, -⟩
    exact harray inside h

/-- Blanks in front of a value are passed over. -/
theorem verbatim_skipBlanks : verbatim depth (skipBlanks text) = verbatim depth text := by
  cases depth <;> simp only [verbatim, node, skipBlanks_skipBlanks]

end

/-! ### What is written is spelled -/

theorem reads_null (depth : Nat) : Reads (verbatim depth) .null := by
  intro rest
  rw [compactChars]
  cases depth <;> rfl

theorem reads_str (depth : Nat) (content : String) : Reads (verbatim depth) (.str content) := by
  intro rest
  rw [compactChars]
  cases depth <;> exact node_str _ _ content rest

/-- An array is read back if its items are. -/
theorem reads_arr {depth : Nat} {values : List Json} (htextual : ∀ item ∈ values, Textual item)
    (hreads : ∀ item ∈ values, Reads (verbatim depth) item) :
    Reads (verbatim (depth + 1)) (.arr values) := by
  intro rest
  rw [compactChars_arr_append, verbatim, node_arr, array,
    items_reads htextual hreads (length_lt_itemsText htextual rest)]
  rfl

/-- An object is read back if the values of its entries are, whatever their order
    and their keys. -/
theorem reads_obj {depth : Nat} {entries : List (String × Json)}
    (hreads : ∀ entry ∈ entries, Reads (verbatim depth) entry.2) :
    Reads (verbatim (depth + 1)) (.obj entries) := by
  intro rest
  have hloop := listed_reads [] hreads (length_lt_membersText entries rest) true rest
  rw [List.nil_append] at hloop
  rw [compactChars_obj_append, verbatim, node_obj, entriesOf, hloop]
  rfl

/-- The text of a value that is read back spells the value. -/
theorem verbatim_compact {v : Json} (h : Reads (verbatim maxDepth) v) : Verbatim v.compact v := by
  refine ⟨[], ?_, rfl⟩
  rw [toList_compact]
  exact h []

end Json

end TableClient
