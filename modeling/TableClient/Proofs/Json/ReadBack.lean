import TableClient.Proofs.Json.Textual

/-!
# Values Read Back

Which values are read back from the text that was written for them.

The text of a string ends at its quote and that of an array or an object at
its bracket. So what follows a text is never looked at, and `Reads` can say
that a reader takes just the text of a value from the front of whatever there
is. Numbers lack this, as a digit behind a number would belong to it.

A reader has a bound on the nesting of arrays and objects. A value that does
not nest deeper is read back. One that does is refused, and for no other
reason, since everything in front of the bracket that goes too deep has been
read. Both are inductions over the value, with the bound left free; the loops
over items and members are the same in both up to the item that is refused.

## Main definitions

* `Reads`: A reader that reads a value back.
* `Refuses`: A reader for which a value is too deep.

## Theorems

* `items_cons`, `members_cons`: One round of a loop.
* `items_reads`, `members_reads`: The loops read back what they are given.
* `items_refuses`, `members_refuses`: The loops stop at what is too deep.
* `value_reads`: A value within the bound is read back.
* `value_refuses`: Any other is refused as too deep.
* `parse_compact`, `parse_compact_tooDeep`: The same for whole texts.
-/

namespace TableClient

namespace Json

/-- The reader reads the value from its text, whatever follows the text. -/
def Reads (reader : Reader Json) (value : Json) : Prop :=
  ∀ rest, reader (value.compactChars ++ rest) = .ok (value, rest)

/-- The reader finds that the value goes too deep, whatever follows its
    text. -/
def Refuses (reader : Reader Json) (value : Json) : Prop :=
  ∀ rest, ∃ unread, reader (value.compactChars ++ rest) = .error ⟨.tooDeep, unread⟩

/-! ### Items -/

/-- One round of the loop over items, up to the item itself. -/
theorem items_cons {item : Json} (h : Textual item) (reader : Reader Json) (x : Char)
    (bound : List Char) (first : Bool) (tail : List Char) :
    items reader (x :: bound) first (separator first ++ (item.compactChars ++ tail))
      = (do
          let (value, rest) ← reader (item.compactChars ++ tail)
          let (values, rest) ← items reader bound false rest
          .ok (value :: values, rest)) := by
  rw [items, nextItem_separator h]
  rfl

/-- The loop over items reads back the items that the reader reads back. -/
theorem items_reads {reader : Reader Json} {values : List Json}
    (htextual : ∀ item ∈ values, Textual item) (hreads : ∀ item ∈ values, Reads reader item)
    {bound : List Char} (hbound : values.length < bound.length) (first : Bool)
    (rest : List Char) :
    items reader bound first (itemsText first values ++ ']' :: rest) = .ok (values, rest) := by
  induction values generalizing bound first with
  | nil =>
      rcases bound with _ | ⟨x, bound⟩
      · exact absurd hbound (Nat.not_lt_zero _)
      · rw [itemsText, List.nil_append, items, nextItem_end]
        rfl
  | cons item values ih =>
      rcases List.forall_mem_cons.1 htextual with ⟨hitem, hitems⟩
      rcases List.forall_mem_cons.1 hreads with ⟨hread, hreadRest⟩
      rcases bound with _ | ⟨x, bound⟩
      · exact absurd hbound (Nat.not_lt_zero _)
      · have hrest := ih hitems hreadRest (Nat.lt_of_succ_lt_succ hbound) false
        rw [itemsText, List.append_assoc, List.append_assoc, items_cons hitem, hread,
          compactItemsTail_eq]
        change (items reader bound false _ >>= _) = _
        rw [hrest]
        rfl

/-- The loop over items stops at the first one that goes too deep. -/
theorem items_refuses {reader : Reader Json} {limit : Nat} {values : List Json}
    (htextual : ∀ item ∈ values, Textual item)
    (hreads : ∀ item ∈ values, item.depth ≤ limit → Reads reader item)
    (hrefuses : ∀ item ∈ values, limit < item.depth → Refuses reader item)
    (hdeep : limit < depthItems values) {bound : List Char}
    (hbound : values.length < bound.length) (first : Bool) (rest : List Char) :
    ∃ unread, items reader bound first (itemsText first values ++ ']' :: rest)
      = .error ⟨.tooDeep, unread⟩ := by
  induction values generalizing bound first with
  | nil => exact absurd hdeep (Nat.not_lt_zero _)
  | cons item values ih =>
      rcases List.forall_mem_cons.1 htextual with ⟨hitem, hitems⟩
      rcases List.forall_mem_cons.1 hreads with ⟨hread, hreadRest⟩
      rcases List.forall_mem_cons.1 hrefuses with ⟨hrefuse, hrefuseRest⟩
      rcases bound with _ | ⟨x, bound⟩
      · exact absurd hbound (Nat.not_lt_zero _)
      · rw [itemsText, List.append_assoc, List.append_assoc, items_cons hitem,
          compactItemsTail_eq]
        by_cases hdepth : item.depth ≤ limit
        · -- This item is read, so one of the others goes too deep.
          have hothers : limit < depthItems values := by
            rw [depthItems] at hdeep
            omega
          rcases ih hitems hreadRest hrefuseRest hothers (Nat.lt_of_succ_lt_succ hbound) false with
            ⟨unread, hunread⟩
          rw [hread hdepth]
          change ∃ unread, (items reader bound false _ >>= _) = _
          rw [hunread]
          exact ⟨unread, rfl⟩
        · rcases hrefuse (Nat.lt_of_not_le hdepth) (itemsText false values ++ ']' :: rest) with
            ⟨unread, hunread⟩
          rw [hunread]
          exact ⟨unread, rfl⟩

/-! ### Members -/

/-- One round of the loop over members, up to what follows the key. -/
theorem members_cons {σ : Type} (entry : σ → String → Reader σ) (x : Char) (bound : List Char)
    (first : Bool) (state : σ) (key : String) (tail : List Char) :
    members entry (x :: bound) first state (separator first ++ (quoted key ++ tail))
      = (do
          let (state, rest) ← entry state key tail
          members entry bound false state rest) := by
  rw [members, nextKey_separator]
  rfl

theorem members_end {σ : Type} (entry : σ → String → Reader σ) (x : Char) (bound : List Char)
    (first : Bool) (state : σ) (rest : List Char) :
    members entry (x :: bound) first state ('\x7d' :: rest) = .ok (state, rest) := by
  rw [members, nextKey_end]
  rfl

theorem colon_cons (rest : List Char) : colon (':' :: rest) = .ok rest := by
  unfold colon
  rw [skipBlanks_cons (by decide)]
  rfl

/-- The loop over members reads back the members whose values the reader reads
    back. They come in the order of their keys, so each is put behind those
    that are there. -/
theorem members_reads {reader : Reader Json} (entries : List (String × Json))
    {fields : List (String × Json)} (hordered : Dictionary.Ordered (entries ++ fields))
    (hreads : ∀ field ∈ fields, Reads reader field.2) {bound : List Char}
    (hbound : fields.length < bound.length) (first : Bool) (rest : List Char) :
    members (member reader) bound first entries (membersText first fields ++ '\x7d' :: rest)
      = .ok (entries ++ fields, rest) := by
  induction fields generalizing bound first entries with
  | nil =>
      rcases bound with _ | ⟨x, bound⟩
      · exact absurd hbound (Nat.not_lt_zero _)
      · rw [membersText, List.nil_append, members_end, List.append_nil]
  | cons field fields ih =>
      rcases field with ⟨key, value⟩
      rcases List.forall_mem_cons.1 hreads with ⟨hread, hreadRest⟩
      rcases bound with _ | ⟨x, bound⟩
      · exact absurd hbound (Nat.not_lt_zero _)
      · have hgreatest : ∀ entry ∈ entries, entry.1 < key := fun entry hentry =>
          (List.pairwise_append.1 hordered).2.2 entry hentry (key, value) List.mem_cons_self
        have hsplit : entries ++ (key, value) :: fields = entries ++ [(key, value)] ++ fields := by
          rw [List.append_assoc, List.singleton_append]
        have hrest := ih _ (hsplit ▸ hordered) hreadRest (Nat.lt_of_succ_lt_succ hbound) false
        rw [membersText, List.append_assoc, List.append_assoc, members_cons, List.cons_append,
          List.append_assoc, member, colon_cons, hsplit, compactMembersTail_eq]
        change ((reader _ >>= _) >>= _) = _
        rw [hread]
        -- The key is greater than all that are there, so it goes behind them.
        change members _ _ _ (Dictionary.insert key value entries) _ = _
        rw [Dictionary.insert_eq_append hgreatest, hrest]

/-- The loop over members stops at the first value that goes too deep. -/
theorem members_refuses {reader : Reader Json} {limit : Nat} {fields : List (String × Json)}
    (entries : List (String × Json))
    (hreads : ∀ field ∈ fields, field.2.depth ≤ limit → Reads reader field.2)
    (hrefuses : ∀ field ∈ fields, limit < field.2.depth → Refuses reader field.2)
    (hdeep : limit < depthMembers fields) {bound : List Char}
    (hbound : fields.length < bound.length) (first : Bool) (rest : List Char) :
    ∃ unread, members (member reader) bound first entries
      (membersText first fields ++ '\x7d' :: rest) = .error ⟨.tooDeep, unread⟩ := by
  induction fields generalizing bound first entries with
  | nil => exact absurd hdeep (Nat.not_lt_zero _)
  | cons field fields ih =>
      rcases field with ⟨key, value⟩
      rcases List.forall_mem_cons.1 hreads with ⟨hread, hreadRest⟩
      rcases List.forall_mem_cons.1 hrefuses with ⟨hrefuse, hrefuseRest⟩
      rcases bound with _ | ⟨x, bound⟩
      · exact absurd hbound (Nat.not_lt_zero _)
      · rw [membersText, List.append_assoc, List.append_assoc, members_cons, List.cons_append,
          List.append_assoc, member, colon_cons, compactMembersTail_eq]
        change ∃ unread, ((reader _ >>= _) >>= _) = _
        by_cases hdepth : value.depth ≤ limit
        · -- This value is read, so one of the others goes too deep.
          have hothers : limit < depthMembers fields := by
            rw [depthMembers] at hdeep
            omega
          rcases ih (Dictionary.insert key value entries) hreadRest hrefuseRest hothers
            (Nat.lt_of_succ_lt_succ hbound) false with ⟨unread, hunread⟩
          rw [hread hdepth]
          exact ⟨unread, hunread⟩
        · rcases hrefuse (Nat.lt_of_not_le hdepth) (membersText false fields ++ '\x7d' :: rest) with
            ⟨unread, hunread⟩
          rw [hunread]
          exact ⟨unread, rfl⟩

/-! ### Values -/

theorem node_str (array object : Reader Json) (text : String) (rest : List Char) :
    node array object (quoted text ++ rest) = .ok (.str text, rest) := by
  rw [quoted_append]
  unfold node
  rw [skipBlanks_cons (by decide)]
  change (string _ >>= _) = _
  rw [string_escaped]
  rfl

theorem node_arr (array object : Reader Json) (rest : List Char) :
    node array object ('[' :: rest) = array rest := by
  unfold node
  rw [skipBlanks_cons (by decide)]
  rfl

theorem node_obj (array object : Reader Json) (rest : List Char) :
    node array object ('\x7b' :: rest) = object rest := by
  unfold node
  rw [skipBlanks_cons (by decide)]
  rfl

/-- A value within the bound is read back. -/
theorem value_reads {v : Json} (h : Textual v) {limit : Nat} (hdepth : v.depth ≤ limit) :
    Reads (value limit) v := by
  induction h generalizing limit with
  | str text =>
      intro rest
      rw [compactChars]
      cases limit with
      | zero => exact node_str _ _ text rest
      | succ limit => exact node_str _ _ text rest
  | @arr values hitems ih =>
      intro rest
      rw [depth] at hdepth
      rcases limit with _ | limit
      · exact absurd hdepth (Nat.not_succ_le_zero _)
      · have hvalues := (depthItems_le_iff values limit).1 (Nat.le_of_succ_le_succ hdepth)
        rw [compactChars_arr_append, value, node_arr, array,
          items_reads hitems (fun item hmem => ih item hmem (hvalues item hmem))
            (length_lt_itemsText hitems rest)]
        rfl
  | @obj fields hordered hmembers ih =>
      intro rest
      rw [depth] at hdepth
      rcases limit with _ | limit
      · exact absurd hdepth (Nat.not_succ_le_zero _)
      · have hfields := (depthMembers_le_iff fields limit).1 (Nat.le_of_succ_le_succ hdepth)
        rw [compactChars_obj_append, value, node_obj, objectOf,
          members_reads [] hordered
            (fun field hmem => ih field hmem (hfields field hmem))
            (length_lt_membersText fields rest)]
        rfl

/-- A value that goes deeper than the bound is refused, and for no other
    reason. -/
theorem value_refuses {v : Json} (h : Textual v) {limit : Nat} (hdeep : limit < v.depth) :
    Refuses (value limit) v := by
  induction h generalizing limit with
  | str text => exact absurd hdeep (Nat.not_lt_zero _)
  | @arr values hitems ih =>
      intro rest
      rw [depth] at hdeep
      rcases limit with _ | limit
      · -- The bracket itself is one too many.
        rw [compactChars_arr_append, value, node_arr]
        exact ⟨_, rfl⟩
      · rcases items_refuses hitems (fun item hmem => value_reads (hitems item hmem))
          (fun item hmem => ih item hmem) (Nat.lt_of_succ_lt_succ hdeep)
          (length_lt_itemsText hitems rest) true rest with ⟨unread, hunread⟩
        rw [compactChars_arr_append, value, node_arr, array, hunread]
        exact ⟨unread, rfl⟩
  | @obj fields hordered hmembers ih =>
      intro rest
      rw [depth] at hdeep
      rcases limit with _ | limit
      · rw [compactChars_obj_append, value, node_obj]
        exact ⟨_, rfl⟩
      · rcases members_refuses [] (fun field hmem => value_reads (hmembers field hmem))
          (fun field hmem => ih field hmem) (Nat.lt_of_succ_lt_succ hdeep)
          (length_lt_membersText fields rest) true rest with ⟨unread, hunread⟩
        rw [compactChars_obj_append, value, node_obj, objectOf, hunread]
        exact ⟨unread, rfl⟩

/-! ### Whole texts -/

theorem toList_compact (v : Json) : v.compact.toList = v.compactChars ++ [] := by
  rw [compact, String.toList_ofList, List.append_nil]

/-- A value is read back from its text. -/
theorem parse_compact {v : Json} (h : Textual v) (hdepth : v.depth ≤ maxDepth) :
    parse v.compact = .ok v := by
  rw [parse, Reader.run, toList_compact, value_reads h hdepth]
  rfl

/-- The text of a value that goes too deep is refused as such. -/
theorem parse_compact_tooDeep {v : Json} (h : Textual v) (hdeep : maxDepth < v.depth) :
    ∃ place, parse v.compact = .error ⟨.tooDeep, some place⟩ := by
  rcases value_refuses h hdeep [] with ⟨unread, hunread⟩
  rw [parse, Reader.run, toList_compact, hunread]
  exact ⟨_, rfl⟩

end Json

end TableClient
