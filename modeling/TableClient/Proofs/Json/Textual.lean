import Mathlib.Data.List.DropRight
import TableClient.Proofs.Json.Strings

/-!
# The Text of Strings, Arrays and Objects

What the text written for a value looks like to a reader.

Expressions travel as strings, arrays and objects, and `Textual` values are
those made of nothing else. Their texts start with a quote or a bracket and
have no blanks around them. So a reader that looks for the next item, the next
key or the end finds it at once, and a comma in front of all but the first is
the only thing between two items or two members. `itemsText` and `membersText`
write a list with or without the first comma, as a loop meets it in its first
round and in the later ones.

## Main definitions

* `depth`: How deep a value nests arrays and objects.
* `Textual`: A value of strings, arrays and objects.
* `separator`: What stands in front of an item or a member.
* `itemsText`, `membersText`: The text of items and of members.

## Theorems

* `depthItems_le_iff`, `depthMembers_le_iff`: The depth of each item or member
  is within a bound.
* `front_textual`: What the text of a value starts with.
* `nextItem_separator`, `nextKey_separator`: The next item or key is found.
* `nextItem_end`, `nextKey_end`: So is the end.
* `compactChars_arr_append`, `compactChars_obj_append`: The text of an array
  and of an object.
* `length_lt_itemsText`, `length_lt_membersText`: A text is longer than the
  list that was written.
-/

namespace TableClient

namespace Json

mutual

/-- The number of levels of arrays and objects in a value. -/
def depth : Json → Nat
  | .arr items => depthItems items + 1
  | .obj members => depthMembers members + 1
  | _ => 0

/-- The greatest depth among some items. -/
def depthItems : List Json → Nat
  | [] => 0
  | item :: rest => max (depth item) (depthItems rest)

/-- The greatest depth among the values of some members. -/
def depthMembers : List (String × Json) → Nat
  | [] => 0
  | (_, value) :: rest => max (depth value) (depthMembers rest)

end

@[simp]
theorem depth_str (text : String) : depth (.str text) = 0 :=
  rfl

/-- A value made of strings, arrays and objects in order. -/
inductive Textual : Json → Prop where
  | str (text : String) : Textual (.str text)
  | arr {items : List Json} (hitems : ∀ item ∈ items, Textual item) : Textual (.arr items)
  | obj {members : List (String × Json)} (hordered : Dictionary.Ordered members)
    (hmembers : ∀ member ∈ members, Textual member.2) : Textual (.obj members)

/-! ### The front of a text -/

/-- The characters that the text of a string, an array or an object starts
    with. -/
def starts : List Char :=
  ['"', '[', '\x7b']

theorem front_textual {value : Json} (h : Textual value) :
    ∃ c ∈ starts, ∃ rest, value.compactChars = c :: rest := by
  cases h with
  | str text => exact ⟨'"', by decide, _, by rw [compactChars, quoted]; rfl⟩
  | arr _ => exact ⟨'[', by decide, _, by rw [compactChars]; rfl⟩
  | obj _ _ => exact ⟨'\x7b', by decide, _, by rw [compactChars]; rfl⟩

/-- A text that does not start with a blank is not shortened. -/
theorem skipBlanks_cons {c : Char} (h : isBlank c = false) (rest : List Char) :
    skipBlanks (c :: rest) = c :: rest := by
  rw [skipBlanks, List.dropWhile_cons, h]
  rfl

theorem skipBlanks_skipBlanks (text : List Char) :
    skipBlanks (skipBlanks text) = skipBlanks text :=
  List.dropWhile_idempotent isBlank text

theorem skipBlanks_textual {value : Json} (h : Textual value) (rest : List Char) :
    skipBlanks (value.compactChars ++ rest) = value.compactChars ++ rest := by
  rcases front_textual h with ⟨c, hc, tail, hfront⟩
  have hblank : ∀ c ∈ starts, isBlank c = false := by
    simp only [starts, List.forall_mem_cons]
    exact ⟨rfl, rfl, rfl, fun c hc => (List.not_mem_nil hc).elim⟩
  rw [hfront, List.cons_append, skipBlanks_cons (hblank c hc)]

/-- What stands in front of an item or a member. -/
def separator (first : Bool) : List Char :=
  if first then [] else [',']

theorem nextItem_separator {value : Json} (h : Textual value) (first : Bool) (rest : List Char) :
    nextItem first (separator first ++ (value.compactChars ++ rest))
      = .ok (true, value.compactChars ++ rest) := by
  have hskip := skipBlanks_textual h rest
  rcases front_textual h with ⟨c, hc, tail, hfront⟩
  rw [hfront, List.cons_append] at hskip ⊢
  unfold nextItem
  cases first with
  | true =>
      rw [separator, if_pos rfl, List.nil_append, hskip]
      simp only [starts, List.mem_cons, List.not_mem_nil, or_false] at hc
      rcases hc with rfl | rfl | rfl <;> rfl
  | false =>
      rw [separator, if_neg Bool.false_ne_true, List.singleton_append, skipBlanks_cons (by decide)]
      simp only [hskip, starts, List.mem_cons, List.not_mem_nil, or_false] at hc ⊢
      rcases hc with rfl | rfl | rfl <;> rfl

theorem nextItem_end (first : Bool) (rest : List Char) :
    nextItem first (']' :: rest) = .ok (false, rest) := by
  unfold nextItem
  rw [skipBlanks_cons (by decide)]
  rfl

theorem nextKey_separator (first : Bool) (key : String) (rest : List Char) :
    nextKey first (separator first ++ (quoted key ++ rest)) = .ok (some key, rest) := by
  rw [quoted_append]
  unfold nextKey
  cases first with
  | true =>
      rw [separator, if_pos rfl, List.nil_append, skipBlanks_cons (by decide)]
      change (string _ >>= _) = _
      rw [string_escaped]
      rfl
  | false =>
      rw [separator, if_neg Bool.false_ne_true, List.singleton_append, skipBlanks_cons (by decide)]
      simp only [skipBlanks_cons (show isBlank '"' = false by decide)]
      change (string _ >>= _) = _
      rw [string_escaped]
      rfl

theorem nextKey_end (first : Bool) (rest : List Char) :
    nextKey first ('\x7d' :: rest) = .ok (none, rest) := by
  unfold nextKey
  rw [skipBlanks_cons (by decide)]
  rfl

/-! ### Items and members -/

theorem depthItems_le_iff (items : List Json) (bound : Nat) :
    depthItems items ≤ bound ↔ ∀ item ∈ items, item.depth ≤ bound := by
  induction items with
  | nil => simp only [depthItems, Nat.zero_le, List.not_mem_nil, false_implies, implies_true]
  | cons item rest ih => rw [depthItems, Nat.max_le, ih, List.forall_mem_cons]

/-- The text of items, the first of them with or without a comma in front. -/
def itemsText (first : Bool) : List Json → List Char
  | [] => []
  | item :: rest => separator first ++ (item.compactChars ++ compactItemsTail rest)

theorem compactItems_eq (items : List Json) : compactItems items = itemsText true items := by
  cases items with
  | nil => rw [compactItems, itemsText]
  | cons item rest => rw [compactItems, itemsText, separator, if_pos rfl, List.nil_append]

theorem compactItemsTail_eq (items : List Json) :
    compactItemsTail items = itemsText false items := by
  cases items with
  | nil => rw [compactItemsTail, itemsText]
  | cons item rest =>
      rw [compactItemsTail, itemsText, separator, if_neg Bool.false_ne_true]
      rfl

theorem length_le_itemsText {items : List Json} (h : ∀ item ∈ items, Textual item) (first : Bool) :
    items.length ≤ (itemsText first items).length := by
  induction items generalizing first with
  | nil => exact Nat.zero_le _
  | cons item rest ih =>
      rcases List.forall_mem_cons.1 h with ⟨hitem, hitems⟩
      rcases front_textual hitem with ⟨c, _, tail, hfront⟩
      have hrest := ih hitems false
      rw [itemsText, compactItemsTail_eq, hfront]
      simp only [List.length_append, List.length_cons]
      omega

theorem depthMembers_le_iff (members : List (String × Json)) (bound : Nat) :
    depthMembers members ≤ bound ↔ ∀ member ∈ members, member.2.depth ≤ bound := by
  induction members with
  | nil => simp only [depthMembers, Nat.zero_le, List.not_mem_nil, false_implies, implies_true]
  | cons member rest ih => rw [depthMembers, Nat.max_le, ih, List.forall_mem_cons]

/-- The text of members, the first of them with or without a comma in
    front. -/
def membersText (first : Bool) : List (String × Json) → List Char
  | [] => []
  | (key, value) :: rest =>
    separator first ++ (quoted key ++ ':' :: (value.compactChars ++ compactMembersTail rest))

theorem compactMembers_eq (members : List (String × Json)) :
    compactMembers members = membersText true members := by
  cases members with
  | nil => rw [compactMembers, membersText]
  | cons member rest =>
      rw [compactMembers, membersText, separator, if_pos rfl, List.nil_append, List.append_assoc]
      rfl

theorem compactMembersTail_eq (members : List (String × Json)) :
    compactMembersTail members = membersText false members := by
  cases members with
  | nil => rw [compactMembersTail, membersText]
  | cons member rest =>
      rw [compactMembersTail, membersText, separator, if_neg Bool.false_ne_true,
        List.append_assoc]
      rfl

theorem length_le_membersText (members : List (String × Json)) (first : Bool) :
    members.length ≤ (membersText first members).length := by
  induction members generalizing first with
  | nil => exact Nat.zero_le _
  | cons member rest ih =>
      have hrest := ih false
      rw [membersText, compactMembersTail_eq]
      simp only [List.length_append, List.length_cons]
      omega

theorem compactChars_arr_append (values : List Json) (rest : List Char) :
    (Json.arr values).compactChars ++ rest = '[' :: (itemsText true values ++ ']' :: rest) := by
  rw [compactChars, compactItems_eq, List.cons_append, List.cons_append, List.append_assoc,
    List.singleton_append]

theorem compactChars_obj_append (fields : List (String × Json)) (rest : List Char) :
    (Json.obj fields).compactChars ++ rest
      = '\x7b' :: (membersText true fields ++ '\x7d' :: rest) := by
  rw [compactChars, compactMembers_eq, List.cons_append, List.cons_append, List.append_assoc,
    List.singleton_append]

/-- The loop over items starts with the text as its bound, which is long
    enough. -/
theorem length_lt_itemsText {values : List Json} (h : ∀ item ∈ values, Textual item)
    (rest : List Char) : values.length < (itemsText true values ++ ']' :: rest).length := by
  have hle := length_le_itemsText h true
  rw [List.length_append, List.length_cons]
  omega

/-- So does the loop over members. -/
theorem length_lt_membersText (fields : List (String × Json)) (rest : List Char) :
    fields.length < (membersText true fields ++ '\x7d' :: rest).length := by
  have hle := length_le_membersText fields true
  rw [List.length_append, List.length_cons]
  omega

end Json

end TableClient
