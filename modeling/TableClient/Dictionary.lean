/-!
# Dictionaries Kept in Key Order

Lists of entries with text keys, kept in the order of the keys.

The order is that of the keys' code points, which is also the order of their
UTF-8 bytes. An entry put under a key that is already there takes its place,
so of several entries given for one key the last one stays.

The operations work on any list of entries. `Ordered` says which lists are
dictionaries proper, with each key once and in its place; `ordered_ofList`
says that reading entries one after the other gives such a list.

## Main definitions

* `get?`: The value of the first entry with a key.
* `insert`: An entry put in its place.
* `ofList`: Entries put in one after the other.
* `Ordered`: Keys that only grow.

## Theorems

* `ordered_of_keys`: The order is one of the keys alone.
* `get?_append`: The first of two lists is asked first.
* `get?_insert`: What an entry put in changes about looking up.
* `insert_eq_append`: The entry with the greatest key is put at the end.
* `ordered_insert`: Putting an entry in keeps the order.
* `ordered_ofList`: Entries put in one after the other are in order.
-/

namespace TableClient

namespace Dictionary

variable {α : Type}

/-- The value of the first entry with the key. -/
def get? (key : String) : List (String × α) → Option α
  | [] => none
  | (name, value) :: rest => if name = key then some value else get? key rest

/-- Puts an entry before the first greater key, in place of the entry with
    the same key. -/
def insert (key : String) (value : α) : List (String × α) → List (String × α)
  | [] => [(key, value)]
  | (name, old) :: rest =>
    if key < name then (key, value) :: (name, old) :: rest
    else if name = key then (key, value) :: rest
    else (name, old) :: insert key value rest

/-- Puts entries in one after the other; a later one replaces an earlier one
    with the same key. -/
def ofList (entries : List (String × α)) : List (String × α) :=
  entries.foldl (fun dict entry => insert entry.1 entry.2 dict) []

/-- The keys grow from entry to entry. -/
def Ordered (entries : List (String × α)) : Prop :=
  entries.Pairwise fun a b => a.1 < b.1

instance (entries : List (String × α)) : Decidable (Ordered entries) :=
  inferInstanceAs (Decidable (entries.Pairwise fun a b => a.1 < b.1))

/-- The order is one of the keys alone. -/
theorem ordered_of_keys {entries : List (String × α)} (keys : List String)
    (hkeys : entries.map Prod.fst = keys) (h : keys.Pairwise (· < ·)) : Ordered entries := by
  rw [← hkeys, List.pairwise_map] at h
  exact h

theorem get?_append (key : String) (first second : List (String × α)) :
    get? key (first ++ second) = (get? key first).or (get? key second) := by
  induction first with
  | nil => rfl
  | cons entry rest ih =>
    obtain ⟨name, value⟩ := entry
    rw [List.cons_append, get?, get?, ih]
    split <;> rfl

theorem get?_insert (key other : String) (value : α) (entries : List (String × α)) :
    get? other (insert key value entries)
      = if key = other then some value else get? other entries := by
  induction entries with
  | nil => rfl
  | cons entry rest ih =>
    obtain ⟨name, old⟩ := entry
    simp only [insert]
    split
    · rfl
    · split
      · subst name
        simp only [get?]
        split <;> rfl
      · rename_i hname
        simp only [get?, ih]
        by_cases ho : name = other
        · simp [ho, show ¬key = other from fun h => hname (ho.trans h.symm)]
        · simp [ho]

/-- An entry whose key is greater than all others is put at the end. -/
theorem insert_eq_append {key : String} {value : α} {entries : List (String × α)}
    (h : ∀ entry ∈ entries, entry.1 < key) :
    insert key value entries = entries ++ [(key, value)] := by
  induction entries with
  | nil => rfl
  | cons head rest ih =>
    obtain ⟨name, old⟩ := head
    have hlt : name < key := h (name, old) List.mem_cons_self
    rw [insert, if_neg (String.lt_asymm hlt), if_neg (String.ne_of_lt hlt),
      ih fun entry hentry => h entry (List.mem_cons_of_mem _ hentry)]
    rfl

theorem mem_insert {key : String} {value : α} {entries : List (String × α)}
    {entry : String × α} (h : entry ∈ insert key value entries) :
    entry = (key, value) ∨ entry ∈ entries := by
  induction entries with
  | nil => simpa [insert] using h
  | cons head rest ih =>
    obtain ⟨name, old⟩ := head
    simp only [insert] at h
    split at h
    · simpa using h
    · split at h
      · rcases List.mem_cons.1 h with h | h
        · exact .inl h
        · exact .inr (List.mem_cons_of_mem _ h)
      · rcases List.mem_cons.1 h with h | h
        · exact .inr (h ▸ List.mem_cons_self)
        · exact (ih h).imp id (List.mem_cons_of_mem _)

theorem ordered_insert {key : String} {value : α} {entries : List (String × α)}
    (h : Ordered entries) : Ordered (insert key value entries) := by
  induction entries with
  | nil => simp [insert, Ordered]
  | cons head rest ih =>
    obtain ⟨name, old⟩ := head
    obtain ⟨hhead, hrest⟩ := List.pairwise_cons.1 h
    simp only [insert]
    split
    · rename_i hlt
      refine List.pairwise_cons.2 ⟨fun entry hentry => ?_, h⟩
      rcases List.mem_cons.1 hentry with rfl | hentry
      · exact hlt
      · exact String.lt_trans hlt (hhead entry hentry)
    · split
      · rename_i heq
        exact List.pairwise_cons.2 ⟨fun entry hentry => heq ▸ hhead entry hentry, hrest⟩
      · rename_i hlt hne
        refine List.pairwise_cons.2 ⟨fun entry hentry => ?_, ih hrest⟩
        rcases mem_insert hentry with rfl | hentry
        · exact Std.lt_of_le_of_ne (String.not_lt.1 hlt) hne
        · exact hhead entry hentry

theorem ordered_ofList (entries : List (String × α)) : Ordered (ofList entries) := by
  suffices ∀ dict : List (String × α), Ordered dict →
      Ordered (entries.foldl (fun dict entry => insert entry.1 entry.2 dict) dict) from
    this [] List.Pairwise.nil
  induction entries with
  | nil => exact fun _ h => h
  | cons entry rest ih => exact fun _ h => ih _ (ordered_insert h)

end Dictionary

end TableClient
