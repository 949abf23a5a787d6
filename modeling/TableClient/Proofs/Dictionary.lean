import Mathlib.Data.List.Induction
import Mathlib.Data.List.Sort
import TableClient.Dictionary

/-!
# The Entries of a Dictionary

Which entries are in a dictionary, and what is left when only some are kept.

Entries put in one after the other replace those with their key, so what is found
for a key is the value of its last entry.

A dictionary holds each key once, so it is known by what it gives for each key.
What is left of it when only some keys are kept is therefore known as well, as
soon as their values are: that is `restrict_eq`, which names the result without
going through the entries that are left out.

## Main definitions

* `IsLast`: The last of some entries with a key holds a value.
* `overlaid`: A dictionary with the entries of another one put in.
* `restrict`: The entries with certain keys, with their values changed.

## Theorems

* `get?_ofList_eq_some_iff`: A key is found with the value of its last entry.
* `mem_ofList_iff`: The last entries are those of the dictionary.
* `get?_eq_some_iff`: A key is found with the value of its entry.
* `eq_of_mem_iff`: A dictionary is known by its entries.
* `ofList_map`, `ofList_of_perm`: What the values are, and in which order they come.
* `get?_overlaid`: What is found in a dictionary laid over another one.
* `restrict_eq`: What is left is known by the values of the keys that are kept.
* `restrict_eq_self_iff`: When nothing is left out and nothing changed.
-/

namespace TableClient

namespace Dictionary

variable {α : Type}

theorem mem_of_get? {key : String} {value : α} {entries : List (String × α)}
    (h : get? key entries = some value) : (key, value) ∈ entries := by
  induction entries with
  | nil => cases h
  | cons entry rest ih =>
      rcases entry with ⟨name, first⟩
      rw [get?] at h
      split at h
      · rename_i hname
        rw [← hname, ← Option.some.inj h]
        exact List.mem_cons_self
      · exact List.mem_cons_of_mem _ (ih h)

/-- A key is found with the value of its entry, which is the only one. -/
theorem get?_eq_some_iff {key : String} {value : α} {entries : List (String × α)}
    (hordered : Ordered entries) : get? key entries = some value ↔ (key, value) ∈ entries := by
  refine ⟨mem_of_get?, fun hmem => ?_⟩
  induction entries with
  | nil => cases hmem
  | cons entry rest ih =>
      rcases entry with ⟨name, first⟩
      rcases List.pairwise_cons.1 hordered with ⟨hfirst, hrest⟩
      rw [get?]
      rcases List.mem_cons.1 hmem with hhead | htail
      · cases hhead
        rw [if_pos rfl]
      · have hlt : name < key := hfirst _ htail
        rw [if_neg (String.ne_of_lt hlt)]
        exact ih hrest htail

/-- The last of some entries with a key holds the value. -/
def IsLast (key : String) (value : α) (entries : List (String × α)) : Prop :=
  ∃ before after, entries = before ++ (key, value) :: after ∧ ∀ entry ∈ after, entry.1 ≠ key

/-- A key is found with the value of the first entry that has it. -/
theorem get?_eq_some_iff_append {key : String} {value : α} {entries : List (String × α)} :
    get? key entries = some value ↔
      ∃ before after, entries = before ++ (key, value) :: after ∧
        ∀ entry ∈ before, entry.1 ≠ key := by
  induction entries with
  | nil => simp [get?]
  | cons entry rest ih =>
      rcases entry with ⟨name, first⟩
      rw [get?]
      by_cases hname : name = key
      · rw [if_pos hname]
        constructor
        · intro h
          refine ⟨[], rest, ?_, fun _ hmem => absurd hmem List.not_mem_nil⟩
          rw [hname, Option.some.inj h, List.nil_append]
        · rintro ⟨_ | ⟨head, before⟩, after, h, hbefore⟩
          · cases h
            rfl
          · -- The entry in front has the key already.
            cases h
            exact absurd hname (hbefore _ List.mem_cons_self)
      · rw [if_neg hname, ih]
        constructor
        · rintro ⟨before, after, rfl, hbefore⟩
          exact ⟨(name, first) :: before, after, rfl, List.forall_mem_cons.2 ⟨hname, hbefore⟩⟩
        · rintro ⟨_ | ⟨head, before⟩, after, h, hbefore⟩
          · cases h
            exact absurd rfl hname
          · cases h
            exact ⟨before, after, rfl, (List.forall_mem_cons.1 hbefore).2⟩

/-- Entries put in from the last to the first: the first one with a key stays. -/
theorem get?_foldr_insert (key : String) (entries : List (String × α)) :
    get? key (entries.foldr (fun entry dict => insert entry.1 entry.2 dict) [])
      = get? key entries := by
  induction entries with
  | nil => rfl
  | cons entry rest ih =>
      rcases entry with ⟨name, value⟩
      rw [List.foldr_cons, get?_insert, get?, ih]

/-- A key is found with the value of its last entry. -/
theorem get?_ofList_eq_some_iff {key : String} {value : α} {entries : List (String × α)} :
    get? key (ofList entries) = some value ↔ IsLast key value entries := by
  rw [ofList, List.foldl_eq_foldr_reverse, get?_foldr_insert, get?_eq_some_iff_append]
  -- What stands behind an entry stands in front of it in the reversed list.
  constructor
  · rintro ⟨before, after, h, hbefore⟩
    refine ⟨after.reverse, before.reverse, ?_, fun entry hentry => ?_⟩
    · rw [← List.reverse_inj, h]
      simp
    · exact hbefore entry (List.mem_reverse.1 hentry)
  · rintro ⟨before, after, rfl, hafter⟩
    refine ⟨after.reverse, before.reverse, by simp, fun entry hentry => ?_⟩
    exact hafter entry (List.mem_reverse.1 hentry)

theorem ofList_concat (entries : List (String × α)) (key : String) (value : α) :
    ofList (entries ++ [(key, value)]) = insert key value (ofList entries) :=
  List.foldl_append

/-- A dictionary of entries whose values are changed is the dictionary with its values
    changed. -/
theorem insert_map {β : Type} (f : α → β) (key : String) (value : α) (entries : List (String × α)) :
    insert key (f value) (entries.map fun entry => (entry.1, f entry.2))
      = (insert key value entries).map fun entry => (entry.1, f entry.2) := by
  induction entries with
  | nil => rfl
  | cons entry rest ih =>
      rcases entry with ⟨name, old⟩
      rw [List.map_cons, insert, insert, ih]
      split
      · rfl
      · split <;> rfl

theorem ofList_map {β : Type} (f : α → β) (entries : List (String × α)) :
    ofList (entries.map fun entry => (entry.1, f entry.2))
      = (ofList entries).map fun entry => (entry.1, f entry.2) := by
  induction entries using List.reverseRecOn with
  | nil => rfl
  | append_singleton rest entry ih =>
      rw [List.map_append, List.map_singleton, ofList_concat, ofList_concat, ih, insert_map]

theorem mem_ofList_iff {key : String} {value : α} {entries : List (String × α)} :
    (key, value) ∈ ofList entries ↔ IsLast key value entries := by
  rw [← get?_eq_some_iff (ordered_ofList entries), get?_ofList_eq_some_iff]

theorem Ordered.nodup_keys {entries : List (String × α)} (h : Ordered entries) :
    (entries.map Prod.fst).Nodup := by
  rw [List.Nodup, List.pairwise_map]
  exact h.imp fun hlt => String.ne_of_lt hlt

/-- An entry whose key no other has is the last one with its key. -/
theorem isLast_iff_mem {key : String} {value : α} {entries : List (String × α)}
    (h : (entries.map Prod.fst).Nodup) : IsLast key value entries ↔ (key, value) ∈ entries := by
  constructor
  · rintro ⟨before, after, rfl, -⟩
    exact List.mem_append_right _ List.mem_cons_self
  · intro hmem
    rcases List.append_of_mem hmem with ⟨before, after, rfl⟩
    rw [List.map_append, List.map_cons] at h
    have hafter := (List.nodup_cons.1 (List.nodup_append.1 h).2.1).1
    refine ⟨before, after, rfl, fun entry hentry hkey => hafter ?_⟩
    exact List.mem_map.2 ⟨entry, hentry, hkey⟩

/-- A dictionary is known by its entries. -/
theorem eq_of_mem_iff {entries others : List (String × α)} (hentries : Ordered entries)
    (hothers : Ordered others)
    (h : ∀ key value, (key, value) ∈ entries ↔ (key, value) ∈ others) : entries = others := by
  have hirrefl : Std.Irrefl fun a b : String × α => a.1 < b.1 := ⟨fun a => String.lt_irrefl a.1⟩
  have hantisymm : Std.Antisymm fun a b : String × α => a.1 < b.1 :=
    ⟨fun _ _ hlt hgt => absurd hgt (String.lt_asymm hlt)⟩
  exact List.Pairwise.eq_of_mem_iff hentries hothers fun entry => h entry.1 entry.2

/-- A dictionary is known by what is found in it. -/
theorem eq_of_get? {entries others : List (String × α)} (hentries : Ordered entries)
    (hothers : Ordered others) (h : ∀ key, get? key entries = get? key others) :
    entries = others := by
  refine eq_of_mem_iff hentries hothers fun key value => ?_
  rw [← get?_eq_some_iff hentries, ← get?_eq_some_iff hothers, h]

/-- A dictionary with the entries of another one put in. -/
def overlaid (base overrides : List (String × α)) : List (String × α) :=
  overrides.foldl (fun dict entry => insert entry.1 entry.2 dict) base

theorem ordered_overlaid {base : List (String × α)} (overrides : List (String × α))
    (h : Ordered base) : Ordered (overlaid base overrides) := by
  induction overrides generalizing base with
  | nil => exact h
  | cons entry rest ih => exact ih (ordered_insert h)

/-- What is put in last is found first. -/
theorem get?_overlaid {base overrides : List (String × α)}
    (h : (overrides.map Prod.fst).Nodup) (key : String) :
    get? key (overlaid base overrides) = (get? key overrides).or (get? key base) := by
  induction overrides generalizing base with
  | nil => rfl
  | cons entry rest ih =>
      rcases entry with ⟨name, value⟩
      rw [List.map_cons, List.nodup_cons] at h
      rcases h with ⟨hname, hrest⟩
      rw [overlaid, List.foldl_cons, ← overlaid, ih hrest, get?_insert, get?]
      by_cases heq : name = key
      · -- No later entry has the key, so the first one is what is found.
        have hnone : get? key rest = none := by
          rw [Option.eq_none_iff_forall_ne_some]
          intro found hfound
          exact hname (List.mem_map.2 ⟨(key, found), mem_of_get? hfound, heq.symm⟩)
        rw [if_pos heq, if_pos heq, hnone, Option.none_or, Option.some_or]
      · rw [if_neg heq, if_neg heq]

/-- Put in in any order, the entries of a dictionary make the dictionary. -/
theorem ofList_of_perm {entries dict : List (String × α)} (hperm : entries.Perm dict)
    (hordered : Ordered dict) : ofList entries = dict := by
  refine eq_of_mem_iff (ordered_ofList entries) hordered fun key value => ?_
  have hnodup : (entries.map Prod.fst).Nodup :=
    (hperm.map Prod.fst).nodup_iff.2 hordered.nodup_keys
  rw [mem_ofList_iff, isLast_iff_mem hnodup, hperm.mem_iff]

/-- The entries with certain keys, with their values changed. -/
def restrict (keys : List String) (change : String → α → α) (entries : List (String × α)) :
    List (String × α) :=
  (entries.filter fun entry => entry.1 ∈ keys).map fun entry => (entry.1, change entry.1 entry.2)

theorem restrict_cons (keys : List String) (change : String → α → α) (key : String) (value : α)
    (rest : List (String × α)) :
    restrict keys change ((key, value) :: rest)
      = if key ∈ keys then (key, change key value) :: restrict keys change rest
        else restrict keys change rest := by
  by_cases h : key ∈ keys <;> simp [restrict, h]

theorem mem_restrict {keys : List String} {change : String → α → α}
    {entries : List (String × α)} {key : String} {value : α} :
    (key, value) ∈ restrict keys change entries ↔
      key ∈ keys ∧ ∃ old, (key, old) ∈ entries ∧ change key old = value := by
  simp only [restrict, List.mem_map, List.mem_filter, decide_eq_true_eq, Prod.mk.injEq]
  constructor
  · rintro ⟨⟨_, old⟩, ⟨hmem, hkey⟩, rfl, hchange⟩
    exact ⟨hkey, old, hmem, hchange⟩
  · rintro ⟨hkey, old, hmem, hchange⟩
    exact ⟨(key, old), ⟨hmem, hkey⟩, rfl, hchange⟩

theorem ordered_restrict {keys : List String} {change : String → α → α}
    {entries : List (String × α)} (h : Ordered entries) :
    Ordered (restrict keys change entries) := by
  rw [Ordered, restrict, List.pairwise_map]
  exact h.filter _

/-- What is left of a dictionary are the given entries, if these have the keys
    that are kept and the changed values of these keys. -/
theorem restrict_eq {keys : List String} {change : String → α → α}
    {members entries : List (String × α)} (hmembers : Ordered members)
    (hentries : Ordered entries) (hkeys : entries.map Prod.fst = keys)
    (h : ∀ entry ∈ entries, ∃ old, get? entry.1 members = some old ∧
      change entry.1 old = entry.2) : restrict keys change members = entries := by
  refine eq_of_mem_iff (ordered_restrict hmembers) hentries fun key value => ?_
  rw [mem_restrict]
  constructor
  · rintro ⟨hkey, old, hmem, rfl⟩
    rw [← hkeys, List.mem_map] at hkey
    rcases hkey with ⟨⟨_, value⟩, hentry, rfl⟩
    rcases h _ hentry with ⟨found, hget, hvalue⟩
    -- The key is in the dictionary once, so the value found for it is the old one.
    have hold : some old = some found := ((get?_eq_some_iff hmembers).2 hmem).symm.trans hget
    rw [Option.some.inj hold, hvalue]
    exact hentry
  · intro hentry
    rcases h _ hentry with ⟨old, hget, hvalue⟩
    exact ⟨hkeys ▸ List.mem_map_of_mem hentry, old, mem_of_get? hget, hvalue⟩

/-- All is left as it was just if all keys are kept and no value is changed. -/
theorem restrict_eq_self_iff {keys : List String} {change : String → α → α}
    {entries : List (String × α)} :
    restrict keys change entries = entries ↔
      ∀ entry ∈ entries, entry.1 ∈ keys ∧ change entry.1 entry.2 = entry.2 := by
  induction entries with
  | nil => exact ⟨fun _ _ h => (nomatch h), fun _ => rfl⟩
  | cons entry rest ih =>
      rcases entry with ⟨key, value⟩
      rw [restrict_cons]
      split
      · rename_i hkey
        simp [ih, hkey]
      · rename_i hkey
        -- An entry that is left out makes the result too short.
        have hlength : (restrict keys change rest).length ≤ rest.length := by
          rw [restrict, List.length_map]
          exact List.length_filter_le _ _
        constructor
        · intro h
          rw [h, List.length_cons] at hlength
          omega
        · intro h
          exact absurd (h _ List.mem_cons_self).1 hkey

end Dictionary

end TableClient
