import TableClient.Proofs.Json.ReadBack
import TableClient.Proofs.Json.WellFormed

/-!
# Objects as They Are Written

The entries of an object in the order of the text, repeated keys included.

The reader of an object puts each entry into a dictionary as it comes, so what
was there before under the same key is gone when the object is read. Which entry
stays is a matter of the text, and to speak of the first or the last one the
entries have to be there as they are written. `listed` is the reader that keeps
them all: it goes through the text as the other one does and differs in what it
does to the state. What a loop reads is therefore the same with both, and the
dictionary is that of the list; `members_map` is the one induction behind this.

A reader may also ask for something else of each entry and stop at one it does not
like. If what it does can be told from the key and the value alone, its loop is one
that keeps the entries, followed by one step for each: that is `members_eq_ok_iff`.

## Main definitions

* `listed`, `gathered`: The reader of an entry that keeps those before it.
* `Enumerates`: A text is an object with certain entries in their order.
* `Holds`: A text is an object whose last entry with a key has a value.

## Theorems

* `listed_reads`, `enumerates_written`: Entries are read as they were written.
* `members_map`: Loops over members that do the same to related states.
* `members_eq_ok_iff`: Loops that make a step for each entry.
* `parse_eq_obj_iff`: An object that is read has the entries of the text.
* `member?_parse_iff`: The member of what is read is the last entry with its key.
-/

namespace TableClient

namespace Json

/-- Reads the value of a member and puts it behind the members before it. -/
def listed (item : Reader Json) (entries : List (String × Json)) (key : String) :
    Reader (List (String × Json)) := fun text => do
  let rest ← colon text
  let (value, rest) ← item rest
  .ok (entries ++ [(key, value)], rest)

/-- Reads the value of a member in the way its key asks for, and puts it behind the
    members before it. -/
def gathered (item : String → Reader Json) (entries : List (String × Json)) (key : String) :
    Reader (List (String × Json)) :=
  listed (item key) entries key

/-- A text is an object that is written with the given entries, in their order,
    and blanks around it. -/
def Enumerates (text : String) (entries : List (String × Json)) : Prop :=
  ∃ inside behind, skipBlanks text.toList = '\x7b' :: inside ∧
    members (listed (value (maxDepth - 1))) inside true [] inside = .ok (entries, behind) ∧
    skipBlanks behind = []

/-- A text is an object, and the last of its entries with a key has the value. -/
def Holds (text key : String) (content : Json) : Prop :=
  ∃ entries, Enumerates text entries ∧ Dictionary.IsLast key content entries

/-- The loop that keeps all entries reads back what was written, in the order in
    which it was written. -/
theorem listed_reads {reader : Reader Json} (entries : List (String × Json))
    {fields : List (String × Json)} (hreads : ∀ field ∈ fields, Reads reader field.2)
    {bound : List Char} (hbound : fields.length < bound.length) (first : Bool)
    (rest : List Char) :
    members (listed reader) bound first entries (membersText first fields ++ '\x7d' :: rest)
      = .ok (entries ++ fields, rest) := by
  induction fields generalizing bound first entries with
  | nil =>
      rcases bound with _ | ⟨x, bound⟩
      · exact absurd hbound (Nat.not_lt_zero _)
      · rw [membersText, List.nil_append, members_end, List.append_nil]
  | cons field fields ih =>
      rcases field with ⟨key, value⟩
      rcases List.forall_mem_cons.1 hreads with ⟨hread, hreadRest⟩
      rcases bound with _ | ⟨x, bound⟩
      · exact absurd hbound (Nat.not_lt_zero _)
      · have hrest := ih (entries ++ [(key, value)]) hreadRest (Nat.lt_of_succ_lt_succ hbound) false
        rw [membersText, List.append_assoc, List.append_assoc, members_cons, List.cons_append,
          List.append_assoc, listed, colon_cons, compactMembersTail_eq]
        change ((reader _ >>= _) >>= _) = _
        rw [hread]
        change members _ _ _ (entries ++ [(key, value)]) _ = _
        rw [hrest, List.append_assoc, List.singleton_append]

/-- A text that was written with certain entries, in whatever order and with
    whatever keys, is an object with these entries. -/
theorem enumerates_written {fields : List (String × Json)}
    (htextual : ∀ field ∈ fields, Textual field.2)
    (hdepth : ∀ field ∈ fields, field.2.depth ≤ maxDepth - 1) :
    Enumerates (.ofList ('\x7b' :: (membersText true fields ++ ['\x7d']))) fields := by
  refine ⟨membersText true fields ++ ['\x7d'], [], ?_, ?_, rfl⟩
  · rw [String.toList_ofList]
    exact skipBlanks_cons (by decide) _
  · have hreads : ∀ field ∈ fields, Reads (value (maxDepth - 1)) field.2 :=
      fun field hmem => value_reads (htextual field hmem) (hdepth field hmem)
    have hloop := listed_reads [] hreads (length_lt_membersText fields []) true []
    rwa [List.nil_append] at hloop

/-- Loops over members that do the same to related states read the same, and
    their states are related at the end. -/
theorem members_map {σ τ : Type} (f : σ → τ) {entry : σ → String → Reader σ}
    {entry' : τ → String → Reader τ}
    (hentry : ∀ state key text,
      entry' (f state) key text = (entry state key text).map fun read => (f read.1, read.2))
    (bound : List Char) (first : Bool) (state : σ) (text : List Char) :
    members entry' bound first (f state) text
      = (members entry bound first state text).map fun read => (f read.1, read.2) := by
  induction bound generalizing first state text with
  | nil => rfl
  | cons c bound ih =>
      rw [members, members]
      cases nextKey first text with
      | error failure => rfl
      | ok read =>
          rcases read with ⟨_ | key, rest⟩
          · rfl
          · have hnext := hentry state key rest
            cases hread : entry state key rest with
            | error failure =>
                rw [hread] at hnext
                simp only [bind, Except.bind, hnext, hread]
                rfl
            | ok read =>
                rw [hread] at hnext
                simp only [bind, Except.bind, hnext, hread]
                exact ih false read.1 read.2

/-- What one entry does, the loop does: where every success of the one reader is a
    success of the other, with a related state, so it is for the loops. -/
theorem members_of_members {σ τ : Type} (f : σ → τ) {entry : σ → String → Reader σ}
    {entry' : τ → String → Reader τ}
    (hentry : ∀ state key text next rest, entry state key text = .ok (next, rest) →
      entry' (f state) key text = .ok (f next, rest))
    (bound : List Char) {first : Bool} {state next : σ} {text rest : List Char}
    (h : members entry bound first state text = .ok (next, rest)) :
    members entry' bound first (f state) text = .ok (f next, rest) := by
  induction bound generalizing first state text with
  | nil => cases h
  | cons c bound ih =>
      refine members_round.2 ?_
      rcases members_round.1 h with ⟨hend, rfl⟩ | ⟨key, front, middle, behind, hnext, hread, hrest⟩
      · exact .inl ⟨hend, rfl⟩
      · exact .inr ⟨key, front, f middle, behind, hnext, hentry _ _ _ _ _ hread, ih hrest⟩

/-- An entry is kept if its value can be read. -/
theorem gathered_eq_ok_iff {item : String → Reader Json} {before entries : List (String × Json)}
    {key : String} {text rest : List Char} :
    gathered item before key text = .ok (entries, rest) ↔
      ∃ inside v, colon text = .ok inside ∧ item key inside = .ok (v, rest) ∧
        entries = before ++ [(key, v)] := by
  simp only [gathered, listed, bind_eq_ok, Prod.exists]
  constructor
  · rintro ⟨inside, hcolon, v, _, hread, h⟩
    cases h
    exact ⟨inside, v, hcolon, hread, rfl⟩
  · rintro ⟨inside, v, hcolon, hread, rfl⟩
    exact ⟨inside, hcolon, v, rest, hread, rfl⟩

/-- Entries that are kept stand behind those from before. -/
theorem members_gathered_append (item : String → Reader Json) (before : List (String × Json))
    (bound : List Char) (first : Bool) (text : List Char) :
    members (gathered item) bound first before text
      = (members (gathered item) bound first [] text).map fun read =>
          (before ++ read.1, read.2) := by
  have hentry : ∀ entries key text, gathered item (before ++ entries) key text
      = (gathered item entries key text).map fun read => (before ++ read.1, read.2) := by
    intro entries key text
    unfold gathered listed
    cases colon text with
    | error failure => rfl
    | ok rest =>
        simp only [bind, Except.bind]
        cases item key rest with
        | error failure => rfl
        | ok read => simp only [Except.map, List.append_assoc]
  have hloop : members (gathered item) bound first (before ++ []) text = _ :=
    members_map (before ++ ·) hentry bound first [] text
  rwa [List.append_nil] at hloop

/-- A loop that makes a step for each value it reads goes through if the entries are
    there and the steps can be made one after the other. -/
theorem members_eq_ok_iff {σ ε : Type} {entry : σ → String → Reader σ}
    {item : String → Reader Json} {step : σ → String → Json → Except ε σ}
    (hentry : ∀ state key text next rest, entry state key text = .ok (next, rest) ↔
      ∃ inside v, colon text = .ok inside ∧ item key inside = .ok (v, rest) ∧
        step state key v = .ok next)
    (bound : List Char) {first : Bool} {state next : σ} {text rest : List Char} :
    members entry bound first state text = .ok (next, rest) ↔
      ∃ entries, members (gathered item) bound first [] text = .ok (entries, rest) ∧
        entries.foldlM (fun state entry => step state entry.1 entry.2) state = .ok next := by
  induction bound generalizing first state text with
  | nil => exact iff_of_false (by rintro ⟨⟩) (by rintro ⟨_, ⟨⟩, _⟩)
  | cons c bound ih =>
      simp only [members_round, hentry, gathered_eq_ok_iff]
      constructor
      · rintro (⟨hend, rfl⟩ | ⟨key, front, middle, behind, hnext, ⟨inside, v, hcolon, hread, hstep⟩,
          hrest⟩)
        · exact ⟨[], .inl ⟨hend, rfl⟩, rfl⟩
        · rcases ih.1 hrest with ⟨later, hloop, hsteps⟩
          refine ⟨(key, v) :: later, .inr ⟨key, front, [(key, v)], behind, hnext,
            ⟨inside, v, hcolon, hread, rfl⟩, ?_⟩, ?_⟩
          · rw [members_gathered_append, hloop]
            rfl
          · rw [List.foldlM_cons, hstep]
            exact hsteps
      · rintro ⟨entries, ⟨hend, rfl⟩ | ⟨key, front, _, behind, hnext,
          ⟨inside, v, hcolon, hread, rfl⟩, hloop⟩, hsteps⟩
        · cases hsteps
          exact .inl ⟨hend, rfl⟩
        · rw [members_gathered_append, map_eq_ok] at hloop
          rcases hloop with ⟨⟨later, _⟩, hloop, h⟩
          cases h
          simp only [List.nil_append, List.singleton_append, List.foldlM_cons,
            bind_eq_ok] at hsteps
          rcases hsteps with ⟨middle, hstep, hsteps⟩
          exact .inr ⟨key, front, middle, behind, hnext, ⟨inside, v, hcolon, hread, hstep⟩,
            ih.2 ⟨later, hloop, hsteps⟩⟩

/-- An entry that is put into the dictionary of those before it makes the
    dictionary of them all. -/
theorem member_ofList (item : Reader Json) (entries : List (String × Json)) (key : String)
    (text : List Char) :
    member item (Dictionary.ofList entries) key text
      = (listed item entries key text).map fun read => (Dictionary.ofList read.1, read.2) := by
  unfold member listed
  cases colon text with
  | error failure => rfl
  | ok rest =>
      cases hitem : item rest with
      | error failure => simp only [bind, Except.bind, hitem]; rfl
      | ok read =>
          simp only [bind, Except.bind, hitem, ← Dictionary.ofList_concat]
          rfl

/-- An object that is read has the dictionary of the entries that are written. -/
theorem objectOf_eq_ok_iff {item : Reader Json} {text rest : List Char} {v : Json} :
    objectOf item text = .ok (v, rest) ↔
      ∃ entries, members (listed item) text true [] text = .ok (entries, rest) ∧
        v = object entries := by
  have hloop : members (member item) text true [] text
      = (members (listed item) text true [] text).map
        fun read => (Dictionary.ofList read.1, read.2) :=
    members_map Dictionary.ofList (member_ofList item) text true [] text
  unfold objectOf
  rw [hloop]
  cases members (listed item) text true [] text with
  | error failure => exact ⟨fun h => (nomatch h), fun ⟨_, h, _⟩ => (nomatch h)⟩
  | ok read =>
      rcases read with ⟨entries, behind⟩
      constructor
      · intro h
        cases h
        exact ⟨entries, rfl, rfl⟩
      · rintro ⟨_, h, rfl⟩
        cases h
        rfl

/-- A scalar is no object. -/
theorem scalar_ne_obj {text rest : List Char} {entries : List (String × Json)} :
    scalar text ≠ .ok (.obj entries, rest) := by
  intro h
  cases scalarAt_of_scalar h

/-- A text spells an object if it is one with certain entries, and the object is
    that of the entries. -/
theorem parse_eq_obj_iff {text : String} {entries : List (String × Json)} :
    parse text = .ok (.obj entries) ↔
      ∃ written, Enumerates text written ∧ entries = Dictionary.ofList written := by
  rw [parse_eq_ok_iff]
  constructor
  · rintro ⟨behind, hread, hblank⟩
    have hnode : node (array (value (maxDepth - 1))) (objectOf (value (maxDepth - 1))) text.toList
        = .ok (.obj entries, behind) := hread
    unfold node at hnode
    split at hnode
    · -- Behind a bracket an array is read, which is no object.
      simp only [array, bind_eq_ok, Prod.exists] at hnode
      rcases hnode with ⟨_, _, -, h⟩
      cases h
    · rename_i inside hopen
      rcases objectOf_eq_ok_iff.1 hnode with ⟨written, hwritten, hobject⟩
      exact ⟨written, ⟨inside, behind, hopen, hwritten, hblank⟩, Json.obj.inj hobject⟩
    · exact absurd hnode scalar_ne_obj
  · rintro ⟨written, ⟨inside, behind, hopen, hwritten, hblank⟩, rfl⟩
    refine ⟨behind, ?_, hblank⟩
    have hobject : objectOf (value (maxDepth - 1)) inside
        = .ok (.obj (Dictionary.ofList written), behind) :=
      objectOf_eq_ok_iff.2 ⟨written, hwritten, rfl⟩
    rw [← hobject]
    show node (array (value (maxDepth - 1))) (objectOf (value (maxDepth - 1))) text.toList = _
    unfold node
    rw [hopen]
    rfl

/-- The member of what is read is the last entry of the text with its key. -/
theorem member?_parse_iff {text key : String} {content : Json} :
    (∃ v, parse text = .ok v ∧ v.member? key = some content) ↔ Holds text key content := by
  constructor
  · rintro ⟨v, hparse, hmember⟩
    cases v with
    | obj entries =>
        rcases parse_eq_obj_iff.1 hparse with ⟨written, hwritten, rfl⟩
        exact ⟨written, hwritten, Dictionary.get?_ofList_eq_some_iff.1 hmember⟩
    | _ => cases hmember
  · rintro ⟨written, hwritten, hlast⟩
    refine ⟨.obj (Dictionary.ofList written), ?_, Dictionary.get?_ofList_eq_some_iff.2 hlast⟩
    exact parse_eq_obj_iff.2 ⟨written, hwritten, rfl⟩

end Json

end TableClient
