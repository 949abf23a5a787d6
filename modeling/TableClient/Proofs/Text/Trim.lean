import Mathlib.Data.List.DropRight
import TableClient.Text.Blank

/-!
# Texts Cut at Their Ends

What is left of a text when it loses what stands at one of its ends, or at
both.

Whether something is the rest of a text can be said without the cutting: the
text is the rest with nothing but what may go around it, and the rest itself
neither starts nor ends with any of that. There is only one such rest, so this
is an equivalence, for the front in `dropWhile_eq_iff` and for the back in
`rdropWhile_eq_iff`.

Trimming cuts both ends, one after the other. The second cut cannot undo the
first: it takes the front of what is left only if it takes everything.

## Main definitions

* `Trims`: A text is another one with blanks around it.

## Theorems

* `dropWhile_eq_iff`, `rdropWhile_eq_iff`: What is left behind one cut.
* `trim_eq_iff`: What is left of a text without the blanks around it.
* `trim_eq_empty_iff`: Nothing is left just of a text of blanks.
-/

namespace TableClient

namespace Text

section

variable {α : Type} {p : α → Bool} {items kept : List α}

/-- What is left behind a cut at the front: all in front of it goes, and it
    starts with something that stays. -/
theorem dropWhile_eq_iff :
    items.dropWhile p = kept ↔
      ∃ front, items = front ++ kept ∧ (∀ c ∈ front, p c = true) ∧
        ∀ c ∈ kept.head?, p c = false := by
  constructor
  · intro h
    subst h
    have hfront : ∀ c ∈ items.takeWhile p, p c = true := fun c hc => List.mem_takeWhile_imp hc
    refine ⟨items.takeWhile p, List.takeWhile_append_dropWhile.symm, hfront, fun c hc => ?_⟩
    have hhead := List.head?_dropWhile_not p items
    rw [Option.mem_def.1 hc] at hhead
    exact hhead
  · rintro ⟨front, rfl, hfront, hkept⟩
    rw [List.dropWhile_append_of_pos hfront]
    cases kept with
    | nil => rfl
    | cons c rest =>
        have hc : p c = false := hkept c rfl
        simp [hc]

/-- What is left behind a cut at the back: all behind it goes, and it ends with
    something that stays. -/
theorem rdropWhile_eq_iff :
    items.rdropWhile p = kept ↔
      ∃ back, items = kept ++ back ∧ (∀ c ∈ back, p c = true) ∧
        ∀ c ∈ kept.getLast?, p c = false := by
  rw [List.rdropWhile, List.reverse_eq_iff, dropWhile_eq_iff]
  -- The cut at the front of the reversed list takes what is reversed as well.
  constructor
  · rintro ⟨front, hitems, hfront, hkept⟩
    refine ⟨front.reverse, ?_, fun c hc => hfront c (List.mem_reverse.1 hc), ?_⟩
    · rw [← List.reverse_inj, hitems, List.reverse_append, List.reverse_reverse]
    · rwa [List.head?_reverse] at hkept
  · rintro ⟨back, rfl, hback, hkept⟩
    refine ⟨back.reverse, List.reverse_append, fun c hc => hback c (List.mem_reverse.1 hc), ?_⟩
    rwa [List.head?_reverse]

end

/-- A text is another one with blanks around it, and that one has none at its
    ends. -/
def Trims (text trimmed : String) : Prop :=
  ∃ front back, text.toList = front ++ trimmed.toList ++ back ∧
    (∀ c ∈ front ++ back, isBlank c = true) ∧
    (∀ c ∈ trimmed.toList.head?, isBlank c = false) ∧
    ∀ c ∈ trimmed.toList.getLast?, isBlank c = false

theorem trim_eq (text : String) :
    trim text = .ofList ((text.toList.dropWhile isBlank).rdropWhile isBlank) :=
  rfl

/-- The trimmed text is the one that the text is with blanks around it. -/
theorem trim_eq_iff {text trimmed : String} : trim text = trimmed ↔ Trims text trimmed := by
  have hlist : trim text = trimmed ↔
      (text.toList.dropWhile isBlank).rdropWhile isBlank = trimmed.toList := by
    rw [trim_eq, ← String.toList_inj, String.toList_ofList]
  rw [hlist, rdropWhile_eq_iff]
  constructor
  · rintro ⟨back, hmiddle, hback, hlast⟩
    rcases dropWhile_eq_iff.1 hmiddle with ⟨front, htext, hfront, hhead⟩
    refine ⟨front, back, by rw [htext, List.append_assoc], ?_, fun c hc => ?_, hlast⟩
    · intro c hc
      rcases List.mem_append.1 hc with hc | hc
      · exact hfront c hc
      · exact hback c hc
    · -- What is left starts as it did before the second cut.
      refine hhead c ?_
      rw [List.head?_append, Option.mem_def.1 hc]
      rfl
  · rintro ⟨front, back, htext, hblank, hhead, hlast⟩
    have hfront : ∀ c ∈ front, isBlank c = true := fun c hc =>
      hblank c (List.mem_append_left back hc)
    have hback : ∀ c ∈ back, isBlank c = true := fun c hc =>
      hblank c (List.mem_append_right front hc)
    by_cases hempty : trimmed.toList = []
    · -- Nothing but blanks: the first cut takes everything.
      rw [hempty, List.append_nil] at htext
      refine ⟨[], ?_, fun c hc => (nomatch hc), hlast⟩
      rw [hempty, htext, List.append_nil]
      exact List.dropWhile_eq_nil_iff.2 hblank
    · refine ⟨back, dropWhile_eq_iff.2 ⟨front, ?_, hfront, fun c hc => hhead c ?_⟩, hback, hlast⟩
      · rw [htext, List.append_assoc]
      · rwa [List.head?_append_of_ne_nil _ hempty] at hc

/-- Nothing is left of a text just if it is one of blanks. -/
theorem trim_eq_empty_iff {text : String} : trim text = "" ↔ isBlankText text = true := by
  have hall : isBlankText text = true ↔ ∀ c ∈ text.toList, isBlank c = true := List.all_eq_true
  rw [trim_eq_iff, hall]
  constructor
  · rintro ⟨front, back, htext, hblank, -⟩
    have happend : text.toList = front ++ back := by simpa using htext
    rwa [happend]
  · intro h
    refine ⟨text.toList, [], by simp, by simpa using h, ?_, ?_⟩ <;> simp

end Text

end TableClient
