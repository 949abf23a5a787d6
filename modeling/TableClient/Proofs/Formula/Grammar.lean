import TableClient.Proofs.Formula.Stack

/-!
# The Grammar of Nested Brackets

Balanced texts as a language.

`Nested` says how a balanced text is put together, with no order of reading
and no stack: nothing at all, one character that is no bracket, two balanced
texts in a row, or a balanced text between an opening bracket and the closing
one of its kind. The grammar is ambiguous, since a row of three texts can be
split in two ways, so it describes texts and does not read them.

That a derivation is read without fault is an induction over the derivation,
with the stack left free. The converse needs to know what the rest of a text
looks like in the middle of a reading. `Closes` says it: a nested text, then
for every open bracket, the innermost first, its closing character and another
nested text. Reading a character turns one such rest into another, so the
induction follows the text from its end.

## Main definitions

* `Nested`: The texts that the grammar derives.
* `Closes`: What can follow when some brackets are open.

## Theorems

* `scan_of_nested`: A derived text leaves every stack as it was.
* `closes_append`: A nested text in front of a rest is part of it.
* `closes_of_scan`: A rest that ends with nothing open closes what was open.
* `balanced_iff_nested`: Balanced texts are those the grammar derives.
-/

namespace TableClient

namespace Formula

/-- The texts in which brackets are nested. -/
inductive Nested : List Char → Prop where
  | empty : Nested []
  | other (c : Char) : c ∉ Bracket.characters → Nested [c]
  | append {first second : List Char} : Nested first → Nested second → Nested (first ++ second)
  | wrap (b : Bracket) {inner : List Char} :
    Nested inner → Nested (b.opening :: inner ++ [b.closing])

/-- The texts that close some open brackets, the innermost first, with nested
    texts before, between and behind the closing characters. -/
inductive Closes : Openings → List Char → Prop where
  | nested {text : List Char} : Nested text → Closes [] text
  | close (b : Bracket) {stack : Openings} {inner rest : List Char} :
    Nested inner → Closes stack rest → Closes (b :: stack) (inner ++ b.closing :: rest)

/-- A derived text leaves every stack as it was. The stack is free because the
    inner text of a pair is read with one bracket more. -/
theorem scan_of_nested {text : List Char} (h : Nested text) (stack : Openings) :
    scan stack text = some stack := by
  induction h generalizing stack with
  | empty => rfl
  | other c hc =>
      rw [scan_cons, push_of_notMem stack c hc]
      rfl
  | append _ _ ih1 ih2 =>
      rw [scan_append, ih1 stack]
      exact ih2 stack
  | wrap b _ ih =>
      rw [List.cons_append, scan_cons, push_opening, Option.bind_some, scan_append,
        ih (b :: stack), Option.bind_some, scan_cons, push_closing_self]
      rfl

theorem closes_append {stack : Openings} {first rest : List Char} (hfirst : Nested first)
    (hrest : Closes stack rest) : Closes stack (first ++ rest) := by
  cases hrest with
  | nested h => exact .nested (.append hfirst h)
  | close b hinner h =>
      rw [← List.append_assoc]
      exact .close b (.append hfirst hinner) h

/-- A rest of a text that ends with nothing open closes what was open. A
    character in front either starts a pair, whose end is the first closing
    character of the rest, or ends one, or stands alone. -/
theorem closes_of_scan {text : List Char} {stack : Openings} (h : scan stack text = some []) :
    Closes stack text := by
  induction text generalizing stack with
  | nil =>
      rw [scan_nil, Option.some.injEq] at h
      rw [h]
      exact .nested .empty
  | cons c rest ih =>
      rw [scan_cons] at h
      rcases Option.bind_eq_some_iff.1 h with ⟨stack', hpush, hrest⟩
      have hcloses := ih hrest
      rcases push_cases hpush with ⟨b, rfl, rfl⟩ | ⟨b, rfl, rfl⟩ | ⟨hc, rfl⟩
      · -- The pair that starts here ends where the rest closes it.
        cases hcloses with
        | close _ hinner htail =>
            have hpair := closes_append (.wrap b hinner) htail
            rw [List.append_assoc] at hpair
            exact hpair
      · exact .close b .empty hcloses
      · exact closes_append (.other c hc) hcloses

/-- Balanced texts are exactly those that the grammar derives. -/
theorem balanced_iff_nested (text : String) : Balanced text ↔ Nested text.toList := by
  constructor
  · intro h
    have hcloses := closes_of_scan h
    cases hcloses with
    | nested hnested => exact hnested
  · intro h
    exact scan_of_nested h []

end Formula

end TableClient
