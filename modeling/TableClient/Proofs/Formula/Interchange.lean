import TableClient.Proofs.Formula.Stack

/-!
# Fragments That Stand for Each Other

When a fragment of a formula can be exchanged for another one, whatever stands
around it.

The verdict on a formula says little about a fragment in it, since a bracket
that one part leaves open may be closed in another. So a fragment is judged by
all formulas that it can be part of: two are `Interchangeable` if no text
around them tells one from the other.

Seen from the inside, a fragment turns the brackets that are open in front of
it into those that are open behind it, or does not fit in at all. That this is
all there is to know about it is `interchangeable_iff`. Of the two directions
the one from the outside to the inside needs an argument, since a verdict is
only yes or no. It takes a probe for every pair of stacks: a text in front that
opens the brackets of the one and a text behind that closes the brackets of the
other. Reading loses nothing, so the text behind fits a single stack, and the
verdict between the two tells whether the fragment leads from one to the other.

To insert a fragment is to exchange it for nothing. Nothing leaves every stack
as it was, which is what balanced texts do and no other text does.

## Main definitions

* `openingText`: A text that opens the brackets of a stack.
* `closingText`: A text that closes the brackets of a stack.
* `Interchangeable`: No text around two fragments tells them apart.

## Theorems

* `scan_openingText`: What is open behind an opening text.
* `scan_closingText_iff`: What has to be open in front of a closing text.
* `balanced_between_iff`: A verdict that tells what a fragment does to a stack.
* `interchangeable_iff`: Fragments are interchangeable if they do the same.
* `balanced_iff_scan_eq_self`: Balanced texts leave every stack as it was.
* `balanced_iff_insertable`: They can be inserted anywhere, and no other text
  can.
-/

namespace TableClient

namespace Formula

/-- A text that opens the brackets of a stack, the outermost first. -/
def openingText (stack : Openings) : String :=
  .ofList (stack.reverse.map Bracket.opening)

/-- A text that closes the brackets of a stack, the innermost first. -/
def closingText (stack : Openings) : String :=
  .ofList (stack.map Bracket.closing)

/-- Two fragments are interchangeable if any text around them is balanced with
    the one just if it is balanced with the other. -/
def Interchangeable (first second : String) : Prop :=
  ∀ before after, Balanced (before ++ first ++ after) ↔ Balanced (before ++ second ++ after)

/-- An opening text leaves the brackets of its stack open. -/
theorem scan_openingText (stack : Openings) : scan [] (openingText stack).toList = some stack := by
  rw [openingText, String.toList_ofList]
  induction stack with
  | nil => rfl
  | cons b stack ih =>
      -- The innermost bracket is the last one that is opened.
      rw [List.reverse_cons, List.map_append, scan_append, ih, Option.bind_some, List.map_singleton,
        scan_cons, push_opening, Option.bind_some, scan_nil]

theorem scan_closingText (stack : Openings) : scan stack (closingText stack).toList = some [] := by
  rw [closingText, String.toList_ofList]
  induction stack with
  | nil => rfl
  | cons b stack ih => rw [List.map_cons, scan_cons, push_closing_self, Option.bind_some, ih]

/-- A closing text ends with nothing open behind its own stack, and behind no
    other, since the stack in front of a text is known from the one behind. -/
theorem scan_closingText_iff {stack found : Openings} :
    scan found (closingText stack).toList = some [] ↔ found = stack := by
  constructor
  · intro h
    exact scan_left_inj h (scan_closingText stack)
  · rintro rfl
    exact scan_closingText found

/-- The verdict on a fragment between an opening and a closing text tells
    whether it turns the one stack into the other. -/
theorem balanced_between_iff {stack stack' : Openings} {fragment : String} :
    Balanced (openingText stack ++ fragment ++ closingText stack')
      ↔ scan stack fragment.toList = some stack' := by
  unfold Balanced
  rw [String.toList_append, String.toList_append, scan_append, scan_append, scan_openingText,
    Option.bind_some, Option.bind_eq_some_iff]
  constructor
  · rintro ⟨found, hfragment, hclosed⟩
    rw [hfragment, scan_closingText_iff.1 hclosed]
  · intro hfragment
    exact ⟨stack', hfragment, scan_closingText stack'⟩

/-- Fragments are interchangeable just if they do the same to every stack. -/
theorem interchangeable_iff {first second : String} :
    Interchangeable first second ↔
      ∀ stack, scan stack first.toList = scan stack second.toList := by
  constructor
  · intro h stack
    -- Each stack behind the fragments is probed by a text of its own.
    ext stack'
    rw [← balanced_between_iff, ← balanced_between_iff]
    exact h (openingText stack) (closingText stack')
  · intro h before after
    have hscan : ∀ fragment : String, scan [] (before ++ fragment ++ after).toList
        = (scan [] before.toList).bind fun stack =>
            (scan stack fragment.toList).bind (scan · after.toList) := by
      intro fragment
      rw [String.toList_append, String.toList_append, scan_append, scan_append, Option.bind_assoc]
    simp only [Balanced, hscan, h]

/-- Behind a bracket that is closed again, the next one is as if the pair had
    not been there. -/
example : Interchangeable "(a)[" "[" :=
  interchangeable_iff.2 fun _ => rfl

/-- Balanced texts are those that leave every stack as it was. -/
theorem balanced_iff_scan_eq_self {text : String} :
    Balanced text ↔ ∀ stack, scan stack text.toList = some stack := by
  constructor
  · intro h stack
    exact scan_eq_self h stack
  · intro h
    exact h []

/-- A balanced text can be inserted into any text, at any place, and the verdict
    stays what it was. No other text can be inserted everywhere. -/
theorem balanced_iff_insertable (fragment : String) :
    Balanced fragment ↔
      ∀ before after, (Balanced (before ++ fragment ++ after) ↔ Balanced (before ++ after)) := by
  -- To insert a text is to exchange it for nothing.
  have hinsert : (∀ before after,
      (Balanced (before ++ fragment ++ after) ↔ Balanced (before ++ after)))
        ↔ Interchangeable fragment "" := by
    simp only [Interchangeable, String.append_empty]
  have hnothing : ∀ stack, scan stack "".toList = some stack := fun stack => rfl
  rw [hinsert, interchangeable_iff, balanced_iff_scan_eq_self]
  simp only [hnothing]

end Formula

end TableClient
