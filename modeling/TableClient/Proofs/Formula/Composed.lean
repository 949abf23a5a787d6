import Mathlib.Data.List.Forall2
import TableClient.Formula.Call
import TableClient.Proofs.Formula.Stack

/-!
# Texts Composed of Parts

Formulas as texts that somebody gave, put between texts that the compiler
writes.

A compiled formula is made of `Part`s, which are used as they were given, and
of names, separators and parentheses around them. `Composed` keeps the two
apart: it relates a text to the parts in it, in order, each with the number of
parentheses that the compiler has opened around it. Nothing is said of what
the parts hold.

Composition is what makes the bracket check local. Where every part but one
is balanced, the text in front of that one opens exactly the calls around it
and the text behind it closes exactly these, whatever was open outside. So the
whole is balanced if the part leaves the calls around it as they were, and it
is balanced in no other case, since the text behind fits no other stack.

A part need not be balanced for that. `)(` closes one call and opens another,
and inside of a call it passes.

## Main definitions

* `Part`: A given text and the number of calls around it.
* `Part.calls`: The brackets open where a part stands.
* `Part.Fits`: A part that leaves these brackets as they were.
* `Composed`: A text and the parts that it is made of.
* `Surrounds`: A text in front that opens the calls, and one behind that
  closes them.

## Theorems

* `append_eq_append_cons`: An item of a list in two parts is in one of them.
* `composed_arguments`: Arguments composed of parts have all their parts.
* `composed_call`: A call has the parts of its arguments, one call deeper.
* `scan_composed`: A text of balanced parts leaves every stack as it was.
* `exists_surrounds`: Where all parts but one are balanced, the texts around
  that one open and close its calls.
* `balanced_iff_fits`: Then the whole is balanced just if the part fits.
-/

namespace TableClient

namespace Formula

/-- A text that is used as it was given, and the number of calls that are
    written around it. -/
structure Part where
  depth : Nat
  text : String
deriving DecidableEq, Repr

namespace Part

/-- The same part in one more call. -/
def deeper (part : Part) : Part :=
  { part with depth := part.depth + 1 }

/-- The brackets that the calls around a part have opened. -/
def calls (part : Part) : Openings :=
  List.replicate part.depth .round

/-- A part fits when reading it with the calls around it open meets no
    mismatch and ends with exactly these calls open. -/
def Fits (part : Part) : Prop :=
  scan part.calls part.text.toList = some part.calls

instance (part : Part) : Decidable part.Fits :=
  inferInstanceAs (Decidable (scan part.calls part.text.toList = some part.calls))

theorem calls_deeper (part : Part) : part.deeper.calls = part.calls ++ [.round] :=
  List.replicate_succ'

end Part

/-- A text and the parts it is made of. What is not a part is balanced, apart
    from the parentheses of calls. -/
inductive Composed : String → List Part → Prop where
  | part (text : String) : Composed text [⟨0, text⟩]
  | fixed {text : String} : Balanced text → Composed text []
  | append {first second : String} {firstParts secondParts : List Part} :
    Composed first firstParts → Composed second secondParts →
      Composed (first ++ second) (firstParts ++ secondParts)
  | enclose {inner : String} {parts : List Part} :
    Composed inner parts → Composed ("(" ++ inner ++ ")") (parts.map Part.deeper)

/-- Arguments composed of parts have the parts of all of them. -/
theorem composed_arguments {args : List String} {parts : List (List Part)}
    (h : List.Forall₂ Composed args parts) : Composed (arguments args) parts.flatten := by
  induction h with
  | nil => exact .fixed rfl
  | @cons argument argumentParts rest restParts hfirst hrest ih =>
      rw [List.flatten_cons]
      cases hrest with
      | nil =>
          rw [arguments_singleton, List.flatten_nil, List.append_nil]
          exact hfirst
      | cons _ _ =>
          rw [arguments_cons]
          have hcomma : Composed (argument ++ ", ") (argumentParts ++ []) :=
            .append hfirst (.fixed (by decide))
          rw [List.append_nil] at hcomma
          exact .append hcomma ih

/-- A call has the parts of its arguments, each one call deeper. -/
theorem composed_call {function : String} {args : List String} {parts : List (List Part)}
    (hname : Balanced function) (h : List.Forall₂ Composed args parts) :
    Composed (call function args) (parts.flatten.map Part.deeper) := by
  have hcall := Composed.append (.fixed hname) (.enclose (composed_arguments h))
  rw [List.nil_append, ← String.append_assoc, ← String.append_assoc] at hcall
  exact hcall

theorem scan_open (stack : Openings) : scan stack "(".toList = some (.round :: stack) :=
  rfl

theorem scan_close (stack : Openings) : scan (.round :: stack) ")".toList = some stack :=
  rfl

/-- A text of balanced parts leaves every stack as it was. -/
theorem scan_composed {text : String} {parts : List Part} (h : Composed text parts)
    (hparts : ∀ part ∈ parts, Balanced part.text) (stack : Openings) :
    scan stack text.toList = some stack := by
  induction h generalizing stack with
  | part text => exact scan_eq_self (hparts ⟨0, text⟩ List.mem_cons_self) stack
  | fixed htext => exact scan_eq_self htext stack
  | append _ _ ih1 ih2 =>
      rw [String.toList_append, scan_append,
        ih1 (fun part hp => hparts part (List.mem_append_left _ hp)) stack]
      exact ih2 (fun part hp => hparts part (List.mem_append_right _ hp)) stack
  | @enclose inner parts _ ih =>
      have hinner : ∀ part ∈ parts, Balanced part.text :=
        fun part hp => hparts part.deeper (List.mem_map_of_mem hp)
      rw [String.toList_append, String.toList_append, scan_append, scan_append, scan_open,
        Option.bind_some, ih hinner, Option.bind_some, scan_close]

/-- What stands around a part: a text in front that opens the calls around
    it, and a text behind that closes them, from whatever was open outside. -/
structure Surrounds (part : Part) (before after : List Char) : Prop where
  opens : ∀ stack, scan stack before = some (part.calls ++ stack)
  closes : ∀ stack, scan (part.calls ++ stack) after = some stack

namespace Surrounds

theorem self (text : String) : Surrounds ⟨0, text⟩ [] [] :=
  ⟨fun _ => rfl, fun _ => rfl⟩

theorem append_before {part : Part} {before after first : List Char}
    (h : Surrounds part before after) (hfirst : ∀ stack, scan stack first = some stack) :
    Surrounds part (first ++ before) after := by
  refine ⟨fun stack => ?_, h.closes⟩
  rw [scan_append, hfirst stack, Option.bind_some, h.opens stack]

theorem append_after {part : Part} {before after second : List Char}
    (h : Surrounds part before after) (hsecond : ∀ stack, scan stack second = some stack) :
    Surrounds part before (after ++ second) := by
  refine ⟨h.opens, fun stack => ?_⟩
  rw [scan_append, h.closes stack, Option.bind_some, hsecond stack]

/-- One more call puts its parentheses outside of all that is there. -/
theorem deeper {part : Part} {before after : List Char} (h : Surrounds part before after) :
    Surrounds part.deeper ("(".toList ++ before) (after ++ ")".toList) := by
  refine ⟨fun stack => ?_, fun stack => ?_⟩
  · rw [scan_append, scan_open, Option.bind_some, h.opens, Part.calls_deeper, List.append_assoc,
      List.singleton_append]
  · rw [Part.calls_deeper, List.append_assoc, List.singleton_append, scan_append, h.closes,
      Option.bind_some, scan_close]

end Surrounds

/-- An item of a list in two parts is an item of one of them. -/
theorem append_eq_append_cons {α : Type} {first second before after : List α} {item : α}
    (h : first ++ second = before ++ item :: after) :
    (∃ rest, first = before ++ item :: rest ∧ after = rest ++ second) ∨
      ∃ rest, before = first ++ rest ∧ second = rest ++ item :: after := by
  rcases List.append_eq_append_iff.1 h with ⟨rest, hbefore, hsecond⟩ | ⟨rest, hfirst, hitem⟩
  · exact .inr ⟨rest, hbefore, hsecond⟩
  · rcases rest with _ | ⟨head, rest⟩
    · -- The cut is right in front of the item, which then heads the second part.
      rw [List.append_nil] at hfirst
      exact .inr ⟨[], by rw [hfirst, List.append_nil], hitem.symm⟩
    · rw [List.cons_append, List.cons.injEq] at hitem
      exact .inl ⟨rest, by rw [hfirst, hitem.1], hitem.2⟩

/-- Where all parts but one are balanced, the texts around that one open its
    calls and close them. Each step of the composition adds to one of the two
    texts what it puts beside the part. -/
theorem exists_surrounds {text : String} {parts : List Part} (h : Composed text parts)
    (front back : List Part) (part : Part) (hsplit : parts = front ++ part :: back)
    (hothers : ∀ other ∈ front ++ back, Balanced other.text) :
    ∃ before after, text.toList = before ++ part.text.toList ++ after ∧
      Surrounds part before after := by
  induction h generalizing front back part with
  | part text =>
      rcases List.singleton_eq_append_iff.1 hsplit with ⟨_, h⟩ | ⟨_, h⟩
      · rw [List.cons.injEq] at h
        rw [h.1]
        exact ⟨[], [], by rw [List.nil_append, List.append_nil], .self text⟩
      · cases h
  | fixed _ =>
      have hne : front ++ part :: back ≠ [] :=
        List.append_ne_nil_of_right_ne_nil _ (List.cons_ne_nil _ _)
      exact absurd hsplit.symm hne
  | @append first second _ _ hfirst hsecond ih1 ih2 =>
      rcases append_eq_append_cons hsplit with ⟨rest, hin, rfl⟩ | ⟨rest, rfl, hin⟩
      · -- The part is in the first text, and the second is read behind it.
        rcases ih1 front rest part hin (fun other ho => hothers other (by grind)) with
          ⟨before, after, htext, hsurrounds⟩
        refine ⟨before, after ++ second.toList, ?_, hsurrounds.append_after
          (scan_composed hsecond fun other ho => hothers other (by grind))⟩
        rw [String.toList_append, htext, List.append_assoc]
      · -- The part is in the second text, and the first is read before it.
        rcases ih2 rest back part hin (fun other ho => hothers other (by grind)) with
          ⟨before, after, htext, hsurrounds⟩
        refine ⟨first.toList ++ before, after, ?_, hsurrounds.append_before
          (scan_composed hfirst fun other ho => hothers other (by grind))⟩
        rw [String.toList_append, htext, List.append_assoc, List.append_assoc, List.append_assoc]
  | @enclose inner parts _ ih =>
      rcases List.map_eq_append_iff.1 hsplit with ⟨front', tail, rfl, rfl, htail⟩
      rcases List.map_eq_cons_iff.1 htail with ⟨part', back', rfl, rfl, rfl⟩
      have hinner : ∀ other ∈ front' ++ back', Balanced other.text := by
        intro other ho
        refine hothers other.deeper ?_
        rw [← List.map_append]
        exact List.mem_map_of_mem ho
      rcases ih front' back' part' rfl hinner with ⟨before, after, htext, hsurrounds⟩
      refine ⟨"(".toList ++ before, after ++ ")".toList, ?_, hsurrounds.deeper⟩
      rw [String.toList_append, String.toList_append, htext]
      simp only [List.append_assoc, Part.deeper]

/-- Where all parts but one are balanced, the whole is balanced just if that
    part leaves the calls around it as they were. A part that left other
    brackets open would meet a text that closes the calls and no others. -/
theorem balanced_iff_fits {text : String} {parts front back : List Part} {part : Part}
    (h : Composed text parts) (hsplit : parts = front ++ part :: back)
    (hothers : ∀ other ∈ front ++ back, Balanced other.text) :
    Balanced text ↔ part.Fits := by
  rcases exists_surrounds h front back part hsplit hothers with
    ⟨before, after, htext, hsurrounds⟩
  have hopen := hsurrounds.opens []
  have hclose := hsurrounds.closes []
  rw [List.append_nil] at hopen hclose
  unfold Balanced Part.Fits
  rw [htext, scan_append, scan_append, hopen, Option.bind_some]
  constructor
  · intro hall
    rcases Option.bind_eq_some_iff.1 hall with ⟨stack, hpart, hafter⟩
    -- Both the stack that the part left and its calls end with nothing open.
    rw [hpart, scan_left_inj hafter hclose]
  · intro hpart
    rw [hpart, Option.bind_some, hclose]

end Formula

end TableClient
