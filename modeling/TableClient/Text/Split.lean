/-!
# Splitting Text

A text cut at marks.

## Main definitions

* `split`: The pieces of a text between its marks.

## Theorems

* `split_eq_singleton`, `split_append_cons`: The first piece goes up to the first
  mark.
-/

namespace TableClient

namespace Text

/-- A text cut at every character that is a mark. There is always one piece
    more than there are marks. -/
def split (isMark : Char → Bool) : List Char → List (List Char)
  | [] => [[]]
  | c :: rest =>
    if isMark c then [] :: split isMark rest
    else
      match split isMark rest with
      | [] => [[c]]
      | piece :: pieces => (c :: piece) :: pieces

/-- A text without marks is its only piece. -/
theorem split_eq_singleton {isMark : Char → Bool} {text : List Char}
    (h : ∀ c ∈ text, isMark c = false) : split isMark text = [text] := by
  induction text with
  | nil => rfl
  | cons c rest ih =>
      obtain ⟨hc, hrest⟩ := List.forall_mem_cons.1 h
      simp [split, hc, ih hrest]

/-- The first piece of a text goes up to the first mark. -/
theorem split_append_cons {isMark : Char → Bool} {piece : List Char} {mark : Char}
    (h : ∀ c ∈ piece, isMark c = false) (hmark : isMark mark = true) (rest : List Char) :
    split isMark (piece ++ mark :: rest) = piece :: split isMark rest := by
  induction piece with
  | nil => rw [List.nil_append, split, if_pos hmark]
  | cons c behind ih =>
      obtain ⟨hc, hbehind⟩ := List.forall_mem_cons.1 h
      simp [split, hc, ih hbehind]

end Text

end TableClient
