import TableClient.Formula.Bracket

/-!
# The Stack of Open Brackets

What a text can and cannot do to the brackets that are open when its reading
starts.

`push_cases` lists everything one character can do, and the two laws about
whole texts come from it, each by an induction that carries the stack along.
`scan_append_below` says that brackets further down are never looked at: a
text that can be read from a stack can be read from any larger one, and
leaves the extra brackets alone. `scan_left_inj` says that reading loses
nothing: the stack after a text and the text determine the stack before it.

The first law is why a balanced text may stand anywhere. The second is why
nothing else may, since what follows a text only fits the stack that the text
should have left.

## Main definitions

* `Bracket.characters`: The characters that open or close.

## Theorems

* `opened?_eq_some_iff`, `closed?_eq_some_iff`: The tables of characters read
  backwards.
* `push_of_notMem`: A character that is no bracket changes nothing.
* `push_cases`: Everything one character can do.
* `push_append_below`, `scan_append_below`: Brackets further down are left
  alone.
* `push_left_inj`, `scan_left_inj`: Reading loses nothing.
* `scan_eq_self`: A balanced text leaves every stack as it was.
-/

namespace TableClient

namespace Formula

/-- The characters that open or close a bracket. -/
def Bracket.characters : List Char :=
  ['(', ')', '{', '}', '[', ']']

theorem opened?_eq_some_iff (c : Char) (b : Bracket) :
    Bracket.opened? c = some b ↔ c = b.opening := by
  constructor
  · intro h
    unfold Bracket.opened? at h
    split at h <;> cases h <;> rfl
  · intro h
    rw [h]
    cases b <;> rfl

theorem closed?_eq_some_iff (c : Char) (b : Bracket) :
    Bracket.closed? c = some b ↔ c = b.closing := by
  constructor
  · intro h
    unfold Bracket.closed? at h
    split at h <;> cases h <;> rfl
  · intro h
    rw [h]
    cases b <;> rfl

theorem opening_mem_characters (b : Bracket) : b.opening ∈ Bracket.characters := by
  cases b <;> decide

theorem closing_mem_characters (b : Bracket) : b.closing ∈ Bracket.characters := by
  cases b <;> decide

theorem closing_ne_opening (b b' : Bracket) : b.closing ≠ b'.opening := by
  cases b <;> cases b' <;> decide

theorem closing_inj {b b' : Bracket} (h : b.closing = b'.closing) : b = b' := by
  have hclosed := (closed?_eq_some_iff b.closing b').2 h
  rw [(closed?_eq_some_iff b.closing b).2 rfl, Option.some.injEq] at hclosed
  exact hclosed

theorem push_of_notMem (stack : Openings) (c : Char) (h : c ∉ Bracket.characters) :
    push stack c = some stack := by
  refine push_other stack c ?_ ?_
  · cases hb : Bracket.opened? c with
    | none => rfl
    | some b => exact absurd ((opened?_eq_some_iff c b).1 hb ▸ opening_mem_characters b) h
  · cases hb : Bracket.closed? c with
    | none => rfl
    | some b => exact absurd ((closed?_eq_some_iff c b).1 hb ▸ closing_mem_characters b) h

theorem notMem_characters {c : Char} (hopen : Bracket.opened? c = none)
    (hclose : Bracket.closed? c = none) : c ∉ Bracket.characters := by
  intro hc
  simp only [Bracket.characters, List.mem_cons, List.not_mem_nil, or_false] at hc
  rcases hc with rfl | rfl | rfl | rfl | rfl | rfl
  · cases hopen
  · cases hclose
  · cases hopen
  · cases hclose
  · cases hopen
  · cases hclose

/-- Everything one character can do to a stack: open a bracket, close the
    innermost one, or leave the stack as it is. -/
theorem push_cases {stack stack' : Openings} {c : Char} (h : push stack c = some stack') :
    (∃ b : Bracket, c = b.opening ∧ stack' = b :: stack) ∨
      (∃ b : Bracket, c = b.closing ∧ stack = b :: stack') ∨
      (c ∉ Bracket.characters ∧ stack' = stack) := by
  unfold push at h
  cases hopen : Bracket.opened? c with
  | some b =>
      rw [hopen] at h
      exact .inl ⟨b, (opened?_eq_some_iff c b).1 hopen, (Option.some.inj h).symm⟩
  | none =>
      rw [hopen] at h
      cases hclose : Bracket.closed? c with
      | none =>
          rw [hclose] at h
          exact .inr (.inr ⟨notMem_characters hopen hclose, (Option.some.inj h).symm⟩)
      | some b =>
          rw [hclose] at h
          rcases stack with _ | ⟨top, rest⟩
          · cases h
          · -- Only the innermost bracket's own kind gets this far.
            by_cases htop : top = b
            · simp only [if_pos htop, Option.some.injEq] at h
              exact .inr (.inl ⟨b, (closed?_eq_some_iff c b).1 hclose, by rw [htop, h]⟩)
            · simp only [if_neg htop, reduceCtorEq] at h

theorem push_append_below {stack stack' : Openings} {c : Char}
    (h : push stack c = some stack') (below : Openings) :
    push (stack ++ below) c = some (stack' ++ below) := by
  rcases push_cases h with ⟨b, rfl, rfl⟩ | ⟨b, rfl, rfl⟩ | ⟨hc, rfl⟩
  · exact push_opening (stack ++ below) b
  · exact push_closing_self (stack' ++ below) b
  · exact push_of_notMem (stack' ++ below) c hc

/-- A text that can be read from a stack can be read from any larger one, and
    the brackets further down are still there afterwards. -/
theorem scan_append_below {text : List Char} {stack stack' : Openings}
    (h : scan stack text = some stack') (below : Openings) :
    scan (stack ++ below) text = some (stack' ++ below) := by
  induction text generalizing stack with
  | nil =>
      rw [scan_nil, Option.some.injEq] at h
      rw [h, scan_nil]
  | cons c rest ih =>
      rw [scan_cons] at h ⊢
      rcases Option.bind_eq_some_iff.1 h with ⟨middle, hpush, hrest⟩
      rw [push_append_below hpush below]
      exact ih hrest

/-- The stack before a character is known from the stack after it: an opening
    character is on top then, a closing one names what it took away. -/
theorem push_left_inj {first second stack : Openings} {c : Char}
    (h1 : push first c = some stack) (h2 : push second c = some stack) : first = second := by
  rcases push_cases h1 with ⟨b, rfl, rfl⟩ | ⟨b, rfl, rfl⟩ | ⟨hc, rfl⟩
  · rw [push_opening, Option.some.injEq] at h2
    exact (List.cons.inj h2).2.symm
  · rcases push_cases h2 with ⟨b', hb, rfl⟩ | ⟨b', hb, rfl⟩ | ⟨hc, rfl⟩
    · exact absurd hb (closing_ne_opening b b')
    · rw [closing_inj hb]
    · exact absurd (closing_mem_characters b) hc
  · rw [push_of_notMem second c hc] at h2
    exact (Option.some.inj h2).symm

/-- Reading loses nothing: two stacks from which a text ends with the same
    brackets open are the same stack. -/
theorem scan_left_inj {text : List Char} {first second stack : Openings}
    (h1 : scan first text = some stack) (h2 : scan second text = some stack) :
    first = second := by
  induction text generalizing first second with
  | nil =>
      rw [scan_nil, Option.some.injEq] at h1 h2
      rw [h1, h2]
  | cons c rest ih =>
      rw [scan_cons] at h1 h2
      rcases Option.bind_eq_some_iff.1 h1 with ⟨middle, hpush1, hrest1⟩
      rcases Option.bind_eq_some_iff.1 h2 with ⟨middle', hpush2, hrest2⟩
      rw [← ih hrest1 hrest2] at hpush2
      exact push_left_inj hpush1 hpush2

theorem scan_eq_self {text : String} (h : Balanced text) (stack : Openings) :
    scan stack text.toList = some stack :=
  scan_append_below h stack

end Formula

end TableClient
