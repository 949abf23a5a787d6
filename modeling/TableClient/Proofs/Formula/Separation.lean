import TableClient.Proofs.Formula.Composed

/-!
# Separating the Arguments of a Call

When the arguments of a call can be read back from its text.

Arguments are written one after the other with a comma and a blank between
them, and nothing in them is escaped. They can still be told apart if the only
commas outside of all brackets are those between them. `Argument` asks this of
a text: it closes what it opens, and it has no comma outside of all brackets.

The cut is found by the stack. Of two ways to cut one text, the shorter first
argument ends with nothing open and in front of a comma, and that comma would
stand bare in the longer one. A call is an argument itself, since its
parentheses shelter every comma inside, so calls can be nested to any depth.

## Main definitions

* `Sheltered`: A text that has no comma outside of all brackets.
* `Argument`: A text that can be told apart from what follows.
* `Stops`: What may follow an argument.
* `following`: What follows the first of some arguments.

## Theorems

* `sheltered_iff`: The same in terms of what stands in front of a comma.
* `argument_call`: A call is an argument.
* `argument_append_inj`: An argument ends where the next one starts.
* `arguments_inj`: Arguments are known from their text.
* `call_inj`: A call's name and arguments are known from its text.
-/

namespace TableClient

namespace Formula

/-- No comma stands outside of all brackets: none is met with nothing open. -/
def Sheltered (text : String) : Prop :=
  ∀ n < text.toList.length, text.toList[n]? = some ',' →
    scan [] (text.toList.take n) ≠ some []

instance (text : String) : Decidable (Sheltered text) :=
  inferInstanceAs (Decidable (∀ n < text.toList.length, text.toList[n]? = some ',' →
    scan [] (text.toList.take n) ≠ some []))

/-- A text that closes what it opens and shelters its commas. -/
structure Argument (text : String) : Prop where
  balanced : Balanced text
  sheltered : Sheltered text

instance (text : String) : Decidable (Argument text) :=
  decidable_of_iff (Balanced text ∧ Sheltered text)
    ⟨fun h => ⟨h.1, h.2⟩, fun h => ⟨h.balanced, h.sheltered⟩⟩

theorem sheltered_iff (text : String) :
    Sheltered text ↔
      ∀ before after, text.toList = before ++ ',' :: after → scan [] before ≠ some [] := by
  constructor
  · intro h before after htext
    have hcomma : text.toList[before.length]? = some ',' := by
      rw [htext, List.getElem?_append_right (Nat.le_refl _), Nat.sub_self, List.getElem?_cons_zero]
    have hlt : before.length < text.toList.length := by
      rw [htext, List.length_append, List.length_cons]
      omega
    have hscan := h before.length hlt hcomma
    rw [htext, List.take_left] at hscan
    exact hscan
  · intro h n hlt hcomma
    refine h (text.toList.take n) (text.toList.drop (n + 1)) ?_
    rw [List.getElem?_eq_getElem hlt, Option.some.injEq] at hcomma
    rw [← hcomma, ← List.drop_eq_getElem_cons hlt, List.take_append_drop]

/-- Balanced arguments, with no part of them told apart. -/
theorem composed_of_balanced {args : List String} (h : ∀ argument ∈ args, Balanced argument) :
    List.Forall₂ Composed args (args.map fun _ => []) := by
  rw [List.forall₂_map_right_iff, List.forall₂_same]
  exact fun argument hmem => .fixed (h argument hmem)

theorem balanced_arguments {args : List String} (h : ∀ argument ∈ args, Balanced argument) :
    Balanced (arguments args) := by
  refine scan_composed (composed_arguments (composed_of_balanced h)) (fun part hpart => ?_) []
  simp only [List.map_const', List.flatten_replicate_nil, List.not_mem_nil] at hpart

theorem balanced_call {function : String} {args : List String} (hname : Balanced function)
    (h : ∀ argument ∈ args, Balanced argument) : Balanced (call function args) := by
  refine scan_composed (composed_call hname (composed_of_balanced h)) (fun part hpart => ?_) []
  simp only [List.map_const', List.flatten_replicate_nil, List.map_nil, List.not_mem_nil] at hpart

/-- Part of a balanced text, read inside of one more bracket, leaves that
    bracket open at the bottom of the stack. -/
theorem scan_inside_ne_nil {inner rest : List Char} (h : scan [] (inner ++ rest) = some [])
    (b : Bracket) : scan [b] inner ≠ some [] := by
  intro hnil
  rw [scan_append] at h
  rcases Option.bind_eq_some_iff.1 h with ⟨stack, hstack, _⟩
  have hinside : scan [b] inner = some (stack ++ [b]) := scan_append_below hstack [b]
  rw [hinside, Option.some.injEq] at hnil
  exact List.append_ne_nil_of_right_ne_nil _ (List.cons_ne_nil _ _) hnil

/-- The parentheses of a call shelter the commas between them. -/
theorem sheltered_call {function : String} {args : List String} (hname : Balanced function)
    (hcomma : ',' ∉ function.toList) (hargs : Balanced (arguments args)) :
    Sheltered (call function args) := by
  rw [sheltered_iff]
  intro before after htext hscan
  rw [toList_call] at htext
  -- The comma is in the name, between the parentheses or the last character.
  rcases append_eq_append_cons htext with ⟨rest, hin, _⟩ | ⟨rest, _, hin⟩
  · rcases append_eq_append_cons hin with ⟨rest', hfun, _⟩ | ⟨rest', rfl, hparen⟩
    · exact hcomma (by rw [hfun]; exact List.mem_append_right _ List.mem_cons_self)
    · rcases rest' with _ | ⟨paren, inner⟩
      · cases hparen
      · rw [List.cons_append, List.cons.injEq] at hparen
        rcases hparen with ⟨rfl, hinner⟩
        rw [scan_append, scan_eq_self hname, Option.bind_some, scan_cons] at hscan
        unfold Balanced at hargs
        rw [hinner] at hargs
        exact scan_inside_ne_nil hargs .round hscan
  · rcases rest with _ | ⟨head, rest⟩
    · cases hin
    · simp only [List.cons_append, List.cons.injEq, List.nil_eq, List.append_eq_nil_iff,
        reduceCtorEq, and_false] at hin

theorem argument_call {function : String} {args : List String} (hname : Balanced function)
    (hcomma : ',' ∉ function.toList) (hargs : ∀ argument ∈ args, Balanced argument) :
    Argument (call function args) :=
  ⟨balanced_call hname hargs, sheltered_call hname hcomma (balanced_arguments hargs)⟩

/-- What may follow an argument: nothing, or the comma in front of the next. -/
def Stops (rest : List Char) : Prop :=
  rest = [] ∨ ∃ tail, rest = ',' :: tail

/-- An argument does not go on behind a place where another one could stop. -/
theorem eq_nil_of_stops {first second : String} {more rest : List Char} (hfirst : Argument first)
    (hsecond : Argument second) (h : second.toList = first.toList ++ more)
    (hrest : Stops (more ++ rest)) : more = [] := by
  rcases more with _ | ⟨c, more⟩
  · rfl
  · exfalso
    rcases hrest with hnil | ⟨tail, hcomma⟩
    · cases hnil
    · -- The longer argument has a bare comma where the shorter one ends.
      rw [List.cons_append, List.cons.injEq] at hcomma
      rw [hcomma.1] at h
      exact (sheltered_iff second).1 hsecond.sheltered first.toList more h hfirst.balanced

/-- An argument ends where the next one starts, so two texts that start with
    an argument each and are the same start with the same argument. -/
theorem argument_append_inj {first second : String} {rest rest' : List Char}
    (hfirst : Argument first) (hsecond : Argument second) (hrest : Stops rest)
    (hrest' : Stops rest') (h : first.toList ++ rest = second.toList ++ rest') :
    first = second ∧ rest = rest' := by
  rcases List.append_eq_append_iff.1 h with ⟨more, hmore, rfl⟩ | ⟨more, hmore, rfl⟩
  · have hnil := eq_nil_of_stops hfirst hsecond hmore hrest
    rw [hnil, List.append_nil] at hmore
    exact ⟨(String.toList_inj.1 hmore).symm, by rw [hnil, List.nil_append]⟩
  · have hnil := eq_nil_of_stops hsecond hfirst hmore hrest'
    rw [hnil, List.append_nil] at hmore
    exact ⟨String.toList_inj.1 hmore, by rw [hnil, List.nil_append]⟩

/-- What follows the first of some arguments in their text. -/
def following : List String → List Char
  | [] => []
  | next :: rest => ',' :: ' ' :: (arguments (next :: rest)).toList

theorem toList_arguments_cons (argument : String) (rest : List String) :
    (arguments (argument :: rest)).toList = argument.toList ++ following rest := by
  rcases rest with _ | ⟨next, rest⟩
  · rw [arguments_singleton, following, List.append_nil]
  · rw [arguments_cons, String.toList_append, String.toList_append, List.append_assoc]
    rfl

theorem stops_following (rest : List String) : Stops (following rest) := by
  rcases rest with _ | ⟨next, rest⟩
  · exact .inl rfl
  · exact .inr ⟨_, rfl⟩

/-- The first of some arguments is known from their text, and so is what
    follows it. -/
theorem arguments_head_inj {first second : String} {rest rest' : List String}
    (hfirst : Argument first) (hsecond : Argument second)
    (h : arguments (first :: rest) = arguments (second :: rest')) :
    first = second ∧ following rest = following rest' := by
  have htext := congrArg String.toList h
  rw [toList_arguments_cons, toList_arguments_cons] at htext
  exact argument_append_inj hfirst hsecond (stops_following rest) (stops_following rest') htext

/-- Arguments are known from their text: how many there are, and each in its
    place. -/
theorem arguments_inj {first second : String} {rest rest' : List String}
    (hargs : ∀ argument ∈ first :: rest, Argument argument)
    (hargs' : ∀ argument ∈ second :: rest', Argument argument)
    (h : arguments (first :: rest) = arguments (second :: rest')) :
    first :: rest = second :: rest' := by
  induction rest generalizing first second rest' with
  | nil =>
      rcases arguments_head_inj (hargs _ List.mem_cons_self) (hargs' _ List.mem_cons_self) h with
        ⟨rfl, hrest⟩
      rcases rest' with _ | ⟨next', rest'⟩
      · rfl
      · cases hrest
  | cons next rest ih =>
      rcases arguments_head_inj (hargs _ List.mem_cons_self) (hargs' _ List.mem_cons_self) h with
        ⟨rfl, hrest⟩
      rcases rest' with _ | ⟨next', rest'⟩
      · cases hrest
      · -- Behind the comma and the blank the same question is asked again.
        simp only [following, List.cons.injEq, true_and, String.toList_inj] at hrest
        rw [ih (fun argument hmem => hargs argument (List.mem_cons_of_mem _ hmem))
          (fun argument hmem => hargs' argument (List.mem_cons_of_mem _ hmem)) hrest]

/-- The name of a call ends at its first parenthesis, and the arguments at its
    last character. -/
theorem call_inj {function function' : String} {args args' : List String}
    (hname : '(' ∉ function.toList) (hname' : '(' ∉ function'.toList)
    (h : call function args = call function' args') :
    function = function' ∧ arguments args = arguments args' := by
  have htext := congrArg String.toList h
  rw [toList_call, toList_call, List.append_left_inj] at htext
  -- If one name went on behind the other, it would hold a parenthesis.
  rcases append_eq_append_cons htext with ⟨rest, hin, _⟩ | ⟨rest, hfun, hparen⟩
  · exact absurd (by rw [hin]; exact List.mem_append_right _ List.mem_cons_self) hname
  · rcases rest with _ | ⟨c, rest⟩
    · rw [List.append_nil] at hfun
      rw [List.nil_append, List.cons.injEq] at hparen
      exact ⟨(String.toList_inj.1 hfun).symm, String.toList_inj.1 hparen.2⟩
    · rw [List.cons_append, List.cons.injEq] at hparen
      refine absurd ?_ hname'
      rw [hfun, hparen.1]
      exact List.mem_append_right _ List.mem_cons_self

end Formula

end TableClient
