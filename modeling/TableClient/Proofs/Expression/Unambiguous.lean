import TableClient.Proofs.Expression.Collapse

/-!
# What a Formula Says of Its Query

How much of a query can be read back from its selector.

A selector is one call, whose name tells the kind of query and whose arguments
are what the query was given. Nothing in them is escaped, so without a
condition on the texts a comma in a dataset could be taken for the one behind
it. `Argument` is condition enough: texts that close what they open and have
no comma outside of all brackets come apart again, however many there are.

The rows are one argument, whether they were given as formula text or as a
condition, and the formula does not tell these apart. It is an argument
because a condition made of arguments has one for its formula, however deep
its groups go. All else that a query has is in its selector, and `Alike` says
what is left: two queries are alike if they differ in the way their rows are
given and in nothing else.

## Main definitions

* `Query.Alike`: Queries that differ in how their rows are given at most.
* `Query.Kind.function`: The function that a kind of query calls.
* `Query.subject`, `Query.others`: The arguments of that call.

## Theorems

* `formula_eq_call`: The selector of a query is a call of its function.
* `argument_of_mem`: Its arguments can be told apart.
* `flatMap_arguments_inj`: Sort keys are known from their arguments.
* `alike_of_eq`: Queries of one kind with the same arguments are alike.
* `formula_eq_iff_alike`: Selectors are the same just for queries that are
  alike.
-/

namespace TableClient

open Formula

namespace Query

/-- Two queries that differ at most in how their rows are given: by formula
    text, or by conditions of one formula. -/
inductive Alike : Query → Query → Prop where
  | select (column : String) {rows rows' : RowFilter} (distinct : Bool) :
    rows.formula = rows'.formula →
      Alike (.select column rows distinct) (.select column rows' distinct)
  | filter (dataset : String) {rows rows' : RowFilter} : rows.formula = rows'.formula →
      Alike (.filter dataset rows) (.filter dataset rows')
  | orderBy (keys : String) (order : List SortKey) :
      Alike (.orderBy keys order) (.orderBy keys order)

/-- The function that a kind of query calls. -/
def Kind.function : Kind → String
  | .select => "SELECT"
  | .filter => "FILTER"
  | .orderBy => "ORDERBY"

/-- The first argument of a query: what it reads from. -/
def subject : Query → String
  | .select column _ _ => column
  | .filter dataset _ => dataset
  | .orderBy keys _ => keys

/-- The further arguments of a query. -/
def others : Query → List String
  | .select _ rows distinct => [rows.formula, flag distinct]
  | .filter _ rows => [rows.formula]
  | .orderBy _ order => order.flatMap SortKey.arguments

/-- The selector of a query is a call of its function. -/
theorem formula_eq_call (query : Query) :
    query.formula = call query.kind.function (query.subject :: query.others) := by
  cases query <;> rfl

theorem Kind.function_no_paren (kind : Kind) : '(' ∉ kind.function.toList := by
  cases kind <;> decide

theorem Kind.function_inj {kind kind' : Kind} (h : kind.function = kind'.function) :
    kind = kind' := by
  cases kind <;> cases kind' <;> revert h <;> decide

theorem flag_inj {value value' : Bool} (h : flag value = flag value') : value = value' := by
  have hread := congrArg flag? h
  rw [flag?_flag, flag?_flag, Option.some.injEq] at hread
  exact hread

theorem argument_flag (value : Bool) : Argument (flag value) := by
  cases value <;> decide

/-- The formula of rows made of arguments is an argument. -/
theorem argument_rows {rows : RowFilter} (h : ∀ part ∈ rows.parts, Argument part.text) :
    Argument rows.formula := by
  cases rows with
  | raw text => exact h ⟨0, text⟩ List.mem_cons_self
  | condition c => exact c.argument_formula_of_literals (List.forall_mem_map.2 h)

theorem argument_order {order : List SortKey} (h : ∀ key ∈ order, Argument key.column) :
    ∀ argument ∈ order.flatMap SortKey.arguments, Argument argument := by
  intro argument hmem
  rcases List.mem_flatMap.1 hmem with ⟨key, hkey, hargument⟩
  simp only [SortKey.arguments, List.mem_cons, List.not_mem_nil, or_false] at hargument
  rcases hargument with rfl | rfl
  · exact h key hkey
  · exact argument_flag key.ascending

/-- The arguments of a query made of arguments can be told apart. -/
theorem argument_of_mem {query : Query} (h : ∀ part ∈ query.parts, Argument part.text) :
    ∀ argument ∈ query.subject :: query.others, Argument argument := by
  cases query with
  | select column rows distinct =>
      rw [parts, List.forall_mem_map, List.forall_mem_cons] at h
      rcases h with ⟨hcolumn, hrows⟩
      simp only [subject, others, List.forall_mem_cons, List.not_mem_nil, false_implies,
        implies_true, and_true]
      exact ⟨hcolumn, argument_rows hrows, argument_flag distinct⟩
  | filter dataset rows =>
      rw [parts, List.forall_mem_map, List.forall_mem_cons] at h
      rcases h with ⟨hdataset, hrows⟩
      simp only [subject, others, List.forall_mem_cons, List.not_mem_nil, false_implies,
        implies_true, and_true]
      exact ⟨hdataset, argument_rows hrows⟩
  | orderBy keys order =>
      rw [parts, List.forall_mem_map, List.forall_mem_cons, List.forall_mem_map] at h
      rcases h with ⟨hkeys, horder⟩
      exact List.forall_mem_cons.2 ⟨hkeys, argument_order horder⟩

/-- Sort keys are known from their arguments: how many there are, and each in
    its place. -/
theorem flatMap_arguments_inj {first second : List SortKey}
    (h : first.flatMap SortKey.arguments = second.flatMap SortKey.arguments) :
    first = second := by
  induction first generalizing second with
  | nil =>
      rcases second with _ | ⟨key', second⟩
      · rfl
      · cases h
  | cons key first ih =>
      rcases second with _ | ⟨key', second⟩
      · cases h
      · -- Each key takes two arguments, so the lists come apart in pairs.
        simp only [List.flatMap_cons, SortKey.arguments, List.cons_append, List.nil_append,
          List.cons.injEq] at h
        rcases h with ⟨hcolumn, hflag, hrest⟩
        have hkey : key = key' := by
          rw [SortKey.mk.injEq]
          exact ⟨hcolumn, flag_inj hflag⟩
        rw [hkey, ih hrest]

/-- Queries of one kind with the same arguments are alike. -/
theorem alike_of_eq {first second : Query} (hkind : first.kind = second.kind)
    (hsubject : first.subject = second.subject) (hothers : first.others = second.others) :
    Alike first second := by
  cases first with
  | select column rows distinct =>
      cases second with
      | select column' rows' distinct' =>
          simp only [subject] at hsubject
          simp only [others, List.cons.injEq, and_true] at hothers
          rw [hsubject, flag_inj hothers.2]
          exact .select column' distinct' hothers.1
      | filter dataset' rows' => cases hkind
      | orderBy keys' order' => cases hkind
  | filter dataset rows =>
      cases second with
      | select column' rows' distinct' => cases hkind
      | filter dataset' rows' =>
          simp only [subject] at hsubject
          simp only [others, List.cons.injEq, and_true] at hothers
          rw [hsubject]
          exact .filter dataset' hothers
      | orderBy keys' order' => cases hkind
  | orderBy keys order =>
      cases second with
      | select column' rows' distinct' => cases hkind
      | filter dataset' rows' => cases hkind
      | orderBy keys' order' =>
          simp only [subject] at hsubject
          simp only [others] at hothers
          rw [hsubject, flatMap_arguments_inj hothers]
          exact .orderBy keys' order'

theorem formula_of_alike {first second : Query} (h : Alike first second) :
    first.formula = second.formula := by
  cases h with
  | select column distinct hrows => rw [formula, formula, hrows]
  | filter dataset hrows => rw [formula, formula, hrows]
  | orderBy keys order => rfl

/-- Selectors are unambiguous. Two queries all of whose texts are arguments have
    the same selector if and only if they are of one kind, read from the same
    column, dataset or keys, agree on distinctness and on the sort keys in their
    order, and have rows of one formula. -/
theorem formula_eq_iff_alike {first second : Query}
    (hfirst : ∀ part ∈ first.parts, Argument part.text)
    (hsecond : ∀ part ∈ second.parts, Argument part.text) :
    first.formula = second.formula ↔ Alike first second := by
  refine ⟨fun h => ?_, formula_of_alike⟩
  rw [formula_eq_call, formula_eq_call] at h
  -- The name tells the kind, and behind it the arguments come apart.
  rcases call_inj (Kind.function_no_paren _) (Kind.function_no_paren _) h with ⟨hname, hargs⟩
  have hlist := arguments_inj (argument_of_mem hfirst) (argument_of_mem hsecond) hargs
  rw [List.cons.injEq] at hlist
  exact alike_of_eq (Kind.function_inj hname) hlist.1 hlist.2

/-- Rows by a condition and by its text have one selector. Two sort keys and one
    do not, though the longer selector starts with all of the shorter one but
    its last character. -/
theorem formula_eq_iff_alike_rows :
    (∀ part ∈ (filter "T" (.condition (.not (.literal "IN([A], LIST(1, 2))")))).parts,
      Argument part.text) ∧
    (filter "T" (.condition (.not (.literal "IN([A], LIST(1, 2))")))).formula
      = (filter "T" (.raw "NOT(IN([A], LIST(1, 2)))")).formula ∧
    (orderBy "FILTER(T, [A])" [⟨"[A]", true⟩]).formula
      ≠ (orderBy "FILTER(T, [A])" [⟨"[A]", true⟩, ⟨"[B]", false⟩]).formula := by
  refine ⟨by decide, ?_, fun h => ?_⟩
  · refine (formula_eq_iff_alike (by decide) (by decide)).2 (.filter "T" ?_)
    exact Condition.formula_not _
  · cases (formula_eq_iff_alike (by decide) (by decide)).1 h

/-- With a bare comma in a dataset, two filters have one selector and are not
    alike. -/
example : (filter "T, [A]" (.raw "[B]")).formula = (filter "T" (.raw "[A], [B]")).formula := by
  decide

end Query

end TableClient
