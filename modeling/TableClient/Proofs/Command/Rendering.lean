import TableClient.Command.Run

/-!
# Rendering from Either Source

The command `render` takes its expression from the command line or from the
standard input, and it makes no difference which.

A run goes through two steps that could tell the sources apart. The arguments
are read, and a text among them could be taken for an option. It is not, unless
it starts with a dash, so it is the operand whatever else it holds. Then the
expression is fetched, and the standard input is bytes. They are decoded in
full and nothing is cut off, so the bytes of a text give back that text, and
what is rendered is the same. If there is an operand the input is not even
looked at, and may be anything.

Behind these two steps there is one function for both sources, so errors are the
same as well, with the places in the text that they name. Rendering logs nothing,
which is why neither a filter nor the time shows up in what is printed.

## Theorems

* `isOption_eq_false`: An argument that is no option.
* `ofArguments?_render`: What an operand of the command stands for.
* `run_of_operand`: A run that renders an operand.
* `run_of_input`, `run_of_undecodable`: A run that renders the standard input.
* `run_render_agree`: Both runs end alike.
-/

namespace TableClient

namespace Command

/-- An argument without a dash in front is no option. -/
theorem isOption_eq_false {argument : String} (h : argument.toList.head? ≠ some '-') :
    isOption argument = false := by
  unfold isOption
  split
  · rename_i hdash
    rw [hdash] at h
    exact absurd rfl h
  · rfl

/-- A text without a dash in front is the expression that the command renders,
    whatever else it looks like. -/
theorem ofArguments?_render {text : String} (h : text.toList.head? ≠ some '-') :
    Invocation.ofArguments? ["render", text] = some (.run false (.render (some text))) := by
  have hends : (text == "--") = false := by
    rw [beq_eq_false_iff_ne]
    rintro rfl
    exact h rfl
  have hread : readCommand false .render [] [] [text]
      = some (.run false (.render (some text))) := by
    rw [readCommand, hends, isOption_eq_false h]
    rfl
  exact hread

section

variable {surroundings : Surroundings} {arguments : List String} {verbose : Bool} {text : String}

/-- A run that renders an operand prints what rendering it gives. Of what
    surrounds it, it depends on nothing. -/
theorem run_of_operand
    (h : Invocation.ofArguments? arguments = some (.run verbose (.render (some text)))) :
    run surroundings arguments = .ofResult "" id (render (some text)) := by
  rw [run, h]
  rfl

/-- A run that renders the standard input prints what rendering its text
    gives. -/
theorem run_of_input
    (h : Invocation.ofArguments? arguments = some (.run verbose (.render none)))
    (hinput : surroundings.input = .bytes (Text.utf8 text.toList)) :
    run surroundings arguments = .ofResult "" id (render (some text)) := by
  have htext : inputText surroundings.input = .ok (some text) := by
    rw [hinput, inputText, Text.ofUtf8?_utf8]
  rw [run, h]
  simp only [runTask, renderFrom, htext]
  rfl

/-- A run that has to render a standard input without a text fails. -/
theorem run_of_undecodable {bytes : List UInt8}
    (h : Invocation.ofArguments? arguments = some (.run verbose (.render none)))
    (hinput : surroundings.input = .bytes bytes)
    (hbytes : ∀ text : String, Text.utf8 text.toList ≠ bytes) :
    run surroundings arguments = ⟨1, "", Error.undecodableInput.message ++ "\n"⟩ := by
  have htext : inputText surroundings.input = .error .undecodableInput := by
    rw [hinput, inputText, Text.ofUtf8?_eq_none_iff.2 hbytes]
  rw [run, h]
  simp only [runTask, renderFrom, htext]
  rfl

end

/-- An expression that is given as an operand and the same expression on the
    standard input lead to the same end. The operand must not start with a dash;
    its run may be surrounded by anything, a standard input without a text
    included. If there is a formula, both print it and a line break and nothing
    else. If there is none, both fail and print the text of the error on the
    error stream only. A standard input that is the text of nothing fails for
    that reason. -/
theorem run_render_agree (given piped : Surroundings) {text : String}
    (h : text.toList.head? ≠ some '-') :
    run given ["render", text]
      = run { piped with input := .bytes (Text.utf8 text.toList) } ["render"] ∧
    (∀ formula, render (some text) = .ok formula →
      run given ["render", text] = ⟨0, formula ++ "\n", ""⟩) ∧
    (∀ error, render (some text) = .error error →
      run given ["render", text] = ⟨1, "", error.message ++ "\n"⟩) ∧
    ∀ bytes : List UInt8, (∀ other : String, Text.utf8 other.toList ≠ bytes) →
      run { piped with input := .bytes bytes } ["render"]
        = ⟨1, "", "IO error: stream did not contain valid UTF-8\n"⟩ := by
  have hgiven : run given ["render", text] = .ofResult "" id (render (some text)) :=
    run_of_operand (ofArguments?_render h)
  have hpiped : run { piped with input := .bytes (Text.utf8 text.toList) } ["render"]
      = .ofResult "" id (render (some text)) := run_of_input rfl rfl
  refine ⟨hgiven.trans hpiped.symm, fun formula hformula => ?_, fun error herror => ?_,
    fun bytes hbytes => run_of_undecodable rfl rfl hbytes⟩
  · rw [hgiven, hformula]
    rfl
  · rw [hgiven, herror, Exit.ofResult, Exit.failure, String.empty_append]

/-- A quoted text is rendered next to an input that is none, and as an input. The
    input that is none is an error where it is needed. -/
theorem run_render_agree_quoted :
    run ⟨fun _ => none, .bytes [0xFF], "", fun _ => .ok .null⟩ ["render", "\"[A] = 1\""]
      = ⟨0, "[A] = 1\n", ""⟩ ∧
    run ⟨fun _ => none, .bytes [0xFF], "", fun _ => .ok .null⟩ ["render", "\"[A] = 1\""]
      = run ⟨fun _ => none, .bytes (Text.utf8 "\"[A] = 1\"".toList), "", fun _ => .ok .null⟩
          ["render"] ∧
    run ⟨fun _ => none, .bytes [0xFF], "", fun _ => .ok .null⟩ ["render"]
      = ⟨1, "", "IO error: stream did not contain valid UTF-8\n"⟩ := by
  have hdash : "\"[A] = 1\"".toList.head? ≠ some '-' := by decide
  have hagree := run_render_agree ⟨fun _ => none, .bytes [0xFF], "", fun _ => .ok .null⟩
    ⟨fun _ => none, .terminal, "", fun _ => .ok .null⟩ hdash
  have hrender : (render (some "\"[A] = 1\"")).toOption = some "[A] = 1" := by decide +kernel
  refine ⟨?_, hagree.1, hagree.2.2.2 [0xFF] ?_⟩
  · cases hresult : render (some "\"[A] = 1\"") with
    | error error => rw [hresult] at hrender; cases hrender
    | ok formula =>
        rw [hresult] at hrender
        cases hrender
        exact hagree.2.1 "[A] = 1" hresult
  · -- No text has a byte that starts nothing.
    exact Text.ofUtf8?_eq_none_iff.1 rfl

end Command

end TableClient
