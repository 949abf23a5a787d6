import TableClient.Json.Parse

/-!
# Strings Read Back

A string that was written is read as the text it was written from.

A character stands in a string as itself or behind a backslash.
`escaped_cases` says which, with everything a reader has to know in either
case: one that stands as itself is neither a quote nor a backslash nor a
control character, and what stands behind a backslash is read as the character
that was meant. The loop over a string is then an induction over the text,
with the bound left free.

The text that follows the closing quote plays no part in it, so a string is
read back wherever it stands.

## Theorems

* `unitOfDigits?_hexDigit`: A control character is known from its digits.
* `escaped_cases`: How a character stands in a string.
* `stringChars_escaped`: The characters of a string are read back.
* `string_escaped`: So is the string.
-/

namespace TableClient

namespace Json

/-- A control character is known from the digits it is written with. -/
theorem unitOfDigits?_hexDigit {n : Nat} (h : n < 0x20) :
    unitOfDigits? '0' '0' (Text.hexDigit (n / 16)) (Text.hexDigit (n % 16)) = some n := by
  have hzero : Text.hexValue? '0' = some 0 := by decide
  have hhigh : Text.hexValue? (Text.hexDigit (n / 16)) = some (n / 16) :=
    Text.hexValue?_hexDigit (by omega)
  have hlow : Text.hexValue? (Text.hexDigit (n % 16)) = some (n % 16) :=
    Text.hexValue?_hexDigit (by omega)
  unfold unitOfDigits?
  simp only [hzero, hhigh, hlow, Option.bind_eq_bind, Option.bind_some, Option.pure_def,
    Option.some.injEq]
  omega

/-- A control character written with four digits is read back. -/
theorem codePoint_hexDigit {c : Char} (h : c.toNat < 0x20) (rest : List Char) :
    codePoint ('0' :: '0' :: Text.hexDigit (c.toNat / 16) :: Text.hexDigit (c.toNat % 16) :: rest)
      = .ok (c, rest) := by
  have hunit : codeUnit ('0' :: '0' :: Text.hexDigit (c.toNat / 16)
      :: Text.hexDigit (c.toNat % 16) :: rest) = .ok (c.toNat, rest) := by
    rw [codeUnit, unitOfDigits?_hexDigit h]
  have hleading : isLeadingSurrogate c.toNat = false := by
    simp only [isLeadingSurrogate, Bool.and_eq_false_iff, decide_eq_false_iff_not]
    omega
  have htrailing : isTrailingSurrogate c.toNat = false := by
    simp only [isTrailingSurrogate, Bool.and_eq_false_iff, decide_eq_false_iff_not]
    omega
  unfold codePoint
  rw [hunit]
  change (if isTrailingSurrogate c.toNat = true then _ else _) = _
  rw [htrailing, hleading, Char.ofNat_toNat]
  rfl

/-- How one character stands in a string: as itself, or as something behind a
    backslash that is read as the character. -/
theorem escaped_cases (c : Char) :
    (escaped c = [c] ∧ c ≠ '"' ∧ c ≠ '\\' ∧ ¬ c.toNat < 0x20) ∨
      ∃ meant, escaped c = '\\' :: meant ∧ ∀ rest, escape (meant ++ rest) = .ok (c, rest) := by
  unfold escaped
  split
  -- Behind the seven characters with an escape of their own come all others.
  case h_8 _ hquote hbackslash _ _ _ _ _ =>
    by_cases hcontrol : c.toNat < 0x20
    · rw [if_pos hcontrol]
      exact .inr ⟨_, rfl, codePoint_hexDigit hcontrol⟩
    · rw [if_neg hcontrol]
      exact .inl ⟨rfl, hquote, hbackslash, hcontrol⟩
  all_goals exact .inr ⟨_, rfl, fun rest => rfl⟩

/-- The characters of a string are read back up to the closing quote. One
    round of the loop reads one character, however long it is written. -/
theorem stringChars_escaped (cs bound rest : List Char) (h : cs.length < bound.length) :
    stringChars bound (cs.flatMap escaped ++ '"' :: rest) = .ok (cs, rest) := by
  induction cs generalizing bound with
  | nil =>
      rcases bound with _ | ⟨_, bound⟩
      · exact absurd h (Nat.not_lt_zero _)
      · rfl
  | cons c cs ih =>
      rcases bound with _ | ⟨_, bound⟩
      · exact absurd h (Nat.not_lt_zero _)
      · have hrest := ih bound (Nat.lt_of_succ_lt_succ h)
        rw [List.flatMap_cons, List.append_assoc]
        rcases escaped_cases c with ⟨hself, hquote, hbackslash, hcontrol⟩ | ⟨meant, hback, hread⟩
        · rw [hself, List.singleton_append, stringChars, if_neg hcontrol, hrest]
          · rfl
          · exact hquote
          · exact hbackslash
        · rw [hback, List.cons_append, stringChars, hread]
          change (stringChars bound _ >>= _) = _
          rw [hrest]
          rfl

/-- No character is written with nothing. -/
theorem length_le_flatMap_escaped (cs : List Char) : cs.length ≤ (cs.flatMap escaped).length := by
  induction cs with
  | nil => exact Nat.le_refl _
  | cons c cs ih =>
      have hne : 1 ≤ (escaped c).length := by
        rcases escaped_cases c with ⟨hself, _⟩ | ⟨meant, hback, _⟩
        · exact hself ▸ Nat.le_refl 1
        · rw [hback, List.length_cons]
          omega
      rw [List.flatMap_cons, List.length_append, List.length_cons]
      omega

/-- A string is read back, whatever follows it. -/
theorem string_escaped (text : String) (rest : List Char) :
    string (text.toList.flatMap escaped ++ '"' :: rest) = .ok (text, rest) := by
  have hlength : text.toList.length < (text.toList.flatMap escaped ++ '"' :: rest).length := by
    have := length_le_flatMap_escaped text.toList
    rw [List.length_append, List.length_cons]
    omega
  unfold string
  rw [stringChars_escaped _ _ rest hlength]
  change Except.ok (String.ofList text.toList, rest) = _
  rw [String.ofList_toList]

/-- The characters of a string with something behind it. -/
theorem quoted_append (text : String) (rest : List Char) :
    quoted text ++ rest = '"' :: (text.toList.flatMap escaped ++ '"' :: rest) := by
  rw [quoted, List.cons_append, List.cons_append, List.append_assoc, List.singleton_append]

end Json

end TableClient
