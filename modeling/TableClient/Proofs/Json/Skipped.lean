import TableClient.Json.Skip
import TableClient.Proofs.Json.Textual
import TableClient.Proofs.Json.WellFormed

/-!
# Skipping What Can Be Read

A value that can be read can also be skipped, and both end at the same place.

Skipping looks less closely, so it goes through wherever reading does. It goes another
way in two places. A character outside the first plane may be written as two escapes,
which are read as one character and skipped one by one; the skipper needs a round more
for it. And it does not count levels but has the text as its bound. Both bounds are
lists that become shorter, and to know that they last, every lemma here says of the
rest as well that it is no longer than the text: that is `PassesTo`.

## Main definitions

* `PassesTo`: A skipper goes from a text to what is left of it.

## Theorems

* `skipString_passes`, `skipNumber_passes`, `skipScalar_passes`: The parts without
  values inside.
* `skipItems_passes`, `skipMembers_passes`: The loops.
* `skipValue_passes`: A value that is read within a number of levels.
* `skip_of_value`: The same without the bound.
-/

namespace TableClient

namespace Json

/-- The skipper goes from the text to the rest, which is no longer than the text. -/
def PassesTo (skipper : Skipper) (text rest : List Char) : Prop :=
  skipper text = .ok rest ∧ rest.length ≤ text.length

theorem length_skipBlanks_le (text : List Char) : (skipBlanks text).length ≤ text.length :=
  (List.dropWhile_suffix isBlank).length_le

theorem length_word_le {letters text rest : List Char} (h : word letters text = .ok rest) :
    rest.length ≤ text.length := by
  induction letters generalizing text with
  | nil =>
      cases h
      exact Nat.le_refl _
  | cons letter letters ih =>
      rcases text with _ | ⟨c, text⟩
      · cases h
      · rw [word] at h
        split at h
        · exact Nat.le_succ_of_le (ih h)
        · cases h

/-! ### Strings -/

/-- A code unit is four characters. -/
theorem codeUnit_eq_ok {text rest : List Char} {unit : Nat}
    (h : codeUnit text = .ok (unit, rest)) : ∃ a b c d, text = a :: b :: c :: d :: rest := by
  unfold codeUnit at h
  split at h
  · split at h
    · cases h
      exact ⟨_, _, _, _, rfl⟩
    · cases h
  · cases h

/-- What a pair is read from: the second half has an escape of its own. -/
theorem trailingSurrogate_eq_ok {leading : Nat} {text rest : List Char} {c : Char}
    (h : trailingSurrogate leading text = .ok (c, rest)) :
    ∃ inside unit, text = '\\' :: 'u' :: inside ∧ codeUnit inside = .ok (unit, rest) := by
  unfold trailingSurrogate at h
  split at h
  case h_3 inside =>
    rcases bind_eq_ok.1 h with ⟨⟨unit, behind⟩, hunit, h⟩
    simp only [] at h
    split at h
    · have hrest : behind = rest := (Prod.mk.inj (Except.ok.inj h)).2
      exact ⟨inside, unit, rfl, hrest ▸ hunit⟩
    · cases h
  all_goals cases h

/-- What a character is read from that is given by its code units, one or two. -/
theorem codePoint_eq_ok {text rest : List Char} {c : Char} (h : codePoint text = .ok (c, rest)) :
    ∃ unit behind, codeUnit text = .ok (unit, behind) ∧
      (rest = behind ∨ ∃ inside second, behind = '\\' :: 'u' :: inside ∧
        codeUnit inside = .ok (second, rest)) := by
  unfold codePoint at h
  rcases bind_eq_ok.1 h with ⟨⟨unit, behind⟩, hunit, h⟩
  refine ⟨unit, behind, hunit, ?_⟩
  simp only [] at h
  split at h
  · cases h
  · split at h
    · exact .inr (trailingSurrogate_eq_ok h)
    · cases h
      exact .inl rfl

/-- What is read behind a backslash can be skipped in one go, or in two with another
    backslash between them. -/
theorem escape_eq_ok {text rest : List Char} {c : Char} (h : escape text = .ok (c, rest)) :
    (skipEscape text = .ok rest ∧ rest.length < text.length) ∨
      ∃ inside, skipEscape text = .ok ('\\' :: inside) ∧ skipEscape inside = .ok rest ∧
        rest.length < inside.length ∧ inside.length < text.length := by
  unfold escape at h
  split at h
  · cases h
  · rename_i digits
    -- One code unit, or a pair of which the second has an escape of its own.
    rcases codePoint_eq_ok h with ⟨unit, behind, hunit, rfl | ⟨digits', second, rfl, hsecond⟩⟩
    · obtain ⟨_, _, _, _, rfl⟩ := codeUnit_eq_ok hunit
      refine .inl ⟨by rw [skipEscape, hunit]; rfl, ?_⟩
      simp only [List.length_cons]
      omega
    · obtain ⟨_, _, _, _, rfl⟩ := codeUnit_eq_ok hunit
      obtain ⟨_, _, _, _, rfl⟩ := codeUnit_eq_ok hsecond
      refine .inr ⟨_, by rw [skipEscape, hunit]; rfl, by rw [skipEscape, hsecond]; rfl, ?_, ?_⟩
      all_goals
        simp only [List.length_cons]
        omega
  · rename_i letter behind hletter
    split at h
    · rename_i meant hmeant
      cases h
      refine .inl ⟨?_, Nat.lt_succ_self _⟩
      rw [skipEscape, hmeant]
      exact hletter
    · cases h

/-- An escape that can be skipped takes one round. -/
theorem skipStringChars_escape {y : Char} {bound text inside rest : List Char}
    (hskip : skipEscape text = .ok inside) (hlength : inside.length ≤ text.length)
    (h : PassesTo (skipStringChars bound) inside rest) :
    PassesTo (skipStringChars (y :: bound)) ('\\' :: text) rest := by
  obtain ⟨hpasses, hle⟩ := h
  refine ⟨?_, ?_⟩
  · rw [skipStringChars, hskip]
    exact hpasses
  · simp only [List.length_cons]
    omega

/-- The characters of a string that is read can be skipped, with any bound that is as
    long as the text. -/
theorem skipStringChars_passes {bound text rest cs : List Char}
    (h : stringChars bound text = .ok (cs, rest)) {bound' : List Char}
    (hbound : text.length ≤ bound'.length) : PassesTo (skipStringChars bound') text rest := by
  induction bound generalizing text cs bound' with
  | nil => cases h
  | cons x bound ih =>
      rcases text with _ | ⟨c, text⟩
      · cases h
      rcases bound' with _ | ⟨y, bound'⟩
      · exact absurd hbound (Nat.not_succ_le_zero _)
      have hshorter : text.length ≤ bound'.length := Nat.le_of_succ_le_succ hbound
      by_cases hquote : c = '"'
      · subst hquote
        cases h
        exact ⟨rfl, Nat.le_succ _⟩
      by_cases hbackslash : c = '\\'
      · subst hbackslash
        rw [stringChars] at h
        simp only [bind_eq_ok, Prod.exists] at h
        rcases h with ⟨meant, behind, hescape, cs, behind', hcs, h⟩
        cases h
        rcases escape_eq_ok hescape with ⟨hskip, hlength⟩ | ⟨inside, hskip, hpair, hlength⟩
        · have hbehind : behind.length ≤ bound'.length := by omega
          exact skipStringChars_escape hskip hlength.le (ih hcs hbehind)
        · -- The second escape takes a round of its own.
          rcases bound' with _ | ⟨z, bound'⟩
          · simp only [List.length_nil] at hshorter
            omega
          · simp only [List.length_cons] at hshorter
            have hbehind : behind.length ≤ bound'.length := by omega
            have hsecond := @skipStringChars_escape z _ _ _ _ hpair hlength.1.le (ih hcs hbehind)
            exact skipStringChars_escape hskip hlength.2 hsecond
      · rw [stringChars.eq_5 _ _ _ _ hquote hbackslash] at h
        split at h
        · cases h
        · rename_i hcontrol
          simp only [bind_eq_ok, Prod.exists] at h
          rcases h with ⟨cs, behind, hcs, h⟩
          cases h
          obtain ⟨hpasses, hle⟩ := ih hcs hshorter
          refine ⟨?_, Nat.le_succ_of_le hle⟩
          rw [skipStringChars.eq_5 _ _ _ _ hquote hbackslash, if_neg hcontrol]
          exact hpasses

/-- A string that is read can be skipped. -/
theorem skipString_passes {text rest : List Char} {content : String}
    (h : string text = .ok (content, rest)) : PassesTo skipString text rest := by
  unfold string at h
  simp only [bind_eq_ok, Prod.exists] at h
  rcases h with ⟨cs, behind, hcs, h⟩
  cases h
  exact skipStringChars_passes hcs (Nat.le_refl _)

/-! ### Numbers -/

/-- The digits that are read as an exponent go as far as there are digits, also if their
    value goes out of range. -/
theorem exponentDigits_rest (value : Nat) (text : List Char) :
    (∀ n rest, exponentDigits value text = .ok (n, rest) → rest = text.dropWhile Char.isDigit) ∧
    ∀ rest, exponentDigits value text = .error rest →
      rest.dropWhile Char.isDigit = text.dropWhile Char.isDigit := by
  induction text generalizing value with
  | nil =>
      refine ⟨fun n rest h => ?_, by rintro _ ⟨⟩⟩
      cases h
      rfl
  | cons c text ih =>
      by_cases hdigit : c.isDigit = true
      · rw [exponentDigits, if_pos hdigit, List.dropWhile_cons_of_pos hdigit]
        by_cases hfits : value * 10 + digitValue c < Nat.pow 2 31
        · simp only [if_pos hfits]
          exact ih _
        · simp only [if_neg hfits]
          refine ⟨by rintro _ _ ⟨⟩, fun rest h => ?_⟩
          cases h
          rfl
      · rw [exponentDigits, if_neg hdigit, List.dropWhile_cons_of_neg hdigit]
        refine ⟨fun n rest h => ?_, by rintro _ ⟨⟩⟩
        cases h
        rfl

theorem skipDigits_cons {c : Char} (h : c.isDigit = true) (rest : List Char) :
    PassesTo skipDigits (c :: rest) (rest.dropWhile Char.isDigit) := by
  refine ⟨by rw [skipDigits, if_pos h], ?_⟩
  have hle := (List.dropWhile_suffix Char.isDigit (l := rest)).length_le
  rw [List.length_cons]
  omega

theorem realOrFail_rest {negative : Bool} {significand : Nat} {power : Int} {text rest : List Char}
    {n : Number} (h : realOrFail negative significand power text = .ok (n, rest)) :
    rest = text := by
  unfold realOrFail at h
  split at h
  · cases h
    rfl
  · cases h

theorem exponentValue_passes {negative down : Bool} {significand : Nat} {power : Int}
    {text rest : List Char} {n : Number}
    (h : exponentValue negative significand power down text = .ok (n, rest)) :
    PassesTo skipDigits text rest := by
  rcases text with _ | ⟨c, text⟩
  · cases h
  · rw [exponentValue] at h
    split at h
    · rename_i hdigit
      have hrest : rest = text.dropWhile Char.isDigit := by
        split at h
        · rename_i value behind hvalue
          rw [realOrFail_rest h]
          exact (exponentDigits_rest _ _).1 _ _ hvalue
        · -- An exponent out of range makes a zero, with the remaining digits dropped.
          rename_i behind hvalue
          split at h
          · cases h
          · rw [← (exponentDigits_rest _ _).2 _ hvalue]
            exact (Prod.mk.inj (Except.ok.inj h)).2.symm
      rw [hrest]
      exact skipDigits_cons hdigit text
    · cases h

theorem exponent_passes {negative : Bool} {significand : Nat} {power : Int}
    {text rest : List Char} {n : Number}
    (h : exponent negative significand power text = .ok (n, rest)) :
    PassesTo skipExponent text rest := by
  unfold exponent at h
  split at h
  · obtain ⟨hskip, hle⟩ := exponentValue_passes h
    exact ⟨hskip, Nat.le_succ_of_le hle⟩
  · obtain ⟨hskip, hle⟩ := exponentValue_passes h
    exact ⟨hskip, Nat.le_succ_of_le hle⟩
  · rename_i hplus hminus
    rw [PassesTo, skipExponent.eq_3 _ hplus hminus]
    exact exponentValue_passes h

theorem behindFraction_passes {negative : Bool} {significand : Nat} {power : Int}
    {text rest : List Char} {n : Number}
    (h : behindFraction negative significand power text = .ok (n, rest)) :
    PassesTo skipBehindFraction text rest := by
  unfold behindFraction at h
  split at h
  · obtain ⟨hskip, hle⟩ := exponent_passes h
    exact ⟨hskip, Nat.le_succ_of_le hle⟩
  · obtain ⟨hskip, hle⟩ := exponent_passes h
    exact ⟨hskip, Nat.le_succ_of_le hle⟩
  · rename_i hsmall hlarge
    rw [realOrFail_rest h]
    exact ⟨skipBehindFraction.eq_3 _ hsmall hlarge, Nat.le_refl _⟩

/-- Digits that are taken as long as there are any can be skipped if there is one. -/
theorem skipDigits_passes {text : List Char} (h : (text.takeWhile Char.isDigit).isEmpty = false) :
    PassesTo skipDigits text (text.dropWhile Char.isDigit) := by
  rcases text with _ | ⟨c, text⟩
  · cases h
  · by_cases hdigit : c.isDigit = true
    · rw [List.dropWhile_cons_of_pos hdigit]
      exact skipDigits_cons hdigit text
    · rw [List.takeWhile_cons_of_neg hdigit] at h
      cases h

theorem fraction_passes {negative : Bool} {significand : Nat} {power : Int}
    {text rest : List Char} {n : Number}
    (h : fraction negative significand power text = .ok (n, rest)) :
    PassesTo skipBehindWhole ('.' :: text) rest := by
  unfold fraction at h
  by_cases hempty : (text.takeWhile Char.isDigit).isEmpty = true
  · simp only [if_pos hempty] at h
    cases h
  · simp only [if_neg hempty] at h
    obtain ⟨hdigits, hlength⟩ := skipDigits_passes (Bool.eq_false_iff.2 hempty)
    obtain ⟨hskip, hle⟩ := behindFraction_passes h
    refine ⟨?_, Nat.le_succ_of_le (Nat.le_trans hle hlength)⟩
    rw [skipBehindWhole, hdigits]
    exact hskip

theorem behindWhole_passes {negative : Bool} {significand dropped : Nat} {text rest : List Char}
    {n : Number} (h : behindWhole negative significand dropped text = .ok (n, rest)) :
    PassesTo skipBehindWhole text rest := by
  unfold behindWhole at h
  split at h
  · exact fraction_passes h
  · obtain ⟨hskip, hle⟩ := exponent_passes h
    exact ⟨hskip, Nat.le_succ_of_le hle⟩
  · obtain ⟨hskip, hle⟩ := exponent_passes h
    exact ⟨hskip, Nat.le_succ_of_le hle⟩
  · rename_i hpoint hsmall hlarge
    have hrest : rest = text := by
      split at h
      · exact (Prod.mk.inj (Except.ok.inj h)).2.symm
      · exact realOrFail_rest h
    rw [PassesTo, skipBehindWhole.eq_2 _ hpoint, skipBehindFraction.eq_3 _ hsmall hlarge, hrest]
    exact ⟨rfl, Nat.le_refl _⟩

/-- A whole part that is skipped in front of what can be skipped behind it. -/
theorem skipUnsigned_digits {c : Char} {text rest : List Char}
    (hzero : ∀ (d : Char) (behind : List Char), c :: text = '0' :: d :: behind → False)
    (hdigit : c.isDigit = true)
    (h : PassesTo skipBehindWhole (text.dropWhile Char.isDigit) rest) :
    PassesTo skipUnsigned (c :: text) rest := by
  obtain ⟨hdigits, hlength⟩ := skipDigits_cons hdigit text
  obtain ⟨hskip, hle⟩ := h
  refine ⟨?_, Nat.le_trans hle hlength⟩
  rw [skipUnsigned.eq_2 _ hzero, hdigits]
  exact hskip

theorem unsigned_passes {negative : Bool} {text rest : List Char} {n : Number}
    (h : unsigned negative text = .ok (n, rest)) : PassesTo skipUnsigned text rest := by
  unfold unsigned at h
  split at h
  · cases h
  · split at h
    · -- A zero in front stands alone, so what is behind it is no digit.
      rename_i c behind
      split at h
      · cases h
      · rename_i hdigit
        obtain ⟨hskip, hle⟩ := behindWhole_passes h
        refine ⟨?_, Nat.le_succ_of_le hle⟩
        rw [skipUnsigned, if_neg hdigit]
        exact hskip
    · exact skipUnsigned_digits (by rintro _ _ ⟨⟩) (by decide) (behindWhole_passes h)
  · rename_i c behind hzero
    split at h
    · rename_i hdigit
      refine skipUnsigned_digits (fun d behind' heq => ?_) hdigit (behindWhole_passes h)
      exact hzero (List.cons.inj heq).1
    · cases h

/-- A number that is read can be skipped. -/
theorem skipNumber_passes {text rest : List Char} {n : Number}
    (h : number text = .ok (n, rest)) : PassesTo skipNumber text rest := by
  unfold number at h
  split at h
  · obtain ⟨hskip, hle⟩ := unsigned_passes h
    exact ⟨hskip, Nat.le_succ_of_le hle⟩
  · rename_i hminus
    rw [PassesTo, skipNumber.eq_2 _ hminus]
    exact unsigned_passes h

/-- A scalar that is read can be skipped. -/
theorem skipScalar_passes {text rest : List Char} {v : Json}
    (h : scalar text = .ok (v, rest)) : PassesTo skipScalar text rest := by
  cases scalarAt_of_scalar h with
  | null hword => exact ⟨hword, Nat.le_succ_of_le (length_word_le hword)⟩
  | true hword => exact ⟨hword, Nat.le_succ_of_le (length_word_le hword)⟩
  | false hword => exact ⟨hword, Nat.le_succ_of_le (length_word_le hword)⟩
  | str hstring =>
      obtain ⟨hskip, hle⟩ := skipString_passes hstring
      exact ⟨hskip, Nat.le_succ_of_le hle⟩
  | @num c inside _ n hfront hnumber =>
      have hother : ∀ d : Char, d ≠ '-' → d.isDigit = false → c = d → False := by
        rintro d hminus hdigit rfl
        rcases hfront with hfront | hfront
        · exact hminus hfront
        · rw [hdigit] at hfront
          cases hfront
      have hnumeric : (c == '-' || c.isDigit) = true := by
        rcases hfront with rfl | hfront
        · rfl
        · rw [hfront, Bool.or_true]
      rw [PassesTo, skipScalar.eq_6 _ _ (hother 'n' (by decide) (by decide))
        (hother 't' (by decide) (by decide)) (hother 'f' (by decide) (by decide))
        (hother '"' (by decide) (by decide)), if_pos hnumeric]
      exact skipNumber_passes hnumber

/-! ### Items and members -/

/-- Where the reader of items finds the end, so does the skipper. -/
theorem nextSkippedItem_end {first : Bool} {text rest : List Char}
    (h : nextItem first text = .ok (false, rest)) :
    nextSkippedItem first text = .ok (false, rest) ∧ rest.length ≤ text.length := by
  have hle := length_skipBlanks_le text
  unfold nextItem at h
  split at h
  · cases h
  · rename_i behind hopen
    cases h
    rw [hopen] at hle
    unfold nextSkippedItem
    rw [hopen]
    exact ⟨rfl, Nat.le_of_succ_le hle⟩
  · split at h
    · cases h
    · split at h <;> cases h
  · split at h <;> cases h

/-- Where the reader of items finds one more, so does the skipper, which may leave
    blanks in front of it. -/
theorem nextSkippedItem_more {first : Bool} {text rest : List Char}
    (h : nextItem first text = .ok (true, rest)) :
    ∃ behind, nextSkippedItem first text = .ok (true, behind) ∧ skipBlanks behind = rest ∧
      behind.length ≤ text.length := by
  have hle := length_skipBlanks_le text
  have hblank := skipBlanks_skipBlanks text
  unfold nextItem at h
  split at h
  · cases h
  · cases h
  · rename_i behind hcomma
    rw [hcomma] at hle hblank
    have hmore : nextSkippedItem first text
        = .ok (true, if first then ',' :: behind else behind) := by
      unfold nextSkippedItem
      rw [hcomma]
      rfl
    split at h
    · rename_i hfirst
      cases h
      exact ⟨_, by rw [hmore, if_pos hfirst], hblank, hle⟩
    · rename_i hfirst
      refine ⟨behind, by rw [hmore, if_neg hfirst], ?_, Nat.le_of_succ_le hle⟩
      split at h
      · cases h
      · cases h
      · exact (Prod.mk.inj (Except.ok.inj h)).2
  · rename_i behind hempty hend hcomma
    split at h
    · rename_i hfirst
      cases h
      refine ⟨skipBlanks text, ?_, hblank, hle⟩
      unfold nextSkippedItem
      split
      · exact absurd ‹_› hempty
      · exact absurd ‹_› (hend _)
      · exact absurd ‹_› (hcomma _)
      · rw [if_pos hfirst]
    · cases h

/-- The loop over items that are skipped goes where the loop that reads them goes. -/
theorem skipItems_passes {item : Reader Json} {skipper : Skipper} {limit : Nat}
    (hitem : ∀ text v rest, text.length ≤ limit → item text = .ok (v, rest) →
      PassesTo skipper text rest)
    (hblanks : ∀ text, skipper (skipBlanks text) = skipper text)
    (bound : List Char) {first : Bool} {text rest : List Char} {values : List Json}
    (hlimit : text.length ≤ limit) (h : items item bound first text = .ok (values, rest)) :
    PassesTo (skipItems skipper bound first) text rest := by
  induction bound generalizing first text values with
  | nil => cases h
  | cons c bound ih =>
      rcases items_round.1 h with ⟨hnext, -⟩ | ⟨_, v, behind, later, hnext, hread, hrest, -⟩
      · obtain ⟨hend, hle⟩ := nextSkippedItem_end hnext
        refine ⟨?_, hle⟩
        rw [skipItems, hend]
        rfl
      · -- The skipper stands in front of blanks that the reader has passed.
        obtain ⟨front', hmore, rfl, hfront⟩ := nextSkippedItem_more hnext
        have hshorter : (skipBlanks front').length ≤ text.length :=
          Nat.le_trans (length_skipBlanks_le front') hfront
        obtain ⟨hskip, hbehind⟩ := hitem _ _ _ (Nat.le_trans hshorter hlimit) hread
        have hlength : behind.length ≤ text.length := Nat.le_trans hbehind hshorter
        obtain ⟨hloop, hle⟩ := ih (Nat.le_trans hlength hlimit) hrest
        rw [hblanks] at hskip
        refine ⟨?_, Nat.le_trans hle hlength⟩
        rw [skipItems, hmore]
        change (skipper front' >>= _) = _
        rw [hskip]
        exact hloop

theorem skipKey_passes {text inside rest : List Char} {key : String}
    (hopen : skipBlanks text = '"' :: inside) (h : string inside = .ok (key, rest)) :
    PassesTo skipKey text rest := by
  have hle := length_skipBlanks_le text
  obtain ⟨hskip, hlength⟩ := skipString_passes h
  rw [hopen, List.length_cons] at hle
  refine ⟨?_, by omega⟩
  unfold skipKey
  rw [hopen]
  exact hskip

/-- Where the reader of members finds the end, so does the skipper. -/
theorem nextSkippedKey_end {first : Bool} {text rest : List Char}
    (h : nextKey first text = .ok (none, rest)) :
    nextSkippedKey first text = .ok (false, rest) ∧ rest.length ≤ text.length := by
  have hle := length_skipBlanks_le text
  -- A key that is read is no end.
  have hsome : ∀ inside : List Char, ((string inside >>= fun read =>
      Except.ok (some read.1, read.2) : Except Failure (Option String × List Char)))
        ≠ .ok (none, rest) := by
    intro inside h
    rcases bind_eq_ok.1 h with ⟨_, -, h⟩
    cases h
  unfold nextKey at h
  split at h
  · cases h
  · rename_i behind hclose
    cases h
    rw [hclose] at hle
    unfold nextSkippedKey
    rw [hclose]
    exact ⟨rfl, Nat.le_of_succ_le hle⟩
  · split at h
    · cases h
    · split at h
      · cases h
      · cases h
      · exact absurd h (hsome _)
      · cases h
  · split at h
    · exact absurd h (hsome _)
    · cases h
  · cases h

/-- Where the reader of members finds a key, so does the skipper. -/
theorem nextSkippedKey_more {first : Bool} {text rest : List Char} {key : String}
    (h : nextKey first text = .ok (some key, rest)) :
    nextSkippedKey first text = .ok (true, rest) ∧ rest.length ≤ text.length := by
  have hle := length_skipBlanks_le text
  have hblank := skipBlanks_skipBlanks text
  unfold nextKey at h
  split at h
  · cases h
  · cases h
  · rename_i behind hcomma
    rw [hcomma] at hle
    split at h
    · cases h
    · rename_i hfirst
      split at h
      · cases h
      · cases h
      · rename_i inside hopen
        simp only [bind_eq_ok, Prod.exists] at h
        rcases h with ⟨key', rest', hkey, h⟩
        cases h
        obtain ⟨hskip, hlength⟩ := skipKey_passes hopen hkey
        refine ⟨?_, Nat.le_trans hlength (Nat.le_of_succ_le hle)⟩
        unfold nextSkippedKey
        rw [hcomma]
        simp only [if_neg hfirst]
        change (skipKey behind >>= _) = _
        rw [hskip]
        rfl
      · cases h
  · rename_i inside hopen
    rw [hopen] at hle hblank
    split at h
    · rename_i hfirst
      simp only [bind_eq_ok, Prod.exists] at h
      rcases h with ⟨key', rest', hkey, h⟩
      cases h
      obtain ⟨hskip, hlength⟩ := skipKey_passes hblank hkey
      refine ⟨?_, Nat.le_trans hlength hle⟩
      unfold nextSkippedKey
      rw [hopen]
      simp only [if_pos hfirst]
      change (skipKey ('"' :: inside) >>= _) = _
      rw [hskip]
      rfl
    · cases h
  · cases h

theorem length_colon_le {text rest : List Char} (h : colon text = .ok rest) :
    rest.length ≤ text.length := by
  have hle := length_skipBlanks_le text
  unfold colon at h
  split at h
  · cases h
  · rename_i behind hcolon
    cases h
    rw [hcolon] at hle
    exact Nat.le_of_succ_le hle
  · cases h

/-- The loop over members that are skipped goes where the loop that reads them
    goes. -/
theorem skipMembers_passes {item : Reader Json} {skipper : Skipper} {limit : Nat}
    (hitem : ∀ text v rest, text.length ≤ limit → item text = .ok (v, rest) →
      PassesTo skipper text rest)
    (bound : List Char) {first : Bool} {text rest : List Char}
    {entries entries' : List (String × Json)}
    (hlimit : text.length ≤ limit)
    (h : members (member item) bound first entries text = .ok (entries', rest)) :
    PassesTo (skipMembers skipper bound first) text rest := by
  induction bound generalizing first text entries with
  | nil => cases h
  | cons c bound ih =>
      rcases members_round.1 h with ⟨hnext, -⟩ | ⟨key, front, _, behind, hnext, hmember, hrest⟩
      · obtain ⟨hend, hle⟩ := nextSkippedKey_end hnext
        refine ⟨?_, hle⟩
        rw [skipMembers, hend]
        rfl
      · simp only [member, bind_eq_ok, Prod.exists] at hmember
        rcases hmember with ⟨inside, hcolon, v, _, hread, hmember⟩
        cases hmember
        obtain ⟨hmore, hfront⟩ := nextSkippedKey_more hnext
        have hshorter : inside.length ≤ text.length :=
          Nat.le_trans (length_colon_le hcolon) hfront
        obtain ⟨hskip, hbehind⟩ := hitem _ _ _ (Nat.le_trans hshorter hlimit) hread
        have hlength : behind.length ≤ text.length := Nat.le_trans hbehind hshorter
        obtain ⟨hloop, hle⟩ := ih (Nat.le_trans hlength hlimit) hrest
        refine ⟨?_, Nat.le_trans hle hlength⟩
        rw [skipMembers, hmore]
        change (colon front >>= _) = _
        rw [hcolon]
        change (skipper inside >>= _) = _
        rw [hskip]
        exact hloop

/-! ### Values -/

theorem skipValue_skipBlanks (bound text : List Char) :
    skipValue bound (skipBlanks text) = skipValue bound text := by
  cases bound <;> simp only [skipValue, skipBlanks_skipBlanks]

/-- A value is skipped if the arrays and objects at its top are. -/
theorem node_passes {array object : Reader Json} {bound text rest : List Char} {b : Char} {v : Json}
    (hbound : text.length ≤ bound.length + 1)
    (harray : ∀ inside, inside.length ≤ bound.length → array inside = .ok (v, rest) →
      PassesTo (skipItems (skipValue bound) inside true) inside rest)
    (hobject : ∀ inside, inside.length ≤ bound.length → object inside = .ok (v, rest) →
      PassesTo (skipMembers (skipValue bound) inside true) inside rest)
    (h : node array object text = .ok (v, rest)) : PassesTo (skipValue (b :: bound)) text rest := by
  have hle := length_skipBlanks_le text
  unfold node at h
  split at h
  · rename_i inside hopen
    rw [hopen, List.length_cons] at hle
    obtain ⟨hskip, hlength⟩ := harray inside (by omega) h
    refine ⟨?_, by omega⟩
    rw [skipValue, hopen]
    exact hskip
  · rename_i inside hopen
    rw [hopen, List.length_cons] at hle
    obtain ⟨hskip, hlength⟩ := hobject inside (by omega) h
    refine ⟨?_, by omega⟩
    rw [skipValue, hopen]
    exact hskip
  · rename_i hbracket hbrace
    obtain ⟨hskip, hlength⟩ := skipScalar_passes h
    refine ⟨?_, Nat.le_trans hlength hle⟩
    rw [skipValue]
    split
    · exact absurd ‹_› (hbracket _)
    · exact absurd ‹_› (hbrace _)
    · exact hskip

/-- A value that is read can be skipped with a bound that is as long as the text. -/
theorem skipValue_passes {depth : Nat} {bound text rest : List Char} {v : Json}
    (hbound : text.length ≤ bound.length) (h : value depth text = .ok (v, rest)) :
    PassesTo (skipValue bound) text rest := by
  induction depth generalizing bound text rest v with
  | zero =>
      rcases bound with _ | ⟨b, bound⟩
      · rw [List.length_nil, Nat.le_zero, List.length_eq_zero_iff] at hbound
        subst hbound
        cases h
      · refine node_passes hbound (fun _ _ hdeep => ?_) (fun _ _ hdeep => ?_) h
        · cases hdeep
        · cases hdeep
  | succ depth ih =>
      rcases bound with _ | ⟨b, bound⟩
      · rw [List.length_nil, Nat.le_zero, List.length_eq_zero_iff] at hbound
        subst hbound
        cases h
      · -- A bracket takes one from the text, so the shorter bound is long enough inside.
        refine node_passes hbound (fun inside hinside h => ?_) (fun inside hinside h => ?_) h
        · simp only [array, bind_eq_ok, Prod.exists] at h
          rcases h with ⟨values, _, hvalues, h⟩
          cases h
          exact skipItems_passes (fun _ _ _ => ih) (skipValue_skipBlanks bound) inside hinside
            hvalues
        · simp only [objectOf, bind_eq_ok, Prod.exists] at h
          rcases h with ⟨entries, _, hentries, h⟩
          cases h
          exact skipMembers_passes (fun _ _ _ => ih) inside hinside hentries

/-- A value that is read can be skipped, and both end at the same place. -/
theorem skip_of_value {depth : Nat} {text rest : List Char} {v : Json}
    (h : value depth text = .ok (v, rest)) : skip text = .ok rest :=
  (skipValue_passes (Nat.le_refl _) h).1

end Json

end TableClient
