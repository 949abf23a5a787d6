import Mathlib.Data.List.Basic
import TableClient.Url.Path

/-!
# Segments in Percent-Encoding

What a text becomes as a segment of an address, and what it can be read from.

Every byte that means something in an address is escaped, and so is the percent
sign. So a segment that was encoded holds nothing but characters that mean
themselves and percent signs, and undoing the escapes gives the bytes back:
`decodeBytes_encode`.

A dot means itself and is not escaped. In a path it may be escaped all the same,
but no text has an escaped dot in its segment: undone, it would be a dot of the
text. What is left as segments of dots are those of the texts of dots.

## Main definitions

* `Unreserved`, `Literal`: The characters that mean themselves everywhere, and the
  texts of such characters.

## Theorems

* `encodeWith_eq_self`: A text with nothing to escape stays as it is.
* `mem_encode`, `not_mem_marks`: The characters of an encoded text.
* `decodeBytes_encode`: Encoding is undone by decoding.
* `isDot_encode_iff`, `isDoubleDot_encode_iff`: The texts whose segments are dots.
-/

namespace TableClient

namespace Url

/-- The letters and digits of ASCII, and four marks. -/
def Unreserved (c : Char) : Prop :=
  c.isAlphanum = true ∨ c ∈ ['-', '_', '.', '~']

instance (c : Char) : Decidable (Unreserved c) :=
  inferInstanceAs (Decidable (_ ∨ _))

/-- A text of characters that mean themselves. -/
def Literal (text : List Char) : Prop :=
  ∀ c ∈ text, Unreserved c

instance (text : List Char) : Decidable (Literal text) :=
  List.decidableBAll Unreserved text

theorem isUnreserved_iff {b : UInt8} : isUnreserved b = true ↔ Unreserved (Char.ofNat b.toNat) := by
  simp [isUnreserved, Unreserved, or_assoc]

/-- The characters that mean themselves are visible ones of ASCII. -/
theorem Unreserved.bounds {c : Char} (h : Unreserved c) : 0x20 < c.toNat ∧ c.toNat < 0x7F := by
  rcases h with halnum | hmark
  · change ((decide (65 ≤ c.val ∧ c.val ≤ 90)
      || (decide (97 ≤ c.val) && decide (c.val ≤ 122)))
      || (decide (48 ≤ c.val) && decide (c.val ≤ 57))) = true at halnum
    simp only [Bool.or_eq_true, Bool.and_eq_true, decide_eq_true_eq,
      UInt32.le_iff_toNat_le] at halnum
    change ((65 ≤ c.toNat ∧ c.toNat ≤ 90) ∨ (97 ≤ c.toNat ∧ c.toNat ≤ 122))
      ∨ (48 ≤ c.toNat ∧ c.toNat ≤ 57) at halnum
    omega
  · simp only [List.mem_cons, List.not_mem_nil, or_false] at hmark
    rcases hmark with rfl | rfl | rfl | rfl <;> decide

/-! ### Bytes of ASCII -/

/-- A character of ASCII is one byte. -/
theorem utf8EncodeChar_of_lt {c : Char} (h : c.toNat < 0x80) :
    String.utf8EncodeChar c = [UInt8.ofNat c.toNat] := by
  have hsize : c.utf8Size = 1 :=
    Char.utf8Size_eq_one_iff.2 (UInt32.le_iff_toNat_le.2 (Nat.le_of_lt_succ h))
  rw [String.utf8EncodeChar_eq_singleton hsize]
  rfl

theorem ofNat_toNat_of_lt {c : Char} (h : c.toNat < 0x80) :
    Char.ofNat (UInt8.ofNat c.toNat).toNat = c := by
  have hbyte : c.toNat < UInt8.size := Nat.lt_trans h (by decide)
  rw [UInt8.toNat_ofNat_of_lt' hbyte, Char.ofNat_toNat]

/-- The character of a byte has the number of the byte. -/
theorem toNat_ofNat_byte (b : UInt8) : (Char.ofNat b.toNat).toNat = b.toNat := by
  have hbyte : b.toNat < 256 := b.toNat_lt
  rw [Char.ofNat, dif_pos (Or.inl (by omega))]
  rfl

/-- A text with nothing to escape stays as it is. -/
theorem encodeWith_eq_self {kept : UInt8 → Bool} {text : List Char}
    (h : ∀ c ∈ text, c.toNat < 0x80 ∧ kept (UInt8.ofNat c.toNat) = true) :
    encodeWith kept (Text.utf8 text) = text := by
  induction text with
  | nil => rfl
  | cons c rest ih =>
      obtain ⟨⟨hbyte, hkept⟩, hrest⟩ := List.forall_mem_cons.1 h
      have htail := ih hrest
      unfold encodeWith at htail ⊢
      rw [Text.utf8_cons, utf8EncodeChar_of_lt hbyte, List.singleton_append, List.flatMap_cons,
        if_pos hkept, ofNat_toNat_of_lt hbyte, htail, List.singleton_append]

/-! ### Undoing escapes -/

/-- The two digits of a byte read back. -/
theorem decodeBytes_escapeByte (b : UInt8) (rest : List Char) :
    decodeBytes (escapeByte b ++ rest) = b :: decodeBytes rest := by
  have hbyte : b.toNat < 256 := b.toNat_lt
  have hhigh := Text.hexValue?_hexDigitUpper (n := b.toNat / 16) (by omega)
  have hlow := Text.hexValue?_hexDigitUpper (n := b.toNat % 16) (by omega)
  have hvalue : 16 * (b.toNat / 16) + b.toNat % 16 = b.toNat := by omega
  simp only [escapeByte, List.cons_append, List.nil_append, decodeBytes, hhigh, hlow, hvalue,
    UInt8.ofNat_toNat]

/-- A character that is no percent sign stands for its own bytes. -/
theorem decodeBytes_cons {c : Char} (h : c ≠ '%') (rest : List Char) :
    decodeBytes (c :: rest) = String.utf8EncodeChar c ++ decodeBytes rest := by
  rw [decodeBytes]
  intro high low behind hc
  exact absurd hc h

/-- Encoding is undone by decoding. -/
theorem decodeBytes_encodeWith (bytes : List UInt8) :
    decodeBytes (encodeWith isUnreserved bytes) = bytes := by
  induction bytes with
  | nil => rfl
  | cons b rest ih =>
      unfold encodeWith at ih ⊢
      rw [List.flatMap_cons]
      by_cases hkept : isUnreserved b = true
      · -- What is kept is ASCII and no percent sign, so it is a byte of its own.
        have hmeans := isUnreserved_iff.1 hkept
        have hascii : (Char.ofNat b.toNat).toNat < 0x80 := by
          have hvisible := hmeans.bounds
          omega
        have hpercent : Char.ofNat b.toNat ≠ '%' := by
          intro heq
          exact absurd (heq ▸ hmeans) (by decide)
        rw [if_pos hkept, List.singleton_append, decodeBytes_cons hpercent,
          utf8EncodeChar_of_lt hascii, toNat_ofNat_byte, UInt8.ofNat_toNat, ih,
          List.singleton_append]
      · rw [if_neg hkept, decodeBytes_escapeByte, ih]

/-- The bytes of an encoded text are those of the text. -/
theorem decodeBytes_encode (text : String) :
    decodeBytes (encode text).toList = Text.utf8 text.toList := by
  rw [encode, String.toList_ofList, decodeBytes_encodeWith]

/-! ### Encoded texts -/

theorem unreserved_hexDigitUpper {n : Nat} (h : n < 16) : Unreserved (Text.hexDigitUpper n) := by
  revert n
  decide

/-- An encoded text is made of characters that mean themselves and percent
    signs. -/
theorem mem_encode {text : String} {c : Char} (h : c ∈ (encode text).toList) :
    Unreserved c ∨ c = '%' := by
  rw [encode, String.toList_ofList] at h
  obtain ⟨b, -, hc⟩ := List.mem_flatMap.1 h
  have hbyte : b.toNat < 256 := b.toNat_lt
  by_cases hkept : isUnreserved b = true
  · rw [if_pos hkept, List.mem_singleton] at hc
    exact .inl (hc ▸ isUnreserved_iff.1 hkept)
  · rw [if_neg hkept, escapeByte] at hc
    simp only [List.mem_cons, List.not_mem_nil, or_false] at hc
    rcases hc with rfl | rfl | rfl
    · exact .inr rfl
    · exact .inl (unreserved_hexDigitUpper (by omega))
    · exact .inl (unreserved_hexDigitUpper (by omega))

/-- The characters of an encoded text are visible ones of ASCII. -/
theorem visible_of_mem_encode {text : String} {c : Char} (h : c ∈ (encode text).toList) :
    0x20 < c.toNat ∧ c.toNat < 0x7F := by
  rcases mem_encode h with hmeans | rfl
  · exact hmeans.bounds
  · decide

/-- Nothing that has another meaning in an address is in an encoded text. -/
theorem not_mem_marks {marks : List Char}
    (hmarks : (marks.all fun d => !decide (Unreserved d) && d != '%') = true) {text : String}
    {c : Char} (h : c ∈ (encode text).toList) : c ∉ marks := by
  intro hmark
  have hmeaning := List.all_eq_true.1 hmarks c hmark
  simp only [Bool.and_eq_true, Bool.not_eq_true', decide_eq_false_iff_not, bne_iff_ne] at hmeaning
  exact (mem_encode h).elim hmeaning.1 hmeaning.2

/-- A text of characters that mean themselves is its own segment. -/
theorem encode_eq_self {text : String} (h : Literal text.toList) :
    encode text = text := by
  have hkept : ∀ c ∈ text.toList, c.toNat < 0x80 ∧ isUnreserved (UInt8.ofNat c.toNat) = true := by
    intro c hc
    have hascii : c.toNat < 0x80 := by
      have hvisible := (h c hc).bounds
      omega
    refine ⟨hascii, isUnreserved_iff.2 ?_⟩
    rw [ofNat_toNat_of_lt hascii]
    exact h c hc
  rw [encode, encodeWith_eq_self hkept, String.ofList_toList]

/-- An encoded text needs no further escapes in a path. -/
theorem encodeSegment_encode (text : String) :
    encodeSegment (encode text).toList = (encode text).toList := by
  refine encodeWith_eq_self fun c hc => ?_
  have hvisible := visible_of_mem_encode hc
  have hbyte : (UInt8.ofNat c.toNat).toNat = c.toNat :=
    UInt8.toNat_ofNat_of_lt' (Nat.lt_trans hvisible.2 (by decide))
  have hmark : c ∉ " \"<>`#?\x7b\x7d".toList := not_mem_marks (by decide) hc
  refine ⟨by omega, ?_⟩
  rw [plainExcept, isPlainByte, ofNat_toNat_of_lt (by omega)]
  simp only [Bool.and_eq_true, decide_eq_true_eq, Bool.not_eq_true', List.contains_eq_mem,
    decide_eq_false_iff_not]
  refine ⟨⟨?_, ?_⟩, hmark⟩
  · rw [UInt8.le_iff_toNat_le, hbyte]
    exact Nat.le_of_lt hvisible.1
  · rw [UInt8.lt_iff_toNat_lt, hbyte]
    exact hvisible.2

/-- A text of characters that mean themselves needs none at all. -/
theorem encodeSegment_of_literal {text : String} (h : Literal text.toList) :
    encodeSegment text.toList = text.toList := by
  have hencoded := encodeSegment_encode text
  rwa [encode_eq_self h] at hencoded

/-! ### Dots -/

/-- What counts as dots alone stands for the bytes of these dots. -/
theorem decodeBytes_of_dots {segment : List Char} (h : ∀ c ∈ plainDots segment, c = '.') :
    decodeBytes segment = Text.utf8 (plainDots segment) := by
  induction segment using plainDots.induct with
  | case1 rest ih =>
      have hdot : decodeBytes ('%' :: '2' :: 'e' :: rest) = 0x2E :: decodeBytes rest := rfl
      rw [plainDots] at h ⊢
      rw [hdot, ih (List.forall_mem_cons.1 h).2]
      rfl
  | case2 rest ih =>
      have hdot : decodeBytes ('%' :: '2' :: 'E' :: rest) = 0x2E :: decodeBytes rest := rfl
      rw [plainDots] at h ⊢
      rw [hdot, ih (List.forall_mem_cons.1 h).2]
      rfl
  | case3 c rest hsmall hlarge ih =>
      rw [plainDots.eq_3 c rest hsmall hlarge] at h ⊢
      obtain ⟨rfl, hrest⟩ := List.forall_mem_cons.1 h
      rw [decodeBytes_cons (by decide), ih hrest, Text.utf8_cons]
  | case4 => rfl

/-- A segment without percent signs has no escaped dots. -/
theorem plainDots_eq_self {segment : List Char} (h : '%' ∉ segment) :
    plainDots segment = segment := by
  induction segment with
  | nil => rfl
  | cons c rest ih =>
      obtain ⟨hc, hrest⟩ := not_or.1 (mt List.mem_cons.2 h)
      rw [plainDots.eq_3 c rest (fun _ heq => absurd heq.symm hc) fun _ heq => absurd heq.symm hc,
        ih hrest]

/-- The texts whose segments count as dots are the texts of dots. -/
theorem plainDots_encode_iff {text dots : String} (hdots : ∀ c ∈ dots.toList, c = '.') :
    plainDots (encode text).toList = dots.toList ↔ text = dots := by
  constructor
  · intro h
    have hshape : ∀ c ∈ plainDots (encode text).toList, c = '.' := by
      rw [h]
      exact hdots
    have hbytes : Text.utf8 text.toList = Text.utf8 dots.toList := by
      rw [← decodeBytes_encode, decodeBytes_of_dots hshape, h]
    have hread := congrArg Text.ofUtf8? hbytes
    rwa [Text.ofUtf8?_utf8, Text.ofUtf8?_utf8, Option.some.injEq] at hread
  · rintro rfl
    have hkept : Literal text.toList := by
      intro c hc
      rw [hdots c hc]
      decide
    rw [encode_eq_self hkept, plainDots_eq_self]
    intro hpercent
    exact absurd (hdots '%' hpercent) (by decide)

theorem isDot_encode_iff {text : String} : isDot (encode text).toList = true ↔ text = "." := by
  have hdots : ∀ c ∈ ".".toList, c = '.' := by simp
  rw [isDot, beq_iff_eq, ← plainDots_encode_iff hdots]
  rfl

theorem isDoubleDot_encode_iff {text : String} :
    isDoubleDot (encode text).toList = true ↔ text = ".." := by
  have hdots : ∀ c ∈ "..".toList, c = '.' := by simp
  rw [isDoubleDot, beq_iff_eq, ← plainDots_encode_iff hdots]
  rfl

end Url

end TableClient
