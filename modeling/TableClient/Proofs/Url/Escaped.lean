import TableClient.Proofs.Url.Percent

/-!
# The Form of an Encoded Segment

Which texts are segments that were encoded, and what each of them stands for.

An encoded segment is made of characters that mean themselves and of escapes: a
percent sign and the two digits of a byte, in upper case. A byte that could stand
as itself is never escaped. `Escaped` says so without the encoder, and the encoder
writes such texts only.

Undoing the escapes of such a text and encoding the bytes again gives the text back,
so there is one escaped text for any bytes. The texts that were encoded are thus all
the escaped ones whose bytes are those of a text, and each of them is known from
that text.

## Main definitions

* `Escaped`: The form of an encoded segment.

## Theorems

* `escaped_encode`: What is encoded has the form.
* `encodeWith_decodeBytes`: A text of this form is the encoding of its bytes.
* `ofUtf8?_decodeBytes_encode`: The text is read back from its segment.
* `eq_encode_iff`: The segment of a text is known from its form and its reading.
-/

namespace TableClient

namespace Url

/-- Characters that mean themselves, and escapes of bytes that do not. -/
inductive Escaped : List Char → Prop where
  | nil : Escaped []
  | keep {c : Char} {rest : List Char} (hmeans : Unreserved c) (hrest : Escaped rest) :
    Escaped (c :: rest)
  | escape {high low : Nat} {rest : List Char} (hhigh : high < 16) (hlow : low < 16)
    (hhidden : ¬Unreserved (Char.ofNat (16 * high + low))) (hrest : Escaped rest) :
    Escaped ('%' :: Text.hexDigitUpper high :: Text.hexDigitUpper low :: rest)

/-- Whatever the bytes, what they are encoded to has the form. -/
theorem escaped_encodeWith (bytes : List UInt8) : Escaped (encodeWith isUnreserved bytes) := by
  induction bytes with
  | nil => exact .nil
  | cons b rest ih =>
      have hbyte : b.toNat < 256 := b.toNat_lt
      unfold encodeWith at ih ⊢
      rw [List.flatMap_cons]
      by_cases hkept : isUnreserved b = true
      · rw [if_pos hkept]
        exact .keep (isUnreserved_iff.1 hkept) ih
      · have hvalue : 16 * (b.toNat / 16) + b.toNat % 16 = b.toNat := by omega
        rw [if_neg hkept]
        exact .escape (by omega) (by omega) (by rwa [hvalue, ← isUnreserved_iff]) ih

/-- The segment of a text has the form. -/
theorem escaped_encode (text : String) : Escaped (encode text).toList := by
  rw [encode, String.toList_ofList]
  exact escaped_encodeWith _

/-- Two digits make a byte. -/
theorem toNat_ofNat_digits {high low : Nat} (hhigh : high < 16) (hlow : low < 16) :
    (UInt8.ofNat (16 * high + low)).toNat = 16 * high + low := by
  have hsize : UInt8.size = 256 := rfl
  exact UInt8.toNat_ofNat_of_lt' (by omega)

/-- An escape with two digits is that of the byte they make. -/
theorem escapeByte_ofNat {high low : Nat} (hhigh : high < 16) (hlow : low < 16) :
    escapeByte (UInt8.ofNat (16 * high + low))
      = ['%', Text.hexDigitUpper high, Text.hexDigitUpper low] := by
  have hdiv : (16 * high + low) / 16 = high := by omega
  have hmod : (16 * high + low) % 16 = low := by omega
  rw [escapeByte, toNat_ofNat_digits hhigh hlow, hdiv, hmod]

/-- A text of this form is what its bytes are encoded to. -/
theorem encodeWith_decodeBytes {segment : List Char} (h : Escaped segment) :
    encodeWith isUnreserved (decodeBytes segment) = segment := by
  induction h with
  | nil => rfl
  | @keep c rest hmeans _ ih =>
      have hascii : c.toNat < 0x80 := by
        have hvisible := hmeans.bounds
        omega
      have hpercent : c ≠ '%' := by
        rintro rfl
        exact absurd hmeans (by decide)
      have hkept : isUnreserved (UInt8.ofNat c.toNat) = true := by
        rw [isUnreserved_iff, ofNat_toNat_of_lt hascii]
        exact hmeans
      unfold encodeWith at ih ⊢
      rw [decodeBytes_cons hpercent, utf8EncodeChar_of_lt hascii, List.singleton_append,
        List.flatMap_cons, if_pos hkept, ofNat_toNat_of_lt hascii, ih, List.singleton_append]
  | @escape high low rest hhigh hlow hhidden _ ih =>
      have hescape := escapeByte_ofNat hhigh hlow
      have hnot : ¬isUnreserved (UInt8.ofNat (16 * high + low)) = true := by
        rw [isUnreserved_iff, toNat_ofNat_digits hhigh hlow]
        exact hhidden
      have hread := decodeBytes_escapeByte (UInt8.ofNat (16 * high + low)) rest
      rw [hescape] at hread
      simp only [List.cons_append, List.nil_append] at hread
      unfold encodeWith at ih ⊢
      rw [hread, List.flatMap_cons, if_neg hnot, hescape, ih]
      rfl

/-- A text is read back from its segment. -/
theorem ofUtf8?_decodeBytes_encode (text : String) :
    Text.ofUtf8? (decodeBytes (encode text).toList) = some text := by
  rw [decodeBytes_encode, Text.ofUtf8?_utf8]

/-- The segment of a text is the one escaped text from which the text is read
    back. -/
theorem eq_encode_iff {segment text : String} :
    segment = encode text ↔
      Escaped segment.toList ∧ Text.ofUtf8? (decodeBytes segment.toList) = some text := by
  constructor
  · rintro rfl
    exact ⟨escaped_encode text, ofUtf8?_decodeBytes_encode text⟩
  · rintro ⟨hform, hread⟩
    have hbytes : decodeBytes segment.toList = Text.utf8 text.toList :=
      (Text.utf8_of_ofUtf8? hread).symm
    rw [encode, ← hbytes, encodeWith_decodeBytes hform, String.ofList_toList]

/-- Different texts have different segments. -/
theorem encode_inj {first second : String} : encode first = encode second ↔ first = second := by
  refine ⟨fun h => ?_, fun h => by rw [h]⟩
  have hread := ofUtf8?_decodeBytes_encode second
  rw [← h, ofUtf8?_decodeBytes_encode] at hread
  exact Option.some.inj hread

end Url

end TableClient
