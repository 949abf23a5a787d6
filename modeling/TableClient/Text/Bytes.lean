/-!
# Bytes of a Text

A text as the bytes of its UTF-8 form, and back.

## Main definitions

* `utf8`: The bytes of a text.
* `ofUtf8?`: The text of some bytes, if they are the form of one.

## Theorems

* `utf8_cons`: The bytes of a text, character by character.
* `ofUtf8?_utf8`: The bytes of a text give the text back.
* `utf8_of_ofUtf8?`: A text that was found has the bytes it was found from.
* `ofUtf8?_eq_none_iff`: Bytes without a text are those of no text.
-/

namespace TableClient

namespace Text

/-- The bytes of a text in UTF-8. -/
def utf8 (text : List Char) : List UInt8 :=
  text.flatMap String.utf8EncodeChar

/-- The text whose bytes these are. -/
def ofUtf8? (bytes : List UInt8) : Option String :=
  String.fromUTF8? bytes.toByteArray

theorem utf8_cons (c : Char) (rest : List Char) :
    utf8 (c :: rest) = String.utf8EncodeChar c ++ utf8 rest :=
  List.flatMap_cons ..

theorem ofUtf8?_utf8 (text : String) : ofUtf8? (utf8 text.toList) = some text := by
  have hbytes : (utf8 text.toList).toByteArray = text.toByteArray := by
    rw [← String.utf8Encode_toList]
    rfl
  rw [ofUtf8?, hbytes, String.fromUTF8?, dif_pos text.isValidUTF8]
  exact congrArg some (String.toByteArray_inj.1 rfl)

theorem utf8_of_ofUtf8? {bytes : List UInt8} {text : String} (h : ofUtf8? bytes = some text) :
    utf8 text.toList = bytes := by
  rw [ofUtf8?, String.fromUTF8?] at h
  split at h
  · have hbytes : text.toList.utf8Encode = bytes.toByteArray := by
      rw [String.utf8Encode_toList, ← congrArg String.toByteArray (Option.some.inj h)]
      rfl
    have hlist := congrArg (fun array => array.data.toList) hbytes
    simpa [utf8, List.utf8Encode] using hlist
  · cases h

theorem ofUtf8?_eq_none_iff {bytes : List UInt8} :
    ofUtf8? bytes = none ↔ ∀ text : String, utf8 text.toList ≠ bytes := by
  constructor
  · intro h text hbytes
    rw [← hbytes, ofUtf8?_utf8] at h
    cases h
  · intro h
    cases hfound : ofUtf8? bytes with
    | none => rfl
    | some text => exact absurd (utf8_of_ofUtf8? hfound) (h text)

end Text

end TableClient
