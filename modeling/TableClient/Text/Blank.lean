/-!
# Blank Text

White space in the sense of the Unicode property `White_Space`, and texts
that hold nothing else.

The property has twenty-five members. It is wider than the blanks of ASCII:
the no-break space, the line and paragraph separators and the ideographic
space belong to it, while the zero-width space and the byte order mark do not.

## Main definitions

* `isBlank`: Membership in the property.
* `trim`: A text without the blanks at its two ends.
* `isBlankText`: A text of blanks only.
-/

namespace TableClient

namespace Text

/-- The characters with the property `White_Space`. -/
def isBlank (c : Char) : Bool :=
  let n := c.toNat
  (0x09 ≤ n && n ≤ 0x0D) || n == 0x20 || n == 0x85 || n == 0xA0 || n == 0x1680 ||
    (0x2000 ≤ n && n ≤ 0x200A) || n == 0x2028 || n == 0x2029 || n == 0x202F ||
    n == 0x205F || n == 0x3000

/-- A text without the blanks it starts and ends with. -/
def trim (text : String) : String :=
  let front := text.toList.dropWhile isBlank
  .ofList (front.reverse.dropWhile isBlank).reverse

/-- A text that is empty once its blanks are trimmed. -/
def isBlankText (text : String) : Bool :=
  text.toList.all isBlank

end Text

end TableClient
