import SchemaNaming.Text.Basic

namespace SchemaNaming

/-!
# ASCII letters and digits

The classes of ASCII characters that labels are made of, and the two maps between upper and lower
case letters.  Every other code point is left alone by both maps.
-/

namespace CodePoint

/-- The letters `A` to `Z`. -/
def isAsciiUpper (c : CodePoint) : Bool := 0x41 ≤ c.val && c.val ≤ 0x5A

/-- The letters `a` to `z`. -/
def isAsciiLower (c : CodePoint) : Bool := 0x61 ≤ c.val && c.val ≤ 0x7A

/-- The letters `A` to `Z` and `a` to `z`. -/
def isAsciiLetter (c : CodePoint) : Bool := c.isAsciiUpper || c.isAsciiLower

/-- The digits `0` to `9`. -/
def isAsciiDigit (c : CodePoint) : Bool := 0x30 ≤ c.val && c.val ≤ 0x39

/-- Code points from `0x80` up, which take several bytes in UTF-8. -/
def isExtended (c : CodePoint) : Bool := 0x80 ≤ c.val

/-- The upper case of an ASCII letter; other code points stay as they are. -/
def toAsciiUpper (c : CodePoint) : CodePoint :=
  if c.isAsciiLower then ⟨c.val - 0x20, by have := c.lt; omega⟩ else c

/-- The lower case of an ASCII letter; other code points stay as they are. -/
def toAsciiLower (c : CodePoint) : CodePoint :=
  if h : c.isAsciiUpper then
    ⟨c.val + 0x20, by simp [isAsciiUpper] at h; omega⟩
  else c

end CodePoint

namespace Text

/-- The text with its first character in upper case, if that is an ASCII letter. -/
def capitalize : Text → Text
  | [] => []
  | c :: rest => c.toAsciiUpper :: rest

/-- The text with its ASCII letters in lower case: two texts have the same fold exactly when they
    differ in the case of ASCII letters only. -/
def asciiFold (t : Text) : Text := t.map CodePoint.toAsciiLower

end Text

end SchemaNaming
