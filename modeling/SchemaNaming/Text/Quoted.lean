import SchemaNaming.Text.Invisible
import SchemaNaming.Text.Unassigned

namespace SchemaNaming

/-!
# Quoted text

A text between quotes, with everything that is not printable written as an escape, so that the
written form is one visible line.

* `CodePoint.isPrintable` — what may stand for itself;
* `Text.quoted` — the written form.

Single quotes are used, and double quotes only for a text that holds a single quote and no double
one.  Escapes have lower case hexadecimal digits: two, four or eight, as few as suffice.
-/

namespace CodePoint

/-- The space, and every assigned code point that is neither a control, a format character, a
    separator nor a surrogate. -/
def isPrintable (c : CodePoint) : Bool :=
  if c.val < 0x80 then 0x20 ≤ c.val && c.val < 0x7F
  else !c.isInvisible && !c.isUnassigned

/-- The number of a code point in at least `width` hexadecimal digits. -/
def hex (width : Nat) (c : CodePoint) : Text :=
  let digits := Nat.toDigits 16 c.val
  (List.replicate (width - digits.length) '0' ++ digits).map ofChar

/-- The escape of a code point by its number. -/
def numericEscape (c : CodePoint) : Text :=
  if c.val ≤ 0xFF then "\\x" ++ c.hex 2
  else if c.val ≤ 0xFFFF then "\\u" ++ c.hex 4
  else "\\U" ++ c.hex 8

/-- The written form of a code point between two `quote`s. -/
def escaped (quote c : CodePoint) : Text :=
  if c = quote ∨ c = ofChar '\\' then [ofChar '\\', c]
  else if c = ofChar '\n' then "\\n"
  else if c = ofChar '\r' then "\\r"
  else if c = ofChar '\t' then "\\t"
  else if c.isPrintable then [c]
  else c.numericEscape

end CodePoint

namespace Text

/-- The apostrophe, or the double quote for a text that holds an apostrophe and no double quote. -/
def quoteMark (t : Text) : CodePoint :=
  if CodePoint.ofChar '\x27' ∈ t ∧ CodePoint.ofChar '"' ∉ t then .ofChar '"' else .ofChar '\x27'

/-- The written form of a text. -/
def quoted (t : Text) : Text :=
  t.quoteMark :: t.flatMap (CodePoint.escaped t.quoteMark) ++ [t.quoteMark]

end Text

end SchemaNaming
