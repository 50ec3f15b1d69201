import SchemaNaming.Keyword
import SchemaNaming.RawValue
import SchemaNaming.Text.Ascii

namespace SchemaNaming

/-!
# Labels and identifiers

A PHP label starts with a letter or an underscore and goes on with letters, digits and underscores.
Bytes from `0x80` up count as letters, and so does every code point beyond ASCII.  An identifier is
a label that can be read: none of its characters is invisible.

* `Text.isLabel` — the grammar of labels;
* `Text.isIdentifier` — a visible label, and no keyword unless keywords are allowed;
* `CodePoint.isIdentifierChar`, `CodePoint.isIdentifierStart` — what identifiers are made of.
-/

namespace CodePoint

/-- An ASCII letter or an underscore. -/
def isPlainStart (c : CodePoint) : Bool := c.isAsciiLetter || c == ofChar '_'

/-- A label may start with it: an ASCII letter, an underscore or a code point beyond ASCII. -/
def isLabelStart (c : CodePoint) : Bool := c.isPlainStart || c.isExtended

/-- A label may hold it: what may start one, or an ASCII digit. -/
def isLabelChar (c : CodePoint) : Bool := c.isLabelStart || c.isAsciiDigit

/-- A visible label character. -/
def isIdentifierChar (c : CodePoint) : Bool := c.isLabelChar && !c.isInvisible

/-- A visible start of a label. -/
def isIdentifierStart (c : CodePoint) : Bool := c.isLabelStart && !c.isInvisible

end CodePoint

namespace Text

/-- The grammar of labels. -/
def isLabel : Text → Bool
  | [] => false
  | c :: rest => c.isLabelStart && rest.all CodePoint.isLabelChar

/-- A label without invisible characters, which is no keyword unless `keywordsAllowed`. -/
def isIdentifier (t : Text) (keywordsAllowed : Bool := false) : Bool :=
  t.isLabel && !t.any CodePoint.isInvisible && (keywordsAllowed || !t.isKeyword)

end Text

/-- The value is a text that is an identifier; no other value is one. -/
def RawValue.isIdentifier (v : RawValue) (keywordsAllowed : Bool := false) : Bool :=
  match v with
  | .text t => t.isIdentifier keywordsAllowed
  | _ => false

end SchemaNaming
