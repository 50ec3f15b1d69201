import SchemaNaming.Decimal.Notation
import SchemaNaming.Text.Quoted

namespace SchemaNaming

/-!
# Raw values

A value as a schema reader hands it over where a name is expected.  Mostly it is a text; a reader
that guesses types may also deliver nothing, a truth value or a number.  Of any other value nothing
counts but its text and its written form, so these two stand for the value.

* `RawValue.toText` — the text that is taken for the name;
* `RawValue.quoted` — the form that tells a text from the other values.

Every value has a text here.  In particular an integer is written out however many digits it has.
-/

/-- A value that stands where a name is expected. -/
inductive RawValue where
  | text (t : Text)
  | absent
  | bool (b : Bool)
  | int (n : Int)
  | float (x : Float)
  /-- Any other value, by its text and its written form. -/
  | other (t written : Text)
deriving DecidableEq

namespace RawValue

instance : Coe Text RawValue := ⟨text⟩

/-- The text of a value. -/
def toText : RawValue → Text
  | .text t => t
  | .absent => "None"
  | .bool true => "True"
  | .bool false => "False"
  | .int n => Text.ofInt n
  | .float x => Text.ofFloat x
  | .other t _ => t

/-- The written form of a value: a text is put in quotes. -/
def quoted : RawValue → Text
  | .text t => t.quoted
  | .other _ written => written
  | v => v.toText

end RawValue

end SchemaNaming
