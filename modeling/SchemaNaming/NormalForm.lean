import SchemaNaming.Identifier
import SchemaNaming.Refusal
import SchemaNaming.Text.Accent

namespace SchemaNaming

/-!
# The normal form of a name

Every name is first brought into a form that is an identifier, keywords allowed.

* `Text.led` — the text with a leading prefix if it does not start like an ASCII label;
* `Text.cleaned` — the longest visible label that is left when characters are dropped, first at the
  start and then everywhere;
* `Text.normalForm` — accents removed, led, cleaned;
* `RawValue.normalize` — the normal form of a value, refused if it is empty.
-/

namespace Text

/-- The text starts with an ASCII letter or an underscore. -/
def startsPlain : Text → Bool
  | [] => false
  | c :: _ => c.isPlainStart

/-- Puts a prefix before a text that does not start with an ASCII letter or an underscore. -/
def led (t namePrefix : Text) : Text :=
  if t.startsPlain then t else namePrefix ++ t.capitalize

/-- Drops invisible characters, then everything before the first start of a label, then everything
    else that a label cannot hold. -/
def cleaned (t : Text) : Text :=
  (t.stripInvisible.dropWhile fun c => !c.isLabelStart).filter CodePoint.isLabelChar

/-- The normal form of a text; it may be empty. -/
def normalForm (t namePrefix : Text) : Text := (t.removeAccents.led namePrefix).cleaned

end Text

/-- The normal form of the text of a value. -/
def RawValue.normalize (raw : RawValue) (namePrefix : Text) : Except Refusal Text :=
  let name := raw.toText.normalForm namePrefix
  if name = [] then .error (.emptyIdentifier raw) else .ok name

/-- A value has the normal form of its text, if that is not empty. -/
theorem RawValue.normalize_eq_ok_iff (raw : RawValue) (namePrefix name : Text) :
    raw.normalize namePrefix = .ok name ↔
      raw.toText.normalForm namePrefix = name ∧ name ≠ [] := by
  simp only [normalize]
  split
  next h => exact ⟨nofun, fun ⟨e, hne⟩ => absurd (e.symm.trans h) hne⟩
  next h =>
    constructor
    · rintro ⟨⟩
      exact ⟨rfl, h⟩
    · rintro ⟨rfl, _⟩
      rfl

/-- A value is normalized as its text is. -/
theorem RawValue.normalize_text_toText {raw : RawValue} {namePrefix name : Text} :
    (RawValue.text raw.toText).normalize namePrefix = .ok name ↔
      raw.normalize namePrefix = .ok name := by
  rw [normalize_eq_ok_iff, normalize_eq_ok_iff]
  exact Iff.rfl

/-- Only an empty normal form is refused, and the refusal carries the value as it was given. -/
theorem RawValue.normalize_eq_error_iff (raw : RawValue) (namePrefix : Text) (r : Refusal) :
    raw.normalize namePrefix = .error r ↔
      raw.toText.normalForm namePrefix = [] ∧ r = .emptyIdentifier raw := by
  simp only [normalize]
  split
  next h => exact ⟨fun e => ⟨h, (Except.error.inj e).symm⟩, fun ⟨_, e⟩ => by rw [e]⟩
  next h => exact ⟨nofun, fun ⟨e, _⟩ => absurd e h⟩

end SchemaNaming
