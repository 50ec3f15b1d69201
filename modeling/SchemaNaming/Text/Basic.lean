namespace SchemaNaming

/-!
# Text

Text is a list of Unicode code points.  Surrogates are allowed, because names read from a schema
may hold half of a surrogate pair; a `String` cannot hold one.

* `CodePoint` — a number below `0x110000`;
* `Text` — a list of code points, to which strings and characters are coerced;
* `Text.toString?` — the string of a text that holds no surrogate;
* `Text.ofNat`, `Text.ofInt` — decimal numerals, which may have any number of digits.
-/

/-- A Unicode code point, surrogates included. -/
@[ext] structure CodePoint where
  val : Nat
  lt : val < 0x110000
deriving DecidableEq

/-- A sequence of code points. -/
abbrev Text := List CodePoint

namespace CodePoint

/-- The code point of a character. -/
def ofChar (c : Char) : CodePoint where
  val := c.toNat
  lt := by
    have h : c.toNat < 0xD800 ∨ 0xDFFF < c.toNat ∧ c.toNat < 0x110000 := c.valid
    omega

instance : Coe Char CodePoint := ⟨ofChar⟩

/-- A character keeps its number. -/
theorem val_ofChar (c : Char) : (ofChar c).val = c.toNat := rfl

/-- Surrogates are reserved for pairs in a 16-bit encoding and stand for no character. -/
def isSurrogate (c : CodePoint) : Bool := 0xD800 ≤ c.val && c.val ≤ 0xDFFF

/-- The character of a code point that is no surrogate. -/
def toChar? (c : CodePoint) : Option Char :=
  if c.isSurrogate then none else some (Char.ofNat c.val)

/-- No character is a surrogate. -/
theorem isSurrogate_ofChar (c : Char) : (ofChar c).isSurrogate = false := by
  have h : c.toNat < 0xD800 ∨ 0xDFFF < c.toNat ∧ c.toNat < 0x110000 := c.valid
  have e := val_ofChar c
  simp only [isSurrogate, Bool.and_eq_false_iff, decide_eq_false_iff_not]
  omega

/-- A character is read back from its code point. -/
@[simp] theorem toChar?_ofChar (c : Char) : (ofChar c).toChar? = some c := by
  simp [toChar?, isSurrogate_ofChar, val_ofChar]

end CodePoint

namespace Text

/-- The code points of a string. -/
def ofString (s : String) : Text := s.toList.map CodePoint.ofChar

instance : Coe String Text := ⟨ofString⟩

/-- The string that a text spells, unless it holds a surrogate. -/
def toString? (t : Text) : Option String := (t.mapM CodePoint.toChar?).map String.ofList

/-- The text of a string spells that string again. -/
theorem toString?_ofString (s : String) : (ofString s).toString? = some s := by
  have h : ∀ l : List Char, (l.map CodePoint.ofChar).mapM CodePoint.toChar? = some l := by
    intro l
    induction l with
    | nil => rfl
    | cons c l ih => simp [List.mapM_cons, CodePoint.toChar?_ofChar, ih]
  simp [toString?, ofString, h]

/-- The decimal numeral of a natural number. -/
def ofNat (n : Nat) : Text := ofString n.repr

/-- A numeral has a digit. -/
theorem ofNat_ne_nil (n : Nat) : ofNat n ≠ [] := by
  unfold ofNat ofString
  rw [Ne, List.map_eq_nil_iff, Nat.toList_repr]
  exact Nat.toDigits_ne_nil

/-- The decimal numeral of an integer, with a minus sign if it is negative. -/
def ofInt : Int → Text
  | .ofNat n => ofNat n
  | .negSucc n => CodePoint.ofChar '-' :: ofNat (n + 1)

end Text

end SchemaNaming
