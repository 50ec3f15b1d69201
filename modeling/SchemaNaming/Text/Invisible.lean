import SchemaNaming.Text.Ranges

namespace SchemaNaming

/-!
# Invisible characters

A code point beyond ASCII is invisible when its Unicode 14 general category is control, format,
surrogate, or one of the separators (space, line, paragraph): no-break spaces, zero-width
characters, byte order marks and their like.

* `CodePoint.isInvisible` — the class;
* `Text.stripInvisible` — a text without its invisible characters.
-/

/-- Code points from `0x80` up of the categories Cc, Cf, Cs, Zs, Zl and Zp. -/
def invisibleRanges : List (Nat × Nat) :=
  [(0x80, 0xA0), (0xAD, 0xAD), (0x600, 0x605), (0x61C, 0x61C), (0x6DD, 0x6DD), (0x70F, 0x70F),
    (0x890, 0x891), (0x8E2, 0x8E2), (0x1680, 0x1680), (0x180E, 0x180E), (0x2000, 0x200F),
    (0x2028, 0x202F), (0x205F, 0x2064), (0x2066, 0x206F), (0x3000, 0x3000), (0xD800, 0xDFFF),
    (0xFEFF, 0xFEFF), (0xFFF9, 0xFFFB), (0x110BD, 0x110BD), (0x110CD, 0x110CD), (0x13430, 0x13438),
    (0x1BCA0, 0x1BCA3), (0x1D173, 0x1D17A), (0xE0001, 0xE0001), (0xE0020, 0xE007F)]

/-- Controls, format characters, separators and surrogates beyond ASCII. -/
def CodePoint.isInvisible (c : CodePoint) : Bool := c.inRanges invisibleRanges

/-- Drops the invisible characters of a text. -/
def Text.stripInvisible (t : Text) : Text := t.filter fun c => !c.isInvisible

/-- What is left of a text are its visible characters. -/
@[simp] theorem Text.mem_stripInvisible (c : CodePoint) (t : Text) :
    c ∈ t.stripInvisible ↔ c ∈ t ∧ c.isInvisible = false := by
  simp [stripInvisible]

@[simp] theorem Text.stripInvisible_append (t u : Text) :
    stripInvisible (t ++ u) = t.stripInvisible ++ u.stripInvisible :=
  List.filter_append t u

end SchemaNaming
