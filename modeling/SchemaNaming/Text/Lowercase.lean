import SchemaNaming.Text.Casing

namespace SchemaNaming

/-!
# Lower-casing

The full lower case of a text.  It is the lower case of each code point by itself, with two
exceptions: capital I with a dot becomes two code points, and capital sigma has another form at
the end of a word.

* `Text.finalSigma` — a sigma at this place ends its word;
* `Text.lower` — the lower case of a text.
-/

namespace CodePoint

/-- Greek capital sigma. -/
def capitalSigma : CodePoint := ofChar 'Σ'

/-- Greek small sigma inside a word. -/
def smallSigma : CodePoint := ofChar 'σ'

/-- Greek small sigma at the end of a word. -/
def smallFinalSigma : CodePoint := ofChar 'ς'

/-- Latin capital I with a dot above. -/
def capitalDottedI : CodePoint := ofChar 'İ'

/-- The dot above, as a mark of its own. -/
def combiningDot : CodePoint := ofChar '\u0307'

end CodePoint

namespace Text

/-- The next code point that is not case-ignorable is a cased letter. -/
def casedNext (t : Text) : Bool :=
  match t.dropWhile CodePoint.isCaseIgnorable with
  | [] => false
  | c :: _ => c.isCased

/-- A sigma ends its word when a cased letter comes before it and none after it.  The text before
    it is given backwards, nearest code point first. -/
def finalSigma (before after : Text) : Bool := before.casedNext && !after.casedNext

/-- The lower case of `c` where `before` and `after` stand around it. -/
def lowerAt (before : Text) (c : CodePoint) (after : Text) : Text :=
  -- only the sigma looks at its neighbours
  if c = .capitalSigma then
    [if finalSigma before after then .smallFinalSigma else .smallSigma]
  else if c = .capitalDottedI then [.ofChar 'i', .combiningDot]
  else [c.simpleLower]

/-- The lower case of a text that follows `before`, which is given backwards. -/
def lowerFrom (before : Text) : Text → Text
  | [] => []
  | c :: after => lowerAt before c after ++ lowerFrom (c :: before) after

/-- The lower case of a text. -/
def lower (t : Text) : Text := lowerFrom [] t

@[simp] theorem lower_nil : lower [] = [] := rfl

end Text

end SchemaNaming
