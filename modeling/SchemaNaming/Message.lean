import SchemaNaming.Text.Basic

namespace SchemaNaming

/-!
# Messages

What is printed for the user: plain lines, and warnings in colour.  Messages are texts, and what
becomes of them is not looked at: they go to a stream that takes every code point, surrogates
included, so printing never fails.
-/

/-- A message for the user. -/
inductive Message where
  | info (t : Text)
  | warning (t : Text)
deriving DecidableEq

namespace Message

/-- The terminal sequence that switches to bright yellow. -/
def yellow : Text := "\x1b[93m"

/-- The terminal sequence that switches colours off. -/
def reset : Text := "\x1b[0m"

/-- The printed form of a message, with the end of its line. -/
def render : Message → Text
  | .info t => t ++ "\n"
  | .warning t => yellow ++ "[Warn] " ++ t ++ reset ++ "\n"

/-- The printed form of several messages. -/
def renderAll (messages : List Message) : Text := messages.flatMap render

@[simp] theorem renderAll_nil : renderAll [] = [] := rfl

@[simp] theorem renderAll_cons (m : Message) (messages : List Message) :
    renderAll (m :: messages) = m.render ++ renderAll messages := rfl

end Message

end SchemaNaming
