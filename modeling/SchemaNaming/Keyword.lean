import SchemaNaming.Text.Lowercase

namespace SchemaNaming

/-!
# Keywords

The words that PHP reserves.  They are recognised in any mixture of upper and lower case.
-/

/-- The reserved words in ascending order. -/
def keywordSpellings : List String :=
  ["__halt_compiler", "abstract", "and", "array", "as", "break", "callable", "case", "catch",
    "class", "clone", "const", "continue", "declare", "default", "die", "do", "echo", "else",
    "elseif", "empty", "enddeclare", "endfor", "endforeach", "endif", "endswitch", "endwhile",
    "eval", "exit", "extends", "final", "finally", "float", "for", "foreach", "function",
    "global", "goto", "if", "implements", "include", "include_once", "instanceof", "insteadof",
    "int", "interface", "isset", "list", "namespace", "new", "or", "parent", "print", "private",
    "protected", "public", "require", "require_once", "return", "static", "string", "switch",
    "throw", "trait", "try", "unset", "use", "var", "while", "xor", "yield"]

/-- The reserved words as texts. -/
def keywords : List Text := keywordSpellings.map Text.ofString

/-- The lower case of the text is a reserved word. -/
def Text.isKeyword (t : Text) : Bool := keywords.contains t.lower

end SchemaNaming
