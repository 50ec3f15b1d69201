import SchemaNaming.Identifier

namespace SchemaNaming

/-!
# Types of a schema

Some types of a schema are written as built-in types, in any mixture of upper and lower case.  A
type whose name ends in `[]` is an array.

* `builtinTypes` — the types of a schema that are built in;
* `Text.builtinType?` — the built-in type of a name;
* `Text.arrayElement?` — the element type of an array type;
* `RawValue.typeHint?` — the hint that may stand before a parameter of the type.
-/

/-- The mark at the end of an array type. -/
def arrayMark : Text := "[]"

/-- The type of dates. -/
def dateTimeType : Text := "\\DateTime"

/-- The schema types that are built in, in ascending order, with the type they become. -/
def builtinTypeSpellings : List (String × String) :=
  [("<anyxml>", "string"), ("byte", "int"), ("datetime", "\\DateTime"), ("decimal", "float"),
    ("double", "float"), ("float", "float"), ("hexbinary", "string"), ("int", "int"),
    ("integer", "int"), ("long", "int"), ("negativeinteger", "int"),
    ("nonnegativeinteger", "int"), ("nonpositiveinteger", "int"), ("normalizedstring", "string"),
    ("positiveinteger", "int"), ("short", "int"), ("string", "string"), ("token", "string"),
    ("unsignedbyte", "int"), ("unsignedint", "int"), ("unsignedlong", "int"),
    ("unsignedshort", "int")]

/-- The table of built-in types, as texts. -/
def builtinTypes : List (Text × Text) := builtinTypeSpellings.map fun e => (↑e.1, ↑e.2)

namespace Text

/-- The built-in type for a schema type. -/
def builtinType? (t : Text) : Option Text := builtinTypes.lookup t.lower

/-- The element type of an array type, without the array mark. -/
def arrayElement? (t : Text) : Option Text :=
  if arrayMark.isSuffixOf t then some (t.take (t.length - arrayMark.length)) else none

/-- The hint for a parameter of a type: arrays and dates have one. -/
def typeHint? (t : Text) : Option Text :=
  -- the name of the date type itself is in no table, since it is no type of a schema
  if arrayMark.isSuffixOf t then some "array"
  else if t = dateTimeType ∨ t.builtinType? = some dateTimeType then some dateTimeType
  else none

end Text

/-- The hint for a parameter of a type; a value that is no text has none. -/
def RawValue.typeHint? : RawValue → Option Text
  | .text t => t.typeHint?
  | _ => none

end SchemaNaming
