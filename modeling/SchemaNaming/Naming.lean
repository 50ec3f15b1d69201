import SchemaNaming.Candidate
import SchemaNaming.SchemaType

namespace SchemaNaming

/-!
# Giving names

Each category of names has its own way to stay clear of keywords and of names that are taken.

* a class name is the first candidate that is neither a keyword nor taken;
* the name of an operation or a constant gets the prefix if it is a keyword;
* the name of an attribute may be a keyword;
* the name of a type is built in, or names an array, or gets the suffix if it is a keyword.

* `Act.name` — gives the name for a value, by category;
* `Act.uniqueName` — gives the first candidate that is not taken;
* `Act.observed` — what can be seen of an act that gives a name;
* `Settings.name`, `uniqueName` — what is seen of these acts.
-/

/-- A name as it is known from outside its namespace. -/
def qualify (scope : Option Text) (name : Text) : Text :=
  match scope with
  | none | some [] => name
  | some scope => scope ++ "\\" ++ name

/-- The walk for a class: keywords are passed over, and the qualified name is asked about. -/
def Settings.classWalk (s : Settings) (base : Text) (scope : Option Text) (o : Occupancy) :
    Walk where
  toOccupancy := o
  base
  suffix := s.nameSuffix
  reserved := Text.isKeyword
  asks := qualify scope

/-- The walk for a unique name: no candidate is reserved, and each is asked about as it is. -/
def uniqueWalk (base : Text) (suffix : Option Text) (o : Occupancy) : Walk where
  toOccupancy := o
  base
  suffix := suffix.getD []

namespace Act

/-- Gives the first candidate for a name that is not taken. -/
def uniqueName (base : Text) (suffix : Option Text) (o : Occupancy) : Act Text :=
  (uniqueWalk base suffix o).firstFree

/-- Gives the name of a class in a namespace. -/
def className (raw : RawValue) (scope : Option Text) (o : Occupancy) (log : Option String) :
    Act Text := do
  let base ← normalize raw
  let name ← ((← settings).classWalk base scope o).firstFree
  report "类名" base name log
  return name

/-- Gives the prefix and the capitalized name if it is a keyword, and the name itself otherwise. -/
def keywordLed (kind : Text) (raw : RawValue) (log : Option String) : Act Text := do
  let name ← normalize raw
  if name.isKeyword then
    let renamed := (← settings).namePrefix ++ name.capitalize
    report kind name renamed log
    return renamed
  else return name

/-- Gives the name of an operation. -/
def operationName (raw : RawValue) (log : Option String) : Act Text := keywordLed "方法名" raw log

/-- Gives the name of a constant. -/
def constantName (raw : RawValue) (log : Option String) : Act Text := keywordLed "常量名" raw log

/-- Gives the name of an attribute. -/
def attributeName (raw : RawValue) : Act Text := normalize raw

/-- Gives the name of a type that is neither an array nor built in. -/
def generatedTypeName (t : Text) (log : Option String) : Act Text := do
  let name ← normalize (.text t)
  if name.isKeyword then
    let renamed := name ++ (← settings).nameSuffix
    report "类型" t renamed log
    return renamed
  else return name

/-- Gives the name of a type. -/
def typeName (raw : RawValue) (log : Option String) : Act Text :=
  let t := raw.toText
  match t.arrayElement?, t.builtinType? with
  | some element, _ => do
    -- the element may be a keyword: built-in types are legal elements
    return (← normalize (.text element)) ++ arrayMark
  | none, some builtin => return builtin
  | none, none => generatedTypeName t log

/-- Gives the name for a value.  Only classes have a namespace and stay clear of taken names, and
    only attributes are never reported. -/
def name (category : Category) (raw : RawValue) (scope : Option Text) (o : Occupancy)
    (log : Option String) : Act Text :=
  match category with
  | .className => className raw scope o log
  | .operationName => operationName raw log
  | .attributeName => attributeName raw
  | .constantName => constantName raw log
  | .typeName => typeName raw log

/-- Gives the name of the category that `tag` chooses. -/
def nameAs (tag raw : RawValue) (scope : Option Text) (o : Occupancy) (log : Option String) :
    Act Text := do
  name (← category tag) raw scope o log

end Act

/-! ### What is seen of an act -/

/-- A name that is given, and the rename that is reported with it. -/
structure Named extends Found where
  rename : Option Rename := none
deriving DecidableEq

/-- What is seen of an act that gives a name and may report it to a log. -/
def Act.observed (act : Option String → Act Text) (s : Settings) : Except Refusal Named :=
  -- the act is given a log of its own, from which the rename can be read
  match (act (some "")).run { session := { settings := s } } with
  | .ok name scene => .ok
      { name
        asked := scene.asked.reverse
        tried := scene.passed + 1
        rename := (scene.session.log "").pending.head? }
  | .error refusal _ => .error refusal

/-- The first candidate for a name that is not taken. -/
def uniqueName (base : Text) (suffix : Option Text) (o : Occupancy) : Except Refusal Named :=
  Act.observed (fun _ => Act.uniqueName base suffix o) {}

namespace Settings

variable (s : Settings)

/-- The name of a class in a namespace. -/
def className (raw : RawValue) (scope : Option Text) (o : Occupancy) : Except Refusal Named :=
  Act.observed (Act.className raw scope o) s

/-- The name of an operation or a constant. -/
def keywordLed (kind : Text) (raw : RawValue) : Except Refusal Named :=
  Act.observed (Act.keywordLed kind raw) s

/-- The name of an operation. -/
def operationName (raw : RawValue) : Except Refusal Named :=
  Act.observed (Act.operationName raw) s

/-- The name of a constant. -/
def constantName (raw : RawValue) : Except Refusal Named :=
  Act.observed (Act.constantName raw) s

/-- The name of an attribute. -/
def attributeName (raw : RawValue) : Except Refusal Named :=
  Act.observed (fun _ => Act.attributeName raw) s

/-- The name of a type that is neither an array nor built in. -/
def generatedTypeName (t : Text) : Except Refusal Named :=
  Act.observed (Act.generatedTypeName t) s

/-- The name of a type. -/
def typeName (raw : RawValue) : Except Refusal Named := Act.observed (Act.typeName raw) s

/-- The name for a value. -/
def name (category : Category) (raw : RawValue) (scope : Option Text := none)
    (o : Occupancy := .free) : Except Refusal Named :=
  Act.observed (Act.name category raw scope o) s

end Settings

end SchemaNaming
