import SchemaNaming.Proofs.Lowercase
import SchemaNaming.SchemaType

namespace SchemaNaming

/-!
# Types by their names

What the name of a type tells: whether it is an array, and of what, and which built-in type it is,
if it is one.  The table of built-in types has ASCII names only, so they are found by the fold of
ASCII letters and the Kelvin sign.

* `Text.arrayElement?_eq_some_iff`, `Text.arrayElement?_eq_none_iff` — arrays end in the mark;
* `builtinTypes_entry` — the facts about the table on which all others rest;
* `Text.builtinType?_eq_lookup_kelvinFold` — built-in types by the fold of their names.
-/

/-! ### Arrays -/

namespace Text

variable {t : Text}

/-- An array is written as its element type, with the mark behind it. -/
theorem arrayElement?_eq_some_iff (element : Text) :
    t.arrayElement? = some element ↔ t = element ++ arrayMark := by
  unfold arrayElement?
  split
  next hmark =>
    obtain ⟨front, rfl⟩ := List.isSuffixOf_iff_suffix.mp hmark
    have hlength : (front ++ arrayMark).length - arrayMark.length = front.length := by simp
    rw [hlength, List.take_left, Option.some.injEq, List.append_cancel_right_eq]
  next hmark =>
    constructor
    · exact nofun
    · rintro rfl
      exact absurd (List.isSuffixOf_iff_suffix.mpr (List.suffix_append element arrayMark)) hmark

/-- Only a text with the mark at its end is an array. -/
theorem arrayElement?_eq_none_iff : t.arrayElement? = none ↔ ¬ arrayMark <:+ t := by
  rw [arrayElement?, ← List.isSuffixOf_iff_suffix]
  split
  next hmark => exact ⟨nofun, fun hno => absurd hmark hno⟩
  next hmark => exact ⟨fun _ => hmark, fun _ => rfl⟩

end Text

/-! ### Built-in types -/

/-- The types that schema types are rendered as. -/
def builtinNames : List Text := ["int", "float", "string", dateTimeType]

/-- The type of dates is a rendered type. -/
theorem dateTimeType_mem_builtinNames : dateTimeType ∈ builtinNames := by simp [builtinNames]

/-- The names in the table are ASCII texts without a dash, and what they become is one of the types
    that are rendered. -/
theorem builtinTypes_entry : ∀ e ∈ builtinTypes,
    (∀ c ∈ e.1, c.isExtended = false) ∧ CodePoint.ofChar '-' ∉ e.1 ∧ e.2 ∈ builtinNames := by
  decide +kernel

namespace Text

variable {t : Text}

/-- **Built-in types by their fold.**  A type is looked up under its lower case, but it comes to the
    same to fold its ASCII letters and Kelvin signs: no other character is lowered into the table. -/
theorem builtinType?_eq_lookup_kelvinFold (t : Text) :
    t.builtinType? = builtinTypes.lookup t.kelvinFold := by
  have hlookup : ∀ table : List (Text × Text),
      (∀ e ∈ table, ∀ c ∈ e.1, c.isExtended = false) →
        table.lookup t.lower = table.lookup t.kelvinFold := by
    intro table
    induction table with
    | nil => exact fun _ => rfl
    | cons e table ih =>
      intro hascii
      rw [List.forall_mem_cons] at hascii
      obtain ⟨k, b⟩ := e
      have hkey : (t.lower == k) = (t.kelvinFold == k) := by
        rw [Bool.eq_iff_iff, beq_iff_eq, beq_iff_eq]
        exact lower_eq_iff_kelvinFold_eq hascii.1
      rw [List.lookup_cons, List.lookup_cons, hkey, ih hascii.2]
  exact hlookup builtinTypes fun e he => (builtinTypes_entry e he).1

/-- A type that is built in stands in the table under its fold. -/
theorem mem_builtinTypes_of_builtinType? {b : Text} (h : t.builtinType? = some b) :
    (t.kelvinFold, b) ∈ builtinTypes := by
  rw [builtinType?_eq_lookup_kelvinFold] at h
  obtain ⟨before, after, htable, _⟩ := List.lookup_eq_some_iff.mp h
  rw [htable]
  exact List.mem_append_right before List.mem_cons_self

/-- What a text is looked up as is a rendered type. -/
theorem mem_builtinNames_of_builtinType? {b : Text} (h : t.builtinType? = some b) :
    b ∈ builtinNames :=
  (builtinTypes_entry _ (mem_builtinTypes_of_builtinType? h)).2.2

/-- No built-in type has a dash in its name. -/
theorem builtinType?_eq_none_of_dash (h : CodePoint.ofChar '-' ∈ t) : t.builtinType? = none := by
  rw [Option.eq_none_iff_forall_ne_some]
  intro b hb
  have hdash : CodePoint.ofChar '-' ∈ t.kelvinFold := List.mem_map.mpr ⟨.ofChar '-', h, by decide⟩
  exact (builtinTypes_entry _ (mem_builtinTypes_of_builtinType? hb)).2.1 hdash

end Text

end SchemaNaming
