import SchemaNaming.Text.Basic

namespace SchemaNaming

/-!
# Settings

What a user of the library may choose.
-/

/-- The settings of a naming session, with their defaults. -/
structure Settings where
  /-- Leads names that do not start like a label, and names of operations and constants that are
      keywords. -/
  namePrefix : Text := "a"
  /-- Ends class names that are taken, and names of types that are keywords. -/
  nameSuffix : Text := "Custom"
  /-- Renames that go to no log are printed. -/
  warnOnRename : Bool := true

/-- A change of some of the settings. -/
structure Settings.Change where
  namePrefix : Option Text := none
  nameSuffix : Option Text := none
  warnOnRename : Option Bool := none

/-- The settings after a change; what the change does not name stays. -/
def Settings.apply (s : Settings) (c : Settings.Change) : Settings where
  namePrefix := c.namePrefix.getD s.namePrefix
  nameSuffix := c.nameSuffix.getD s.nameSuffix
  warnOnRename := c.warnOnRename.getD s.warnOnRename

end SchemaNaming
