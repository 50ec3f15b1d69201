import SchemaNaming.Occupancy
import SchemaNaming.Rename
import SchemaNaming.Settings
import SchemaNaming.Table

namespace SchemaNaming

/-!
# The state of a session

A session keeps the settings, the logs of renames and the registries of declared names.  An id that
was never created stands for an empty log or an empty registry.

* `Session` — the state, with what is declared and logged in it;
* `Session.log`, `Session.registry` — what an id stands for;
* `Session.occupancy` — which names a session knows to be taken.
-/

/-- The state of a session. -/
structure Session where
  settings : Settings := {}
  logs : Table RenameLog := {}
  registries : Table Registry := {}

/-- Where the names that are taken come from. -/
inductive Occupied where
  | nothing
  | names (taken : List Text)
  | first (count : Nat)
  | registry (id : String)
deriving DecidableEq

namespace Session

variable (s : Session)

/-- The log with an id. -/
def log (id : String) : RenameLog := (s.logs.get? id).getD default

/-- The registry with an id. -/
def registry (id : String) : Registry := (s.registries.get? id).getD default

/-- The session with another log at an id. -/
def setLog (id : String) (log : RenameLog) : Session := { s with logs := s.logs.insert id log }

/-- The session with another registry at an id. -/
def setRegistry (id : String) (registry : Registry) : Session :=
  { s with registries := s.registries.insert id registry }

section Frame

variable {id id' : String} {log : RenameLog} {registry : Registry}

@[simp] theorem log_setLog_self : (s.setLog id log).log id = log := by
  simp [Session.log, setLog]

/-- To change one log leaves the others as they are. -/
theorem log_setLog_of_ne (h : id' ≠ id) : (s.setLog id log).log id' = s.log id' := by
  simp [Session.log, setLog, Table.get?_insert_of_ne _ h]

@[simp] theorem settings_setLog : (s.setLog id log).settings = s.settings := rfl

@[simp] theorem registries_setLog : (s.setLog id log).registries = s.registries := rfl

@[simp] theorem registry_setRegistry_self : (s.setRegistry id registry).registry id = registry := by
  simp [Session.registry, setRegistry]

/-- To change one registry leaves the others as they are. -/
theorem registry_setRegistry_of_ne (h : id' ≠ id) :
    (s.setRegistry id registry).registry id' = s.registry id' := by
  simp [Session.registry, setRegistry, Table.get?_insert_of_ne _ h]

@[simp] theorem settings_setRegistry : (s.setRegistry id registry).settings = s.settings := rfl

@[simp] theorem logs_setRegistry : (s.setRegistry id registry).logs = s.logs := rfl

end Frame

/-- The names that are taken. -/
def occupancy : Occupied → Occupancy
  | .nothing => .free
  | .names taken => .ofList taken
  | .first count => .first count
  | .registry id => .ofRegistry (s.registry id)

/-- Declares a name in the registry that was asked, if it was one. -/
def declareIn : Occupied → Text → Session
  | .registry id, name => s.setRegistry id ((s.registry id).declare name)
  | _, _ => s

end Session

end SchemaNaming
