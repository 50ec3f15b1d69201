import SchemaNaming.Naming

namespace SchemaNaming

/-!
# Sessions

A session obeys one command after the other.

* `Command`, `Reply` — what a session is told, and what it answers;
* `Session.perform` — does an act, and replies with what came of it;
* `Session.call`, `Session.callAs` — gives a name, whatever is known to be taken;
* `Session.step`, `Session.run` — one command, and several.
-/

/-- A name that is asked for. -/
structure Request where
  raw : RawValue
  scope : Option Text := none
  occupied : Occupied := .nothing
  /-- The log that takes the rename; without one it is printed. -/
  log : Option String := none
  /-- The qualified name is declared in the registry that was asked. -/
  declares : Bool := false

/-- What a session can be told. -/
inductive Command where
  | configure (change : Settings.Change)
  | newLog (log : String)
  | record (log : String) (rename : Rename)
  | renames (log : String)
  | flush (log : String) (header : Option Text)
  | newRegistry (registry : String) (names : List Text) (caseSensitive : Bool)
  | setCaseSensitive (registry : String) (caseSensitive : Bool)
  | declare (registry : String) (name : Text)
  | isFree (registry : String) (name : Text)
  | contains (registry : String) (name : Text)
  | normalize (raw : RawValue)
  | name (category : Category) (request : Request)
  /-- A name of the category that `tag` chooses. -/
  | nameAs (tag : RawValue) (request : Request)
  | unique (base : Text) (suffix : Option Text) (occupied : Occupied)
  /-- Reports a rename, unless both names are the same. -/
  | report (rename : Rename) (log : Option String)
  | print (message : Message)

/-- The answer to a command that is obeyed. -/
inductive Answer where
  | done
  | text (t : Text)
  | bool (b : Bool)
  | count (n : Nat)
  | renames (l : List Rename)
deriving DecidableEq

/-- What a command brings about outside the state. -/
structure Reply where
  answer : Except Refusal Answer
  printed : List Message := []
  /-- The names that were asked about, in order. -/
  asked : List Text := []

namespace Session

variable (s : Session)

/-- Does an act.  What it has brought about by the time it answers or refuses stays. -/
def perform (act : Act Answer) : Session × Reply :=
  let reply (answer : Except Refusal Answer) (scene : Scene) : Session × Reply :=
    (scene.session, { answer, printed := scene.printed, asked := scene.asked.reverse })
  match act.run { session := s } with
  | .ok answer scene => reply (.ok answer) scene
  | .error refusal scene => reply (.error refusal) scene

/-- Gives a name that was asked for, and declares it if that was asked for, too. -/
def serve (request : Request) (act : Option String → Act Text) : Session × Reply :=
  s.perform do
    let name ← act request.log
    -- what is declared is the name that was asked about
    if request.declares then Act.declare request.occupied (qualify request.scope name)
    return .text name

/-- Asks for the name of a category, where `o` answers the questions about taken names. -/
def call (o : Occupancy) (category : Category) (request : Request) : Session × Reply :=
  s.serve request (Act.name category request.raw request.scope o)

/-- Asks for the name of the category that `tag` chooses. -/
def callAs (o : Occupancy) (tag : RawValue) (request : Request) : Session × Reply :=
  s.serve request (Act.nameAs tag request.raw request.scope o)

/-- Obeys a command. -/
def step : Command → Session × Reply
  | .configure change => ({ s with settings := s.settings.apply change }, { answer := .ok .done })
  | .newLog id => (s.setLog id {}, { answer := .ok .done })
  | .record id r => (s.setLog id ((s.log id).record r), { answer := .ok .done })
  | .renames id => (s, { answer := .ok (.renames (s.log id).pending) })
  | .flush id header =>
    (s.setLog id {},
      { answer := .ok (.count (s.log id).size), printed := (s.log id).messages header })
  | .newRegistry id names caseSensitive =>
    (s.setRegistry id (.ofList names caseSensitive), { answer := .ok .done })
  | .setCaseSensitive id caseSensitive =>
    (s.setRegistry id ((s.registry id).setCaseSensitive caseSensitive), { answer := .ok .done })
  | .declare id name =>
    (s.setRegistry id ((s.registry id).declare name), { answer := .ok (.text name) })
  | .isFree id name => (s, { answer := .ok (.bool ((s.registry id).isFree name)) })
  | .contains id name => (s, { answer := .ok (.bool ((s.registry id).contains name)) })
  | .normalize raw => s.perform do return .text (← Act.normalize raw)
  | .name category request => s.call (s.occupancy request.occupied) category request
  | .nameAs tag request => s.callAs (s.occupancy request.occupied) tag request
  | .unique base suffix occupied =>
    s.perform do return .text (← Act.uniqueName base suffix (s.occupancy occupied))
  | .report r log => s.perform do
    Act.report r.kind r.before r.after log
    return .done
  | .print message => (s, { answer := .ok .done, printed := [message] })

/-- Obeys several commands, and collects the replies. -/
def run (s : Session) : List Command → Session × List Reply
  | [] => (s, [])
  | c :: rest =>
    let next := s.step c
    let last := run next.1 rest
    (last.1, next.2 :: last.2)

end Session

end SchemaNaming
