import SchemaNaming.Category
import SchemaNaming.NormalForm
import SchemaNaming.Session.State

namespace SchemaNaming

/-!
# Acts

A name is given in steps: a value is brought into its normal form, questions about taken names are
asked, a rename is logged or printed, and on the way a step may find a reason to refuse.  What was
done before a refusal stays done.

* `Scene` — what the steps work on: a session, and what is noticed outside of it;
* `Act` — steps that are taken one after the other until they answer or refuse;
* `Act.normalize`, `Act.category`, `Act.isTaken`, `Act.report`, `Act.declare` — the single steps.
-/

/-- A session with what was noticed outside of it since an act began. -/
structure Scene where
  session : Session
  /-- The messages that were printed, in order. -/
  printed : List Message := []
  /-- The names that were asked about, latest first. -/
  asked : List Text := []
  /-- How many candidates were passed over. -/
  passed : Nat := 0

/-- Steps that change the scene, and give an answer or refuse it. -/
abbrev Act := EStateM Refusal Scene

namespace Act

/-- The settings of the session. -/
def settings : Act Settings := return (← get).session.settings

/-- The normal form of a value. -/
def normalize (raw : RawValue) : Act Text := do
  ofExcept (raw.normalize (← settings).namePrefix)

/-- The category that a value chooses by its label. -/
def category (tag : RawValue) : Act Category := ofExcept (Category.ofRawValue tag)

/-- Asks whether a name is taken, if there is somebody to ask. -/
def isTaken (o : Occupancy) (name : Text) : Act Bool := do
  match o.answer? with
  | none => return false
  | some answer =>
    let asked := (← get).asked
    modify fun scene => { scene with asked := name :: asked }
    return answer asked name

/-- Passes over a candidate. -/
def passOver : Act Unit := modify fun scene => { scene with passed := scene.passed + 1 }

/-- Adds a rename to the log with an id. -/
def record (id : String) (r : Rename) : Act Unit :=
  modify fun scene =>
    { scene with session := scene.session.setLog id ((scene.session.log id).record r) }

/-- Prints a message, on a stream that takes every code point: this step refuses nothing. -/
def print (m : Message) : Act Unit :=
  modify fun scene => { scene with printed := scene.printed ++ [m] }

/-- Reports that something got another name, unless both names are the same: to the log if there is
    one, and otherwise to the user if warnings are on. -/
def report (kind before after : Text) (log : Option String) : Act Unit := do
  match Rename.ofChange? kind before after, log with
  | none, _ => return
  | some r, some id => record id r
  | some r, none => if (← settings).warnOnRename then print (.warning r.message)

/-- Declares a name in the registry that was asked, if it was one. -/
def declare (occupied : Occupied) (name : Text) : Act Unit :=
  modify fun scene => { scene with session := scene.session.declareIn occupied name }

end Act

end SchemaNaming
