import SchemaNaming.Message

namespace SchemaNaming

/-!
# Renames

A rename says that something got another name than it asked for.  Renames are printed, or kept in a
log until the log is flushed.

* `Rename` — what kind of thing was renamed, from what to what;
* `Rename.ofChange?` — a rename, unless both names are the same;
* `RenameLog` — the renames that wait to be printed, oldest first.
-/

/-- A change of name. -/
structure Rename where
  kind : Text
  /-- The name that was asked for. -/
  before : Text
  /-- The name that was given. -/
  after : Text
deriving DecidableEq

namespace Rename

/-- The report of a change of name, if the name did change. -/
def ofChange? (kind before after : Text) : Option Rename :=
  if before = after then none else some ⟨kind, before, after⟩

/-- The text that reports a rename. -/
def message (r : Rename) : Text :=
  r.kind ++ " '" ++ r.before ++ "' 与已有名称或关键字冲突，已改名为 '" ++ r.after ++ "'"

@[simp] theorem ofChange?_self (kind name : Text) : ofChange? kind name name = none :=
  if_pos rfl

/-- A name that did change is reported. -/
theorem ofChange?_of_ne (kind : Text) {before after : Text} (h : before ≠ after) :
    ofChange? kind before after = some ⟨kind, before, after⟩ :=
  if_neg h

/-- What is reported is a change from one name to another one. -/
theorem ofChange?_eq_some_iff (kind before after : Text) (r : Rename) :
    ofChange? kind before after = some r ↔ after ≠ before ∧ r = ⟨kind, before, after⟩ := by
  by_cases h : before = after
  · subst h
    simp
  · rw [ofChange?_of_ne kind h, Option.some.injEq]
    exact ⟨fun hr => ⟨Ne.symm h, hr.symm⟩, fun hr => hr.2.symm⟩

end Rename

/-- Renames that are not printed yet, oldest first. -/
structure RenameLog where
  pending : List Rename := []
deriving DecidableEq

namespace RenameLog

instance : Inhabited RenameLog := ⟨{}⟩

/-- The number of renames. -/
def size (log : RenameLog) : Nat := log.pending.length

/-- Adds a rename at the end. -/
def record (log : RenameLog) (r : Rename) : RenameLog := ⟨log.pending ++ [r]⟩

@[simp] theorem pending_record (log : RenameLog) (r : Rename) :
    (log.record r).pending = log.pending ++ [r] := rfl

@[simp] theorem size_record (log : RenameLog) (r : Rename) :
    (log.record r).size = log.size + 1 := by
  simp [size]

/-- The header that is printed when none is given. -/
def defaultHeader : Text := "----- Renamed -----"

/-- What a flush prints: a header and a warning for each rename, or nothing if there is none.  An
    empty header counts as none given. -/
def messages (log : RenameLog) (header : Option Text) : List Message :=
  match log.pending with
  | [] => []
  | pending =>
    -- an empty header is no header
    let given := header.getD []
    .info (if given = [] then defaultHeader else given) :: pending.map (.warning ·.message)

/-- An empty log prints nothing. -/
theorem messages_eq_nil_iff (log : RenameLog) (header : Option Text) :
    log.messages header = [] ↔ log.size = 0 := by
  unfold messages size
  split
  next h => simp [h]
  next h => simpa using h

end RenameLog

end SchemaNaming
