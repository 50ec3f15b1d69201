import Mathlib.Data.List.Forall2
import SchemaNaming.Proofs.RenameReport

namespace SchemaNaming

/-!
# Histories of a log

Several commands write renames to a log, some of them only if the two names differ, and flushes take
the renames out again in batches.  Nothing is lost, doubled or put out of order on the way: at every
point of a run the batches, together with what is still pending, are what was written.

* `Session.written` — the renames that a run writes to a log;
* `Session.batches` — the batches that the flushes of a run take out of it;
* `Session.Flushed` — what a flush answers and prints when it takes out a batch;
* `Session.pending_step`, `Session.pending_run` — the balance of a log over a command and over a run;
* `Session.renames_conserved` — the balance of a log since it was created.
-/

namespace Command

/-- The log that a command works on, if it works on one. -/
def log? : Command → Option String
  | .newLog id | .record id _ | .renames id | .flush id _ => some id
  | .name _ request | .nameAs _ request => request.log
  | .report _ log => log
  | _ => none

/-- The rename that comes with a name, if the name is given and is not the one that was asked for. -/
def renameOf (outcome : Except Refusal Named) : Option Rename := outcome.toOption.bind (·.rename)

/-- The rename that a command has to report, wherever the report goes. -/
def report? (s : Session) : Command → Option Rename
  | .record _ r => some r
  | .report r _ => Rename.ofChange? r.kind r.before r.after
  | .name category request =>
    renameOf (s.settings.name category request.raw request.scope (s.occupancy request.occupied))
  | .nameAs tag request => (Category.ofRawValue tag).toOption.bind fun category =>
    renameOf (s.settings.name category request.raw request.scope (s.occupancy request.occupied))
  | _ => none

/-- What a command writes to a log. -/
def written (s : Session) (id : String) (c : Command) : List Rename :=
  if c.log? = some id then (c.report? s).toList else []

/-- The batch that a command takes out of a log, if it flushes the log. -/
def batches (s : Session) (id : String) : Command → List (List Rename)
  | .flush id' _ => if id' = id then [(s.log id).pending] else []
  | _ => []

/-- The header and the reply of a command that flushes a log. -/
def flushReply? (id : String) : Command × Reply → Option (Option Text × Reply)
  | (.flush id' header, reply) => if id' = id then some (header, reply) else none
  | _ => none

end Command

namespace Session

/-- What a run writes to a log, oldest rename first. -/
def written (s : Session) (id : String) : List Command → List Rename
  | [] => []
  | c :: rest => c.written s id ++ written (s.step c).1 id rest

/-- The batches that a run takes out of a log, oldest batch first. -/
def batches (s : Session) (id : String) : List Command → List (List Rename)
  | [] => []
  | c :: rest => c.batches s id ++ batches (s.step c).1 id rest

/-- The flushes of a log in a run, each with its header and the reply to it. -/
def flushReplies (s : Session) (id : String) (commands : List Command) :
    List (Option Text × Reply) :=
  (commands.zip (s.run commands).2).filterMap (Command.flushReply? id)

/-- The header over a batch: the one that is given, unless it is empty. -/
def shownHeader : Option Text → Text
  | none | some [] => RenameLog.defaultHeader
  | some header => header

/-- The reply to a flush that takes out a batch: its size is the answer, and it is printed with a
    warning for each rename under one header, or not at all if it is empty. -/
structure Flushed (header : Option Text) (batch : List Rename) (reply : Reply) : Prop where
  counted : reply.answer = .ok (.count batch.length)
  silent : batch = [] → reply.printed = []
  printed : batch ≠ [] →
    reply.printed = .info (shownHeader header) :: batch.map fun r => .warning r.message

variable (s : Session) {id : String}

/-! ### One command -/

/-- A rename goes to its own log only. -/
theorem log_logged_of_ne {log : Option String} (rename : Option Rename) (h : log ≠ some id) :
    (s.logged log rename).log id = s.log id := by
  rw [Session.log, Session.log, s.get?_logged_of_ne rename h]

/-- A report is pending in its own log, and in no other one. -/
theorem pending_logged (id : String) (log : Option String) (rename : Option Rename) :
    ((s.logged log rename).log id).pending =
      (s.log id).pending ++ if log = some id then rename.toList else [] := by
  by_cases h : log = some id
  · subst h
    rw [if_pos rfl, s.pending_logged_self]
  · rw [if_neg h, s.log_logged_of_ne rename h, List.append_nil]

/-- Giving a name writes its rename to the log of the request. -/
theorem pending_serve (id : String) {act : Option String → Act Text}
    {answer : Except Refusal Named} (hact : Act.GoesBy act s.settings answer) (request : Request) :
    ((s.serve request act).1.log id).pending = (s.log id).pending ++
      if request.log = some id then (Command.renameOf answer).toList else [] := by
  cases answer with
  | error r =>
    obtain ⟨_, _, hserve⟩ := serve_of_refused hact
    rw [hserve s s.follows_settings]
    simp [Command.renameOf, Except.toOption]
  | ok n =>
    have hlogs : (s.afterNaming request n).log id = (s.logged request.log n.rename).log id := by
      rw [Session.log, Session.log, s.logs_afterNaming]
    rw [serve_of_given hact s.follows_settings]
    show ((s.afterNaming request n).log id).pending = _
    rw [hlogs, s.pending_logged]
    rfl

/-- **Balance of a command.**  What was pending and what the command writes is what it takes out and
    what is pending then. -/
theorem pending_step (c : Command) (hc : c ≠ .newLog id) :
    (s.log id).pending ++ c.written s id =
      (c.batches s id).flatten ++ ((s.step c).1.log id).pending := by
  cases c with
  | newLog id' =>
    have hne : id ≠ id' := fun h => hc (by rw [h])
    show _ = _ ++ ((s.setLog id' {}).log id).pending
    simp [Command.written, Command.batches, Command.report?, s.log_setLog_of_ne hne]
  | record id' r =>
    show _ = _ ++ ((s.setLog id' _).log id).pending
    by_cases h : id' = id
    · subst h
      simp [Command.written, Command.batches, Command.report?, Command.log?]
    · simp [Command.written, Command.batches, Command.log?, h, s.log_setLog_of_ne (Ne.symm h)]
  | flush id' header =>
    show _ = _ ++ ((s.setLog id' {}).log id).pending
    by_cases h : id' = id
    · subst h
      simp [Command.written, Command.batches, Command.report?]
    · simp [Command.written, Command.batches, Command.log?, h, s.log_setLog_of_ne (Ne.symm h)]
  | name category request => exact (s.pending_serve id (s.goesBy_call _ category request) _).symm
  | nameAs tag request =>
    simp only [step, Command.written, Command.batches, Command.report?, Command.log?]
    cases htag : Category.ofRawValue tag with
    | error r =>
      -- what is no category is refused, with or without a log
      rw [callAs_of_error htag]
      show _ ++ (if request.log = some id then [] else []) = _
      rw [ite_self]
      exact List.append_nil _
    | ok category =>
      rw [callAs_of_ok htag]
      exact (s.pending_serve id (s.goesBy_call _ category request) _).symm
  | unique base suffix occupied =>
    -- a name of no category goes to no log
    have hact := Act.goesBy_uniqueName s.settings base suffix (s.occupancy occupied)
    exact (s.pending_serve id hact { raw := .text base, occupied }).symm
  | report r log =>
    rw [step_report]
    exact (s.pending_logged id log _).symm
  | normalize raw =>
    rw [step_normalize]
    exact List.append_nil _
  | renames id' =>
    simp [step, Command.written, Command.batches, Command.report?]
  | _ => exact List.append_nil _

/-- A command that does not work on a log writes nothing to it and leaves it as it is. -/
theorem log_step_of_log?_ne {c : Command} (h : c.log? ≠ some id) :
    c.written s id = [] ∧ (s.step c).1.log id = s.log id := by
  have hwritten : c.written s id = [] := if_neg h
  have hbatches : c.batches s id = [] := by
    cases c with
    | flush id' header => exact if_neg fun hid => h (congrArg some hid)
    | _ => rfl
  have hc : c ≠ .newLog id := by
    rintro rfl
    exact h rfl
  have hbalance := s.pending_step c hc
  rw [hwritten, hbatches, List.append_nil] at hbalance
  exact ⟨hwritten, congrArg RenameLog.mk hbalance.symm⟩

/-- A flush takes out what is pending and leaves nothing. -/
theorem flushed_step (id : String) (header : Option Text) :
    Flushed header (s.log id).pending (s.step (.flush id header)).2 ∧
      ((s.step (.flush id header)).1.log id).pending = [] := by
  have hempty : ((s.setLog id {}).log id).pending = [] := by rw [log_setLog_self]
  refine ⟨⟨rfl, fun hnone => ?_, fun hsome => ?_⟩, hempty⟩
  · show (s.log id).messages header = []
    rw [RenameLog.messages_eq_nil_iff, RenameLog.size, hnone, List.length_nil]
  · show (s.log id).messages header = _
    unfold RenameLog.messages shownHeader
    split
    next hnone => exact absurd hnone hsome
    next =>
      cases header with
      | none => rfl
      | some text => cases text <;> rfl

/-! ### Whole runs -/

/-- A run that goes on writes more behind what it has written. -/
theorem written_append (id : String) (commands later : List Command) :
    s.written id (commands ++ later) =
      s.written id commands ++ (s.run commands).1.written id later := by
  induction commands generalizing s with
  | nil => rfl
  | cons c rest ih =>
    show c.written s id ++ (s.step c).1.written id (rest ++ later) = _
    rw [ih (s.step c).1, ← List.append_assoc]
    rfl

/-- **Balance of a run.**  What was pending and what the run writes is what its flushes take out and
    what is pending then. -/
theorem pending_run {commands : List Command} (hkept : .newLog id ∉ commands) :
    (s.log id).pending ++ s.written id commands =
      (s.batches id commands).flatten ++ ((s.run commands).1.log id).pending := by
  induction commands generalizing s with
  | nil => exact List.append_nil _
  | cons c rest ih =>
    rw [List.mem_cons, not_or] at hkept
    show _ ++ (c.written s id ++ (s.step c).1.written id rest) =
      (c.batches s id ++ (s.step c).1.batches id rest).flatten ++
        (((s.step c).1.run rest).1.log id).pending
    rw [← List.append_assoc, s.pending_step c (Ne.symm hkept.1), List.append_assoc,
      ih (s.step c).1 hkept.2, List.flatten_append, List.append_assoc]

/-- The flushes of a run answer and print the batches that they take out, in order. -/
theorem flushed_run (id : String) (commands : List Command) :
    List.Forall₂ (fun flush batch => Flushed flush.1 batch flush.2)
      (s.flushReplies id commands) (s.batches id commands) := by
  induction commands generalizing s with
  | nil => exact .nil
  | cons c rest ih =>
    have hrest := ih (s.step c).1
    cases c with
    | flush id' header =>
      simp only [flushReplies, run, List.zip_cons_cons, List.filterMap_cons,
        Command.flushReply?, batches, Command.batches]
      by_cases h : id' = id
      · subst h
        simp only [if_true, List.singleton_append]
        exact .cons (s.flushed_step id' header).1 hrest
      · simp only [if_neg h, List.nil_append]
        exact hrest
    | _ => exact hrest

/-- **Renames are conserved.**  At every point of a run since a log was created, unless it was replaced,
    the renames that were written to it are those that its flushes took out, batch by batch, followed
    by those that are pending.  The pending ones are what the log shows and counts.  Each flush
    answers with the size of its batch, prints it under one header, and empties the log.  A command
    that works on another log or on none changes neither the log nor what was written to it. -/
theorem renames_conserved {s start : Session} {id : String} {commands : List Command}
    (hstart : (s.step (.newLog id)).1 = start) (hkept : .newLog id ∉ commands) :
    let last := (start.run commands).1
    start.written id commands =
      (start.batches id commands).flatten ++ (last.log id).pending ∧
    ((last.step (.renames id)).2.answer = .ok (.renames (last.log id).pending) ∧
      (last.log id).size = (last.log id).pending.length) ∧
    List.Forall₂ (fun flush batch => Flushed flush.1 batch flush.2)
      (start.flushReplies id commands) (start.batches id commands) ∧
    (∀ header, ((last.step (.flush id header)).1.log id).pending = []) ∧
    ∀ c : Command, c.log? ≠ some id →
      (last.step c).1.log id = last.log id ∧
        start.written id (commands ++ [c]) = start.written id commands := by
  have hnew : (start.log id).pending = [] := by
    rw [← hstart]
    show ((s.setLog id {}).log id).pending = []
    rw [log_setLog_self]
  refine ⟨?_, ⟨rfl, rfl⟩, start.flushed_run id commands,
    fun header => (flushed_step _ id header).2, fun c hc => ?_⟩
  · have hbalance := start.pending_run hkept
    rwa [hnew, List.nil_append] at hbalance
  · obtain ⟨hwritten, hlog⟩ := (start.run commands).1.log_step_of_log?_ne hc
    refine ⟨hlog, ?_⟩
    rw [written_append, written, hwritten]
    simp [written]

/-- A name that is recorded and a class that is renamed are flushed together, under the default header
    since the given one is empty; an operation that is renamed later is pending.  What is said to the
    log `M` is not heard in `L`. -/
theorem renames_conserved_two_logs :
    let start := (({} : Session).step (.newLog "L")).1
    let commands : List Command :=
      [.record "L" ⟨"k", "x", "y"⟩, .report ⟨"k", "z", "z"⟩ (some "L"),
        .name .className { raw := .text "list", log := some "L" }, .flush "L" (some ""),
        .record "M" ⟨"k", "x", "y"⟩, .name .operationName { raw := .text "new", log := some "L" }]
    let last := (start.run commands).1
    start.batches "L" commands = [[⟨"k", "x", "y"⟩, ⟨"类名", "list", "listCustom"⟩]] ∧
    (last.log "L").pending = [⟨"方法名", "new", "aNew"⟩] ∧
    start.written "L" commands =
      [⟨"k", "x", "y"⟩, ⟨"类名", "list", "listCustom"⟩, ⟨"方法名", "new", "aNew"⟩] ∧
    (∃ reply : Reply, start.flushReplies "L" commands = [(some ("" : Text), reply)] ∧
      reply.answer = .ok (.count 2) ∧
      reply.printed = [.info "----- Renamed -----", .warning (Rename.message ⟨"k", "x", "y"⟩),
        .warning (Rename.message ⟨"类名", "list", "listCustom"⟩)]) ∧
    (last.step (.flush "M" none)).1.log "L" = last.log "L" := by
  intro start commands last
  have hbatches : start.batches "L" commands =
      [[⟨"k", "x", "y"⟩, ⟨"类名", "list", "listCustom"⟩]] := by decide +kernel
  have hpending : (last.log "L").pending = [⟨"方法名", "new", "aNew"⟩] := by decide +kernel
  have hheaders : (start.flushReplies "L" commands).map (·.1) = [some ("" : Text)] := by
    decide +kernel
  obtain ⟨hwritten, _, hflushes, _, hothers⟩ :=
    @renames_conserved {} start "L" commands rfl (by simp [commands])
  rw [hbatches] at hwritten hflushes
  obtain ⟨⟨header, reply⟩, rest, hflushed, hrest, hreplies⟩ :=
    List.forall₂_cons_right_iff.mp hflushes
  obtain rfl := List.forall₂_nil_right_iff.mp hrest
  rw [hreplies] at hheaders
  obtain rfl : header = some "" := by simpa using hheaders
  exact ⟨hbatches, hpending, hwritten.trans (by rw [hpending]; rfl),
    ⟨reply, hreplies, hflushed.counted, hflushed.printed (List.cons_ne_nil _ _)⟩,
    (hothers (.flush "M" none) (by decide)).1⟩

end Session

end SchemaNaming
