import SchemaNaming.Session

namespace SchemaNaming

/-!
# What acts bring about

An act may do anything to a session, print anything and ask anything before it answers or refuses.
The acts that give names do not: all that comes of them can be read off one answer, which says what
the name is, what was asked and what has to be reported, or why there is no name.

* `Session.logged`, `Session.warnings` — what a report does to a session, and what it prints;
* `Act.run_normalize_of_ok`, `Act.run_report` — what single steps bring about;
* `Act.GoesBy` — in every session an act does what an answer says, and nothing else;
* `Act.GoesBy.observed_eq` — the answer is what is seen of the act;
* `Session.serve_of_given`, `Session.serve_of_refused` — what comes of a request that is served by
  such an act.
-/

/-- The refusal has another reason than that no candidate was found free. -/
def Refusal.IsImmediate (r : Refusal) : Prop := ∀ tried, r ≠ .noFreeCandidate tried

namespace Session

variable (s : Session)

/-- The session after a report: a rename is added to the log, if there are both. -/
def logged (log : Option String) (rename : Option Rename) : Session :=
  match log, rename with
  | some id, some r => s.setLog id ((s.log id).record r)
  | _, _ => s

/-- What a report prints: a warning about the rename, if there is no log and warnings are on. -/
def warnings (log : Option String) (rename : Option Rename) : List Message :=
  match log, rename with
  | none, some r => if s.settings.warnOnRename then [.warning r.message] else []
  | _, _ => []

/-- The session after a name was given: the rename is logged, and the name is declared if that was
    asked for. -/
def afterNaming (request : Request) (named : Named) : Session :=
  let s := s.logged request.log named.rename
  if request.declares then s.declareIn request.occupied (qualify request.scope named.name) else s

/-- The names in the session are given under these settings: it has their prefix and suffix. -/
structure Follows (s : Session) (settings : Settings) : Prop where
  namePrefix : s.settings.namePrefix = settings.namePrefix
  nameSuffix : s.settings.nameSuffix = settings.nameSuffix

theorem follows_settings : s.Follows s.settings := ⟨rfl, rfl⟩

end Session

namespace Act

/-! ### Steps -/

section Steps

variable {α β : Type} {scene scene' : Scene}

/-- After a step that answers, the next one goes on in the scene that it has left. -/
theorem run_bind_of_ok {x : Act α} {a : α} (h : x.run scene = .ok a scene') (f : α → Act β) :
    (x >>= f).run scene = (f a).run scene' := by
  rw [EStateM.run_bind, h]

/-- A step that refuses is the last one. -/
theorem run_bind_of_error {x : Act α} {r : Refusal} (h : x.run scene = .error r scene')
    (f : α → Act β) : (x >>= f).run scene = .error r scene' := by
  rw [EStateM.run_bind, h]

/-- To declare a name changes the registry that was asked, and nothing else. -/
theorem run_declare {occupied : Occupied} {name : Text} : (declare occupied name).run scene =
    .ok () { scene with session := scene.session.declareIn occupied name } := rfl

theorem run_settings : settings.run scene = .ok scene.session.settings scene := rfl

/-- A value that has a normal form answers with it, and leaves everything alone. -/
theorem run_normalize_of_ok {raw : RawValue} {name : Text}
    (h : raw.normalize scene.session.settings.namePrefix = .ok name) :
    (normalize raw).run scene = .ok name scene := by
  rw [normalize, run_bind_of_ok run_settings, h]
  rfl

/-- A value that is refused leaves everything alone. -/
theorem run_normalize_of_error {raw : RawValue} {r : Refusal}
    (h : raw.normalize scene.session.settings.namePrefix = .error r) :
    (normalize raw).run scene = .error r scene := by
  rw [normalize, run_bind_of_ok run_settings, h]
  rfl

/-- A report changes the log, or prints a warning, and nothing else. -/
theorem run_report (kind before after : Text) (log : Option String) :
    let rename := Rename.ofChange? kind before after
    (report kind before after log).run scene = .ok ()
      { scene with
        session := scene.session.logged log rename
        printed := scene.printed ++ scene.session.warnings log rename } := by
  unfold report
  cases Rename.ofChange? kind before after with
  | none => cases log <;> simp [Session.logged, Session.warnings]
  | some r =>
    cases log with
    | some id => simp [Session.logged, Session.warnings, record]
    | none =>
      show (settings >>= fun s => _).run scene = _
      rw [run_bind_of_ok run_settings]
      by_cases hwarn : scene.session.settings.warnOnRename = true
      · simp [Session.logged, Session.warnings, hwarn, print]
      · simp [Session.logged, Session.warnings, hwarn]

end Steps

/-! ### Acts that give names -/

/-- In every session that follows the settings, and whatever log is given to it, the act does what
    the answer says: it gives the name after the questions, and reports the rename, or it refuses
    and has neither changed the session nor printed anything.  Unless there is no free candidate, it
    has not asked anything either. -/
def GoesBy (act : Option String → Act Text) (settings : Settings) : Except Refusal Named → Prop
  | .ok n => ∃ passed, n.tried = passed + 1 ∧
    ∀ s : Session, s.Follows settings → ∀ log, (act log).run { session := s } = .ok n.name
      { session := s.logged log n.rename
        printed := s.warnings log n.rename
        asked := n.asked.reverse
        passed }
  | .error r => ∃ asked passed, (r.IsImmediate → asked = []) ∧
    ∀ s : Session, s.Follows settings → ∀ log,
      (act log).run { session := s } = .error r { session := s, asked, passed }

namespace GoesBy

variable {act : Option String → Act Text} {settings : Settings} {answer : Except Refusal Named}

/-- **Acts are seen.**  The answer that an act goes by is what is seen of the act. -/
theorem observed_eq (h : GoesBy act settings answer) : observed act settings = answer := by
  have hfollows : ({ settings } : Session).Follows settings := ⟨rfl, rfl⟩
  unfold observed
  cases answer with
  | ok n =>
    obtain ⟨passed, htried, hrun⟩ := h
    rw [hrun _ hfollows]
    have hrename : ((({ settings } : Session).logged (some "") n.rename).log "").pending.head? =
        n.rename := by
      cases n.rename <;> rfl
    simp only [List.reverse_reverse, hrename, ← htried]
  | error r =>
    obtain ⟨asked, passed, _, hrun⟩ := h
    rw [hrun _ hfollows]

/-- An act that goes by some answer goes by what is seen of it. -/
theorem observed (h : GoesBy act settings answer) :
    GoesBy act settings (Act.observed act settings) := by
  rw [h.observed_eq]
  exact h

/-- An act that does the same in the sessions that follow the settings goes by the same answer. -/
theorem congr {act' : Option String → Act Text} (h : GoesBy act settings answer)
    (hrun : ∀ s : Session, s.Follows settings → ∀ log,
      (act' log).run { session := s } = (act log).run { session := s }) :
    GoesBy act' settings answer := by
  cases answer with
  | ok n =>
    obtain ⟨passed, htried, hgiven⟩ := h
    exact ⟨passed, htried, fun s hs log => (hrun s hs log).trans (hgiven s hs log)⟩
  | error r =>
    obtain ⟨asked, passed, hasked, hrefused⟩ := h
    exact ⟨asked, passed, hasked, fun s hs log => (hrun s hs log).trans (hrefused s hs log)⟩

end GoesBy

/-- To answer with a name at once leaves everything alone. -/
theorem goesBy_pure (settings : Settings) (name : Text) :
    GoesBy (fun _ => pure name) settings (.ok { name }) := by
  refine ⟨0, rfl, fun s _ log => ?_⟩
  cases log <;> rfl

/-- To answer with a name that was reported brings about the report and nothing else. -/
theorem goesBy_report (settings : Settings) (kind before after : Text) :
    GoesBy (fun log => do report kind before after log; return after) settings
      (.ok { name := after, rename := Rename.ofChange? kind before after }) := by
  refine ⟨0, rfl, fun s _ log => ?_⟩
  rw [run_bind_of_ok (run_report kind before after log)]
  rfl

section Normalize

variable {settings : Settings} {raw : RawValue} {f : Text → Option String → Act Text}

/-- An act that begins with a value that is refused goes no farther. -/
theorem goesBy_of_normalize_error {r : Refusal} (h : raw.normalize settings.namePrefix = .error r) :
    GoesBy (fun log => do f (← normalize raw) log) settings (.error r) := by
  refine ⟨[], 0, fun _ => rfl, fun s hs log => ?_⟩
  rw [← hs.namePrefix] at h
  exact run_bind_of_error (run_normalize_of_error h) _

/-- An act that begins with a value goes on with its normal form. -/
theorem goesBy_of_normalize_ok {name : Text} {answer : Except Refusal Named}
    (h : raw.normalize settings.namePrefix = .ok name) (hf : GoesBy (f name) settings answer) :
    GoesBy (fun log => do f (← normalize raw) log) settings answer := by
  refine hf.congr fun s hs log => ?_
  rw [← hs.namePrefix] at h
  exact run_bind_of_ok (run_normalize_of_ok h) _

/-- An act that makes a name of the normal form refuses with the normal form, and goes by what it
    makes otherwise. -/
theorem goesBy_map_normalize {g : Text → Named}
    (hf : ∀ name, GoesBy (f name) settings (.ok (g name))) :
    GoesBy (fun log => do f (← normalize raw) log) settings
      ((raw.normalize settings.namePrefix).map g) := by
  cases h : raw.normalize settings.namePrefix with
  | error r => exact goesBy_of_normalize_error h
  | ok name => exact goesBy_of_normalize_ok h (hf name)

end Normalize

end Act

/-! ### Requests -/

namespace Session

section Serve

variable {s : Session} {settings : Settings} {act : Option String → Act Text}

/-- A name that is given is the answer.  Its rename is logged or printed, and then the name is
    declared if that was asked for. -/
theorem serve_of_given {n : Named} (h : Act.GoesBy act settings (.ok n)) (hs : s.Follows settings)
    (request : Request) : s.serve request act = (s.afterNaming request n,
      { answer := .ok (.text n.name)
        printed := s.warnings request.log n.rename
        asked := n.asked }) := by
  obtain ⟨passed, _, hrun⟩ := h
  have hact := hrun s hs request.log
  unfold serve perform afterNaming
  rw [Act.run_bind_of_ok hact]
  by_cases hdeclares : request.declares = true
  · rw [if_pos hdeclares, if_pos hdeclares, Act.run_bind_of_ok Act.run_declare]
    simp only [EStateM.run_pure, List.reverse_reverse]
  · rw [if_neg hdeclares, if_neg hdeclares]
    simp only [EStateM.run_pure, List.reverse_reverse]

/-- A request that is refused leaves the session as it is, and nothing is printed.  What was asked by
    then is the same in all sessions. -/
theorem serve_of_refused {r : Refusal} (h : Act.GoesBy act settings (.error r)) :
    ∃ asked, (r.IsImmediate → asked = []) ∧
      ∀ s : Session, s.Follows settings → ∀ request,
        s.serve request act = (s, { answer := .error r, asked }) := by
  obtain ⟨asked, passed, hasked, hrun⟩ := h
  refine ⟨asked.reverse, fun hr => ?_, fun s hs request => ?_⟩
  · rw [hasked hr]
    rfl
  · have hact := hrun s hs request.log
    unfold serve perform
    rw [Act.run_bind_of_error hact]

/-- A request is answered with the name, or with the refusal. -/
theorem answer_serve {answer : Except Refusal Named} (h : Act.GoesBy act settings answer)
    (hs : s.Follows settings) (request : Request) :
    (s.serve request act).2.answer = answer.map fun n => .text n.name := by
  cases answer with
  | ok n =>
    rw [serve_of_given h hs]
    rfl
  | error r =>
    obtain ⟨_, _, hserve⟩ := serve_of_refused h
    rw [hserve s hs]
    rfl

end Serve

variable (s : Session)

/-- A value is answered with its normal form, and nothing comes of that. -/
theorem step_normalize (raw : RawValue) : s.step (.normalize raw) =
    (s, { answer := (raw.normalize s.settings.namePrefix).map .text }) := by
  show s.perform (Act.normalize raw >>= fun name => pure (.text name)) = _
  unfold perform
  cases h : raw.normalize s.settings.namePrefix with
  | ok name =>
    rw [Act.run_bind_of_ok (Act.run_normalize_of_ok h)]
    rfl
  | error r =>
    rw [Act.run_bind_of_error (Act.run_normalize_of_error h)]
    rfl

/-- A unique name is served like a name of a category that is neither logged nor declared. -/
theorem step_unique (base : Text) (suffix : Option Text) (occupied : Occupied) :
    s.step (.unique base suffix occupied) =
      s.serve { raw := .text base, occupied }
        fun _ => Act.uniqueName base suffix (s.occupancy occupied) := rfl

/-- A report that is commanded brings about the report. -/
theorem step_report (r : Rename) (log : Option String) :
    let change := Rename.ofChange? r.kind r.before r.after
    s.step (.report r log) =
      (s.logged log change, { answer := .ok .done, printed := s.warnings log change }) := by
  show s.perform (Act.report r.kind r.before r.after log >>= fun _ => pure .done) = _
  unfold perform
  rw [Act.run_bind_of_ok (Act.run_report r.kind r.before r.after log)]
  rfl

variable {s}

/-- A name given by the label of a category is the one given by the category itself. -/
theorem callAs_of_ok {tag : RawValue} {category : Category}
    (h : Category.ofRawValue tag = .ok category) (o : Occupancy) (request : Request) :
    s.callAs o tag request = s.call o category request := by
  unfold callAs call
  congr 1
  funext log
  rw [Act.nameAs, Act.category, h]
  rfl

/-- What chooses no category is refused before the value is looked at. -/
theorem callAs_of_error {tag : RawValue} {r : Refusal} (h : Category.ofRawValue tag = .error r)
    (o : Occupancy) (request : Request) :
    s.callAs o tag request = (s, { answer := .error r }) := by
  unfold callAs serve perform
  rw [Act.nameAs, Act.category, h]
  rfl

end Session

end SchemaNaming
