import SchemaNaming.Proofs.Naming

namespace SchemaNaming

/-!
# What giving a name leaves alone

A name that is refused is refused before anything happens: the session stays, nothing is printed,
and nobody is asked which names are taken.  This is not for want of means, since an act could do all
of that first; it is the order of the steps in each of the acts.  A name that is given brings one
rename at most, which goes into the log of the request; declaring the name is an act of its own,
after the name was given.

* `Session.call_of_given`, `Session.call_of_refused` — all that a call for a name brings about;
* `Session.Grows` — nothing but renames in some logs were added to a session;
* `Session.Contained` — what a way to give names leaves alone;
* `Session.not_contained_of_print` — an act with its steps in another order need not be contained;
* `Session.calls_contained` — all ways to give names are contained;
* `Session.run_of_errors` — a run of refused commands leaves no trace;
* `Session.run_grows` — what a run leaves alone that only asks for names.
-/

namespace Settings

/-- A refusal that does not come from the walk along the candidates comes before it, so it does not
    depend on what is taken. -/
theorem name_eq_error_of_other_occupancy {s : Settings} {category : Category} {raw : RawValue}
    {scope : Option Text} {o : Occupancy} {r : Refusal}
    (h : s.name category raw scope o = .error r) (hr : r.IsImmediate) (o' : Occupancy) :
    s.name category raw scope o' = .error r := by
  cases category with
  | className =>
    rcases (s.className_eq_error_iff raw scope o r).mp h with hnormalize | ⟨_, _, _, hwalk⟩
    · exact className_of_normalize_error scope o' hnormalize
    · exact absurd hwalk (hr _)
  | _ => exact h

end Settings

namespace Command

/-- What is asked for by a command that asks for a name of a category. -/
def request? : Command → Option Request
  | .name _ request | .nameAs _ request => some request
  | _ => none

/-- The log that the rename goes to if the command asks for a name. -/
def logs (c : Command) : List String := (c.request?.bind Request.log).toList

end Command

namespace Session

variable (s : Session)

/-! ### Logs that grow -/

/-- `t` is `s` after renames were added at the end of some logs: to each log at most as many as
    `ids` has its id. -/
structure Grows (s : Session) (ids : List String) (t : Session) : Prop where
  settings : t.settings = s.settings
  registries : t.registries = s.registries
  otherLogs : ∀ id, id ∉ ids → t.logs.get? id = s.logs.get? id
  ownLogs : ∀ id, ∃ renames : List Rename, renames.length ≤ ids.count id ∧
    (t.log id).pending = (s.log id).pending ++ renames

namespace Grows

theorem refl (ids : List String) : s.Grows ids s where
  settings := rfl
  registries := rfl
  otherLogs _ _ := rfl
  ownLogs _ := ⟨[], Nat.zero_le _, (List.append_nil _).symm⟩

variable {s}

/-- What grows twice has grown by both. -/
theorem trans {t u : Session} {ids ids' : List String} (h : s.Grows ids t) (h' : t.Grows ids' u) :
    s.Grows (ids ++ ids') u where
  settings := h'.settings.trans h.settings
  registries := h'.registries.trans h.registries
  otherLogs id hid := by
    rw [List.mem_append, not_or] at hid
    rw [h'.otherLogs id hid.2, h.otherLogs id hid.1]
  ownLogs id := by
    obtain ⟨first, hfirst, hlog⟩ := h.ownLogs id
    obtain ⟨second, hsecond, hlog'⟩ := h'.ownLogs id
    refine ⟨first ++ second, ?_, ?_⟩
    · rw [List.length_append, List.count_append]
      omega
    · rw [hlog', hlog, List.append_assoc]

end Grows

/-- A rename is added to the log of the request, if there are both. -/
theorem pending_logged_self (id : String) (rename : Option Rename) :
    ((s.logged (some id) rename).log id).pending = (s.log id).pending ++ rename.toList := by
  cases rename with
  | none => exact (List.append_nil _).symm
  | some r =>
    show ((s.setLog id ((s.log id).record r)).log id).pending = _
    rw [log_setLog_self]
    rfl

/-- A rename is added to no log but that of the request. -/
theorem get?_logged_of_ne {log : Option String} {id : String} (rename : Option Rename)
    (h : log ≠ some id) : (s.logged log rename).logs.get? id = s.logs.get? id := by
  cases rename with
  | none => cases log <;> rfl
  | some r =>
    cases log with
    | none => rfl
    | some id' => exact Table.get?_insert_of_ne _ fun hid => h (congrArg some hid.symm)

/-- A report adds one rename at most, and to one log only. -/
theorem grows_logged (log : Option String) (rename : Option Rename) :
    s.Grows log.toList (s.logged log rename) where
  settings := by cases log <;> cases rename <;> rfl
  registries := by cases log <;> cases rename <;> rfl
  otherLogs id hid := s.get?_logged_of_ne rename fun hlog => hid (by simp [hlog])
  ownLogs id := by
    by_cases hlog : log = some id
    · subst hlog
      refine ⟨rename.toList, ?_, s.pending_logged_self id rename⟩
      cases rename <;> simp
    · refine ⟨[], Nat.zero_le _, ?_⟩
      rw [Session.log, Session.log, s.get?_logged_of_ne rename hlog, List.append_nil]

/-! ### One call -/

/-- What a way to give names leaves alone, whatever it is asked and however its questions are
    answered. -/
structure Contained (s : Session) (calls : Occupancy → Request → Session × Reply) : Prop where
  /-- A refusal leaves no trace: nothing was changed, printed or asked before it. -/
  refused : ∀ o request r, r.IsImmediate → (calls o request).2.answer = .error r →
    calls o request = (s, { answer := .error r })
  /-- Such a refusal does not depend on what would be answered. -/
  unasked : ∀ o request r, r.IsImmediate → (calls o request).2.answer = .error r →
    ∀ o', calls o' request = calls o request
  /-- Questions that do not end change nothing and print nothing, either. -/
  unending : ∀ o request tried, (calls o request).2.answer = .error (.noFreeCandidate tried) →
    (calls o request).1 = s ∧ (calls o request).2.printed = []
  /-- A call that declares nothing adds one rename at most, to the log of the request. -/
  grows : ∀ o request, request.declares = false → s.Grows request.log.toList (calls o request).1
  /-- A call that declares the name does so after everything else. -/
  declared : ∀ o request a, (calls o request).2.answer = .ok a → request.declares = true →
    let undeclared := calls o { request with declares := false }
    ∃ name, a = .text name ∧
      calls o request =
        (undeclared.1.declareIn request.occupied (qualify request.scope name), undeclared.2)

/-- A way to give names that refuses all of them at once is contained. -/
theorem contained_refusal {r : Refusal} (hr : r.IsImmediate) :
    s.Contained fun _ _ => (s, { answer := .error r }) where
  refused _ _ _ _ h := by
    cases h
    rfl
  unasked _ _ _ _ _ _ := rfl
  unending _ _ tried h := absurd (Except.error.inj h) (hr tried)
  grows _ _ _ := Grows.refl s _
  declared _ _ _ h := nomatch h

/-- A request that is refused leaves the session alone. -/
theorem serve_of_answer_eq_error {act : Option String → Act Text} {answer : Except Refusal Named}
    (hact : Act.GoesBy act s.settings answer) {request : Request} {r : Refusal}
    (h : (s.serve request act).2.answer = .error r) :
    ∃ asked, (r.IsImmediate → asked = []) ∧
      s.serve request act = (s, { answer := .error r, asked }) := by
  rw [answer_serve hact s.follows_settings, map_eq_error_iff] at h
  rw [h] at hact
  obtain ⟨asked, hasked, hserve⟩ := serve_of_refused hact
  exact ⟨asked, hasked, hserve s s.follows_settings request⟩

/-- A call goes by the name that the settings give. -/
theorem goesBy_call (o : Occupancy) (category : Category) (request : Request) :
    Act.GoesBy (Act.name category request.raw request.scope o) s.settings
      (s.settings.name category request.raw request.scope o) :=
  Act.goesBy_name s.settings request.raw category request.scope o

/-- A call is refused exactly if the settings give no name. -/
theorem answer_call_eq_error_iff (o : Occupancy) (category : Category) (request : Request)
    (r : Refusal) : (s.call o category request).2.answer = .error r ↔
      s.settings.name category request.raw request.scope o = .error r := by
  rw [call, answer_serve (s.goesBy_call o category request) s.follows_settings, map_eq_error_iff]

/-- A call that is refused leaves the session alone. -/
theorem call_of_refused {o : Occupancy} {category : Category} {request : Request} {r : Refusal}
    (h : (s.call o category request).2.answer = .error r) :
    ∃ asked, (r.IsImmediate → asked = []) ∧
      s.call o category request = (s, { answer := .error r, asked }) :=
  s.serve_of_answer_eq_error (s.goesBy_call o category request) h

/-- A call that gives a name does what the name says. -/
theorem call_of_given {o : Occupancy} {category : Category} {request : Request} {n : Named}
    (h : s.settings.name category request.raw request.scope o = .ok n) :
    s.call o category request = (s.afterNaming request n,
      { answer := .ok (.text n.name)
        printed := s.warnings request.log n.rename
        asked := n.asked }) := by
  have hgoes := s.goesBy_call o category request
  rw [h] at hgoes
  exact serve_of_given hgoes s.follows_settings request

/-- The names of every category are given in a contained way. -/
theorem contained_call (category : Category) : s.Contained fun o => s.call o category where
  refused o request r hr h := by
    obtain ⟨asked, hasked, hcall⟩ := s.call_of_refused h
    rw [hcall, hasked hr]
  unasked o request r hr h o' := by
    have h' : (s.call o' category request).2.answer = .error r := by
      rw [answer_call_eq_error_iff] at h ⊢
      exact Settings.name_eq_error_of_other_occupancy h hr o'
    obtain ⟨asked, hasked, hcall⟩ := s.call_of_refused h
    obtain ⟨asked', hasked', hcall'⟩ := s.call_of_refused h'
    rw [hcall, hcall', hasked hr, hasked' hr]
  unending o request tried h := by
    obtain ⟨asked, _, hcall⟩ := s.call_of_refused h
    rw [hcall]
    exact ⟨rfl, rfl⟩
  grows o request hdeclares := by
    cases hname : s.settings.name category request.raw request.scope o with
    | error r =>
      obtain ⟨_, _, hcall⟩ :=
        s.call_of_refused ((s.answer_call_eq_error_iff o category request r).mpr hname)
      rw [hcall]
      exact Grows.refl s _
    | ok n =>
      rw [s.call_of_given hname, afterNaming, if_neg (by simp [hdeclares])]
      exact s.grows_logged request.log n.rename
  declared o request a h hdeclares := by
    cases hname : s.settings.name category request.raw request.scope o with
    | error r =>
      rw [(s.answer_call_eq_error_iff o category request r).mpr hname] at h
      exact nomatch h
    | ok n =>
      let request' : Request := { request with declares := false }
      have hname' : s.settings.name category request'.raw request'.scope o = .ok n := hname
      have hcall := s.call_of_given hname
      have hcall' := s.call_of_given hname'
      rw [hcall] at h
      cases h
      refine ⟨n.name, rfl, ?_⟩
      show s.call o category request = _
      rw [hcall, hcall', afterNaming, if_pos hdeclares]
      rfl

/-- Names are given in a contained way, too, if the category is chosen by its label. -/
theorem contained_callAs (tag : RawValue) : s.Contained fun o => s.callAs o tag := by
  cases h : Category.ofRawValue tag with
  | ok category =>
    have hcall : (fun o => s.callAs o tag) = fun o => s.call o category := by
      funext o request
      exact callAs_of_ok h o request
    rw [hcall]
    exact s.contained_call category
  | error r =>
    have hcall : (fun o => s.callAs o tag) = fun _ _ => (s, { answer := .error r }) := by
      funext o request
      exact callAs_of_error h o request
    have hr := ((Category.ofRawValue_eq_error_iff tag r).mp h).2
    rw [hcall]
    exact s.contained_refusal fun tried => by simp [hr]

/-- It is the order of the steps that contains a call: a way to give names that prints something
    before it looks at the value is not contained, where there is a value to refuse. -/
theorem not_contained_of_print {raw : RawValue} {r : Refusal} (m : Message)
    (h : raw.normalize s.settings.namePrefix = .error r) :
    ¬ s.Contained fun _ request =>
      s.serve request fun _ => (do Act.print m; Act.normalize request.raw) := by
  intro hcontained
  have hserve : s.serve { raw } (fun _ => do Act.print m; Act.normalize raw) =
      (s, { answer := .error r, printed := [m] }) := by
    have hact : (do Act.print m; Act.normalize raw : Act Text).run { session := s } =
        .error r { session := s, printed := [m] } := by
      have hprint : (Act.print m).run { session := s } =
          .ok () { session := s, printed := [m] } := rfl
      rw [Act.run_bind_of_ok hprint]
      exact Act.run_normalize_of_error h
    unfold serve perform
    rw [Act.run_bind_of_error hact]
    rfl
  have himmediate : r.IsImmediate := by
    rw [((RawValue.normalize_eq_error_iff raw _ r).mp h).2]
    exact nofun
  have hrefused := hcontained.refused .free { raw } r himmediate (by rw [hserve])
  rw [hserve] at hrefused
  exact nomatch congrArg (·.2.printed) hrefused

/-- Each category has a way of its own to give names, and only that of classes is told which names
    are taken. -/
structure Validates (s : Session) : Prop where
  className : ∀ o request, s.call o .className request =
    s.serve request (Act.className request.raw request.scope o)
  operationName : ∀ o request, s.call o .operationName request =
    s.serve request (Act.operationName request.raw)
  attributeName : ∀ o request, s.call o .attributeName request =
    s.serve request fun _ => Act.attributeName request.raw
  constantName : ∀ o request, s.call o .constantName request =
    s.serve request (Act.constantName request.raw)
  typeName : ∀ o request, s.call o .typeName request =
    s.serve request (Act.typeName request.raw)

/-- A category that is chosen by its label is served like the category itself, and what is no label
    is refused before the value is looked at. -/
structure ChoosesByLabel (s : Session) : Prop where
  known : ∀ o (category : Category) request,
    s.callAs o (.text category.label) request = s.call o category request
  unknown : ∀ tag, (∀ category : Category, tag ≠ .text category.label) → ∀ o request,
    s.callAs o tag request = (s, { answer := .error (.unknownCategory tag) })

/-- Labels, and nothing else, choose categories. -/
theorem choosesByLabel : s.ChoosesByLabel where
  known o category request := callAs_of_ok (Category.ofRawValue_label category) o request
  unknown tag hunknown o request :=
    callAs_of_error ((Category.ofRawValue_eq_error_iff tag _).mpr ⟨hunknown, rfl⟩) o request

/-- **What giving a name leaves alone.**  Every call for a name, of a given category or of one that
    is chosen by its label, and whatever it is told about taken names, is contained: a refusal
    leaves no trace and comes before all questions, and a name that is given touches nothing but
    the log of the request, to which it adds one rename at most.  Choosing the category by its label
    makes no difference.  The commands of a session are such calls, with what the session knows to
    be taken. -/
theorem calls_contained :
    (∀ category, s.Contained fun o => s.call o category) ∧
    (∀ tag, s.Contained fun o => s.callAs o tag) ∧
    s.Validates ∧ s.ChoosesByLabel ∧
    (∀ category request,
      s.step (.name category request) = s.call (s.occupancy request.occupied) category request) ∧
    ∀ tag request,
      s.step (.nameAs tag request) = s.callAs (s.occupancy request.occupied) tag request :=
  ⟨s.contained_call, s.contained_callAs,
    ⟨fun _ _ => rfl, fun _ _ => rfl, fun _ _ => rfl, fun _ _ => rfl, fun _ _ => rfl⟩,
    s.choosesByLabel, fun _ _ => rfl, fun _ _ => rfl⟩

/-- A second class `foo` adds its rename to the log and leaves the registry alone.  Without a prefix
    the class `5` is refused, whatever is taken; a category that does not exist is refused though the
    value would be, too. -/
theorem calls_contained_foo :
    let s := (({ settings := { namePrefix := "" } } : Session).setLog "L" {}).setRegistry "R"
      (.ofList ["foo"] false)
    let request (raw : Text) : Request :=
      { raw := .text raw, occupied := .registry "R", log := some "L" }
    let out := s.step (.name .className (request "foo"))
    (out.2.answer = .ok (.text "fooCustom") ∧ s.Grows ["L"] out.1 ∧
      (out.1.log "L").pending = [⟨"类名", "foo", "fooCustom"⟩]) ∧
    (∀ o, s.call o .className (request "5") =
      (s, { answer := .error (.emptyIdentifier (.text "5")) })) ∧
    ((∀ category : Category, RawValue.text "namespace" ≠ .text category.label) ∧
      s.callAs .free (.text "namespace") (request "5") =
        (s, { answer := .error (.unknownCategory (.text "namespace")) })) := by
  have hno : ∀ category : Category, RawValue.text "namespace" ≠ .text category.label := by
    intro category
    cases category <;> decide +kernel
  obtain ⟨hcalls, _, _, hlabels, _⟩ := calls_contained
    ((({ settings := { namePrefix := "" } } : Session).setLog "L" {}).setRegistry "R"
      (.ofList ["foo"] false))
  let request (raw : Text) : Request :=
    { raw := .text raw, occupied := .registry "R", log := some "L" }
  have hempty : (Refusal.emptyIdentifier (.text "5")).IsImmediate := nofun
  refine ⟨⟨rfl, (hcalls .className).grows _ (request "foo") rfl, by decide +kernel⟩, fun o => ?_,
    hno, hlabels.unknown _ hno .free _⟩
  rw [(hcalls .className).unasked .free (request "5") _ hempty rfl o]
  exact (hcalls .className).refused .free (request "5") _ hempty rfl

/-! ### Runs -/

/-- A command that is refused leaves no trace. -/
theorem step_of_error {c : Command} {r : Refusal} (hr : r.IsImmediate)
    (h : (s.step c).2.answer = .error r) : s.step c = (s, { answer := .error r }) := by
  cases c with
  | normalize raw =>
    rw [step_normalize] at h ⊢
    rw [← h]
  | name category => exact (s.contained_call category).refused _ _ r hr h
  | nameAs tag => exact (s.contained_callAs tag).refused _ _ r hr h
  | unique base suffix occupied =>
    rw [step_unique] at h ⊢
    have hact := Act.goesBy_uniqueName s.settings base suffix (s.occupancy occupied)
    obtain ⟨asked, hasked, hserve⟩ := s.serve_of_answer_eq_error hact h
    rw [hserve, hasked hr]
  | report rename log =>
    rw [step_report] at h
    exact nomatch h
  | _ => exact nomatch h

/-- A run in which every command is refused leaves no trace. -/
theorem run_of_errors {commands : List Command}
    (h : ∀ reply ∈ (s.run commands).2, ∃ r : Refusal, r.IsImmediate ∧ reply.answer = .error r) :
    (s.run commands).1 = s ∧
      ∀ reply ∈ (s.run commands).2, reply.printed = [] ∧ reply.asked = [] := by
  induction commands with
  | nil => exact ⟨rfl, nofun⟩
  | cons c rest ih =>
    obtain ⟨r, hr, herror⟩ := h _ List.mem_cons_self
    have hstep := s.step_of_error hr herror
    have hstay : (s.step c).1 = s := by rw [hstep]
    simp only [run, hstay] at h ⊢
    obtain ⟨hstate, htrace⟩ := ih fun reply hreply => h reply (List.mem_cons_of_mem _ hreply)
    refine ⟨hstate, List.forall_mem_cons.mpr ⟨?_, htrace⟩⟩
    rw [hstep]
    exact ⟨rfl, rfl⟩

/-- A command that asks for a name, and does not declare it, adds one rename at most. -/
theorem grows_step {c : Command} {request : Request} (hrequest : c.request? = some request)
    (hdeclares : request.declares = false) : s.Grows c.logs (s.step c).1 := by
  cases c with
  | name category =>
    cases hrequest
    exact (s.contained_call category).grows _ _ hdeclares
  | nameAs tag =>
    cases hrequest
    exact (s.contained_callAs tag).grows _ _ hdeclares
  | _ => exact nomatch hrequest

/-- A run that only asks for names, and declares none of them, changes no setting and no registry,
    and adds to each log one rename at most for each request that goes to it. -/
theorem run_grows {calls : List Command}
    (h : ∀ c ∈ calls, ∃ request, c.request? = some request ∧ request.declares = false) :
    s.Grows (calls.flatMap Command.logs) (s.run calls).1 := by
  induction calls generalizing s with
  | nil => exact Grows.refl s _
  | cons c rest ih =>
    obtain ⟨⟨request, hrequest, hdeclares⟩, hrest⟩ := List.forall_mem_cons.mp h
    exact (s.grows_step hrequest hdeclares).trans (ih (s.step c).1 hrest)

end Session

end SchemaNaming
