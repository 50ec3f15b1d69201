import SchemaNaming.Proofs.ClassName
import SchemaNaming.Proofs.RegistryHistory

namespace SchemaNaming

/-!
# Registries in a session

A session changes a registry in few ways: a command declares a name in it, changes its mode, or puts
another one in its place.  So each run writes a history for each registry that is not replaced, and
what is known about histories holds of the registry after the run.

* `Session.registryEvents` — the history that a run writes for a registry;
* `Session.registry_step`, `Session.registry_run` — after a run the registry is what its history
  makes of it;
* `Session.className_differs_from_declared` — names of classes never collide over a run.
-/

/-- What giving a name does to a registry: it declares the name that was asked about, if it was asked
    to, and if the registry is the one that was asked. -/
def Request.registryEvents (id : String) (request : Request) :
    Except Refusal Answer → List Registry.Event
  | .ok (.text name) =>
    if request.declares ∧ request.occupied = .registry id then
      [.declare (qualify request.scope name)]
    else []
  | _ => []

/-- What a command does to a registry, given the answer to the command.  Commands that put another
    registry in its place are left out. -/
def Command.registryEvents (id : String) : Command → Except Refusal Answer → List Registry.Event
  | .declare id' declared, _ => if id' = id then [.declare declared] else []
  | .setCaseSensitive id' caseSensitive, _ =>
    if id' = id then [.setCaseSensitive caseSensitive] else []
  | .name _ request, answer => request.registryEvents id answer
  | .nameAs _ request, answer => request.registryEvents id answer
  | _, _ => []

namespace Session

variable (s : Session) (id : String)

/-- What a run does to a registry, oldest event first. -/
def registryEvents (s : Session) (id : String) : List Command → List Registry.Event
  | [] => []
  | c :: rest =>
    c.registryEvents id (s.step c).2.answer ++ registryEvents (s.step c).1 id rest

/-! ### One command -/

/-- Logs and registries are kept apart. -/
@[simp] theorem registry_logged (log : Option String) (rename : Option Rename) :
    (s.logged log rename).registry id = s.registry id := by
  cases log <;> cases rename <;> rfl

/-- An event in one registry is none in the others. -/
theorem registry_setRegistry_obey (id' : String) (e : Registry.Event) :
    (s.setRegistry id' ((s.registry id').obey e)).registry id =
      (s.registry id).replay (if id' = id then [e] else []) := by
  by_cases h : id' = id
  · subst h
    rw [registry_setRegistry_self, if_pos rfl, Registry.replay_cons, Registry.replay_nil]
  · rw [registry_setRegistry_of_ne s (Ne.symm h), if_neg h, Registry.replay_nil]

/-- A name is declared in the registry that was asked, and in no other one. -/
theorem registry_declareIn (occupied : Occupied) (name : Text) :
    (s.declareIn occupied name).registry id =
      (s.registry id).replay (if occupied = .registry id then [.declare name] else []) := by
  cases occupied with
  | registry id' =>
    simp only [Occupied.registry.injEq]
    exact registry_setRegistry_obey s id id' (.declare name)
  | _ => rfl

/-- Giving a name changes a registry by declaring the name, or not at all. -/
theorem registry_serve {act : Option String → Act Text} {answer : Except Refusal Named}
    (hact : Act.GoesBy act s.settings answer) (request : Request) :
    (s.serve request act).1.registry id =
      (s.registry id).replay (request.registryEvents id (s.serve request act).2.answer) := by
  cases answer with
  | error r =>
    obtain ⟨_, _, hserve⟩ := serve_of_refused hact
    rw [hserve s s.follows_settings]
    rfl
  | ok n =>
    rw [serve_of_given hact s.follows_settings]
    -- the name in the answer is the name that is declared
    show (s.afterNaming request n).registry id = (s.registry id).replay
      (if request.declares ∧ request.occupied = .registry id then _ else [])
    unfold afterNaming
    by_cases hdeclares : request.declares
    · rw [if_pos hdeclares, registry_declareIn, registry_logged]
      simp only [hdeclares, true_and]
    · rw [if_neg hdeclares, registry_logged, if_neg (fun h => hdeclares h.1), Registry.replay_nil]

/-- A call for a name changes a registry by declaring the name, or not at all. -/
theorem registry_call (o : Occupancy) (category : Category) (request : Request) :
    (s.call o category request).1.registry id =
      (s.registry id).replay
        (request.registryEvents id (s.call o category request).2.answer) :=
  s.registry_serve id (Act.goesBy_name s.settings request.raw category request.scope o) request

/-- A command that does not replace a registry does to it what its event says. -/
theorem registry_step (c : Command) (hnew : ∀ names caseSensitive,
    c ≠ .newRegistry id names caseSensitive) : (s.step c).1.registry id =
      (s.registry id).replay (c.registryEvents id (s.step c).2.answer) := by
  cases c with
  | newRegistry id' names caseSensitive =>
    have hne : id ≠ id' := by
      rintro rfl
      exact hnew names caseSensitive rfl
    exact registry_setRegistry_of_ne s hne
  | setCaseSensitive id' caseSensitive =>
    exact registry_setRegistry_obey s id id' (.setCaseSensitive caseSensitive)
  | declare id' name => exact registry_setRegistry_obey s id id' (.declare name)
  | name category request => exact s.registry_call id _ category request
  | nameAs tag request =>
    simp only [step, Command.registryEvents]
    cases htag : Category.ofRawValue tag with
    | error r =>
      rw [callAs_of_error htag]
      rfl
    | ok category =>
      rw [callAs_of_ok htag]
      exact s.registry_call id _ category request
  | unique base suffix occupied =>
    -- such a request declares nothing
    have hgive := s.registry_serve id
      (Act.goesBy_uniqueName s.settings base suffix (s.occupancy occupied))
      { raw := .text base, occupied }
    have hnone : ∀ answer, Request.registryEvents id { raw := .text base, occupied } answer = [] := by
      intro answer
      unfold Request.registryEvents
      split
      · exact if_neg (fun h => Bool.noConfusion h.1)
      · rfl
    rw [hnone] at hgive
    exact hgive
  | normalize raw =>
    rw [step_normalize]
    rfl
  | report r log =>
    rw [step_report]
    exact registry_logged s id log _
  | _ => rfl

/-! ### Whole runs -/

/-- After a run a registry that was not replaced is what its history makes of it. -/
theorem registry_run (commands : List Command)
    (hnew : ∀ names caseSensitive, .newRegistry id names caseSensitive ∉ commands) :
    (s.run commands).1.registry id = (s.registry id).replay (s.registryEvents id commands) := by
  induction commands generalizing s with
  | nil => rfl
  | cons c rest ih =>
    have hc : ∀ names caseSensitive, c ≠ .newRegistry id names caseSensitive := by
      rintro names caseSensitive rfl
      exact hnew names caseSensitive List.mem_cons_self
    have hrest : ∀ names caseSensitive, .newRegistry id names caseSensitive ∉ rest :=
      fun names caseSensitive h => hnew names caseSensitive (List.mem_cons_of_mem c h)
    show ((s.step c).1.run rest).1.registry id = _
    rw [ih (s.step c).1 hrest, registry_step s id c hc, registryEvents, Registry.replay_append]

/-- Only one command changes the mode of a registry. -/
theorem eq_of_setCaseSensitive_mem_registryEvents {id : String} {c : Command}
    {answer : Except Refusal Answer} {mode : Bool}
    (h : .setCaseSensitive mode ∈ c.registryEvents id answer) :
    c = .setCaseSensitive id mode := by
  have hrequest : ∀ request : Request,
      .setCaseSensitive mode ∉ request.registryEvents id answer := by
    intro request hmem
    unfold Request.registryEvents at hmem
    split at hmem
    · split at hmem
      · exact absurd (List.mem_singleton.mp hmem) nofun
      · exact absurd hmem List.not_mem_nil
    · exact absurd hmem List.not_mem_nil
  cases c with
  | setCaseSensitive id' mode' =>
    simp only [Command.registryEvents] at h
    by_cases hid : id' = id
    · rw [if_pos hid, List.mem_singleton] at h
      rw [hid, Registry.Event.setCaseSensitive.inj h]
    · rw [if_neg hid] at h
      exact absurd h List.not_mem_nil
  | declare id' name =>
    simp only [Command.registryEvents] at h
    by_cases hid : id' = id
    · rw [if_pos hid, List.mem_singleton] at h
      exact absurd h nofun
    · rw [if_neg hid] at h
      exact absurd h List.not_mem_nil
  | name category request => exact absurd h (hrequest request)
  | nameAs tag request => exact absurd h (hrequest request)
  | _ => exact absurd h List.not_mem_nil

/-- A change of mode in the history of a registry was commanded. -/
theorem mem_of_setCaseSensitive_mem_registryEvents {commands : List Command} {mode : Bool}
    (h : .setCaseSensitive mode ∈ s.registryEvents id commands) :
    .setCaseSensitive id mode ∈ commands := by
  induction commands generalizing s with
  | nil => cases h
  | cons c rest ih =>
    rw [registryEvents, List.mem_append] at h
    rcases h with hc | hrest
    · rw [eq_of_setCaseSensitive_mem_registryEvents hc]
      exact List.mem_cons_self
    · exact List.mem_cons_of_mem c (ih _ hrest)

/-! ### Names of classes -/

section ClassNames

variable {s id} {request : Request} {name : Text}

/-- A name of a class that is given is no keyword, and the registry that was asked has not got it. -/
theorem free_of_step_className (hocc : request.occupied = .registry id)
    (hname : (s.step (.name .className request)).2.answer = .ok (.text name)) :
    name.isKeyword = false ∧
      (s.registry id).contains (qualify request.scope name) = false := by
  have hact := Act.goesBy_className s.settings request.raw request.scope
    (s.occupancy request.occupied)
  have hanswer := answer_serve hact s.follows_settings request
  obtain ⟨n, hclass, hn⟩ := map_eq_ok_iff.mp (hanswer.symm.trans hname)
  cases hn
  obtain ⟨_, _, _, _, hkeyword⟩ := exists_candidate_of_className hclass
  rw [hocc] at hclass
  obtain ⟨_, hfree⟩ := not_taken_of_className hclass
  exact ⟨hkeyword, hfree⟩

/-- A name that is given is declared under its qualified name. -/
theorem registry_step_className (hocc : request.occupied = .registry id)
    (hdeclares : request.declares = true)
    (hname : (s.step (.name .className request)).2.answer = .ok (.text name)) :
    (s.step (.name .className request)).1.registry id =
      (s.registry id).declare (qualify request.scope name) := by
  have hc : ∀ names caseSensitive,
      Command.name .className request ≠ .newRegistry id names caseSensitive := by
    intro names caseSensitive h
    cases h
  rw [registry_step s id _ hc, hname, Command.registryEvents, Request.registryEvents,
    if_pos ⟨hdeclares, hocc⟩]
  rfl

/-- **Names of classes never collide.**  A registry is set up without regard to case and is neither
    replaced nor made case-sensitive in the run that follows.  Then a name of a class that is given
    after the run, and declared in the registry, is no keyword; it differs from all names that were
    declared there before, in more than the case of its letters; and the registry grows by one. -/
theorem className_differs_from_declared {s start before after : Session} {id : String}
    {names : List Text} {commands : List Command} {request : Request} {name : Text}
    (hstart : (s.step (.newRegistry id names false)).1 = start)
    (hnew : ∀ names' caseSensitive, .newRegistry id names' caseSensitive ∉ commands)
    (hmode : .setCaseSensitive id true ∉ commands)
    (hbefore : (start.run commands).1 = before)
    (hocc : request.occupied = .registry id) (hdeclares : request.declares = true)
    (hafter : (before.step (.name .className request)).1 = after)
    (hname : (before.step (.name .className request)).2.answer = .ok (.text name)) :
    name.isKeyword = false ∧
    (∀ d, d ∈ names ∨ .declare d ∈ start.registryEvents id commands →
      (qualify request.scope name).lower ≠ d.lower ∧
        (qualify request.scope name).asciiFold ≠ d.asciiFold) ∧
    (after.registry id).size = (before.registry id).size + 1 := by
  obtain ⟨hkeyword, hfree⟩ := free_of_step_className hocc hname
  have hgrown := registry_step_className hocc hdeclares hname
  rw [hafter] at hgrown
  refine ⟨hkeyword, fun d hd => ?_, ?_⟩
  · -- the names that the registry was set up with open its history
    have hset : start.registry id = (Registry.empty false).replay (names.map .declare) := by
      rw [← hstart, ← Registry.ofList_eq_replay]
      exact registry_setRegistry_self s
    have hhistory : before.registry id = (Registry.empty false).replay
        (names.map .declare ++ start.registryEvents id commands) := by
      rw [← hbefore, registry_run start id commands hnew, hset, Registry.replay_append]
    have hoff : .setCaseSensitive true ∉
        names.map .declare ++ start.registryEvents id commands := by
      rw [List.mem_append, not_or]
      refine ⟨fun h => ?_, fun h => ?_⟩
      · obtain ⟨_, _, hdeclare⟩ := List.mem_map.mp h
        cases hdeclare
      · exact hmode (mem_of_setCaseSensitive_mem_registryEvents start id h)
    have hmem : .declare d ∈ names.map .declare ++ start.registryEvents id commands := by
      rw [List.mem_append, List.mem_map]
      exact hd.imp_left fun h => ⟨d, h, rfl⟩
    rw [hhistory] at hfree
    exact Registry.ne_of_not_contains_replay rfl hoff hfree hmem
  · rw [hgrown]
    exact Registry.size_declare_of_not_contains hfree

/-- After a first class `foo` and a change of the suffix, the class `FOO` is called by another
    name than both. -/
theorem className_foo_differs_from_declared :
    let request (raw : Text) : Request :=
      { raw := .text raw, occupied := .registry "R", declares := true }
    let commands : List Command :=
      [.name .className (request "foo"), .configure { nameSuffix := some "X" }]
    let start := (({} : Session).step (.newRegistry "R" ["Foo"] false)).1
    let before := (start.run commands).1
    let last := before.step (.name .className (request "FOO"))
    last.2.answer = .ok (.text "FOOX") ∧
    Text.isKeyword "FOOX" = false ∧
    (∀ d : Text, d ∈ [("Foo" : Text)] ∨ .declare d ∈ start.registryEvents "R" commands →
      (qualify none "FOOX").lower ≠ d.lower ∧ (qualify none "FOOX").asciiFold ≠ d.asciiFold) ∧
    (last.1.registry "R").size = (before.registry "R").size + 1 := by
  refine ⟨?hname, className_differs_from_declared (s := {}) rfl ?hnew ?hmode rfl rfl rfl rfl ?hname⟩
  case hname => rfl
  all_goals simp

end ClassNames

end Session

end SchemaNaming
