import SchemaNaming.Proofs.RegistryWalk
import SchemaNaming.Proofs.Separator
import SchemaNaming.Proofs.SessionFrame
import SchemaNaming.Proofs.SessionHistory

namespace SchemaNaming

/-!
# Namespaces that share a registry

A name is stored with its namespace in front, and a backslash between the two.  The backslash ends
words, so the key of a qualified name is put together from the key of the namespace and that of the
name; and since names have no backslash, the last one in a key tells where the name begins.  So what
is declared in one namespace is never met in another one.

* `Registry.Apart` — two namespaces differ in their keys;
* `Registry.Outside` — a name is not in a namespace;
* `className_declare_of_outside` — such a name makes no difference to the classes in the namespace;
* `Session.namespaces_do_not_interfere` — it does not matter which of two namespaces comes first.
-/

open CodePoint (backslash)

/-! ### Parts of a qualified name -/

/-- No namespace and an empty one are the same. -/
theorem qualify_eq (scope : Option Text) (name : Text) :
    qualify scope name =
      if scope.getD [] = [] then name else scope.getD [] ++ backslash :: name := by
  match scope with
  | none => rfl
  | some [] => rfl
  | some (c :: space) =>
    have hmark : ("\\" : Text) = [backslash] := by decide
    show c :: space ++ "\\" ++ name = c :: space ++ backslash :: name
    rw [hmark, List.append_assoc]
    rfl

namespace Registry

variable (r : Registry)

/-- The key of a qualified name has both parts in it. -/
theorem key_append_backslash (t u : Text) :
    r.key (t ++ backslash :: u) = r.key t ++ backslash :: r.key u := by
  unfold key
  split
  · rfl
  · exact Text.lower_append_backslash t u

/-- A key has a backslash exactly if the name has one. -/
theorem backslash_mem_key_iff (t : Text) : backslash ∈ r.key t ↔ backslash ∈ t := by
  unfold key
  split
  · rfl
  · exact Text.mem_lower_iff t (by decide) (by decide)

/-- Only the empty name has an empty key. -/
theorem key_eq_nil_iff (t : Text) : r.key t = [] ↔ t = [] := by
  unfold key
  split
  · rfl
  · exact Text.lower_eq_nil_iff

/-- Two namespaces differ for the registry. -/
def Apart (scope scope' : Option Text) : Prop := r.key (scope.getD []) ≠ r.key (scope'.getD [])

/-- The name is not in the namespace: it is in another one, or has none while there is one. -/
inductive Outside (scope : Option Text) : Text → Prop
  | qualified {space name : Text} (hspace : space ≠ []) (hname : backslash ∉ name)
      (hscope : scope.getD [] = [] ∨ r.key (scope.getD []) ≠ r.key space) :
      Outside scope (space ++ "\\" ++ name)
  | bare {name : Text} (hname : backslash ∉ name) (hscope : scope.getD [] ≠ []) : Outside scope name

variable {r} {scope scope' : Option Text} {q name : Text}

/-- No namespace is apart from all that are not empty, and from no other. -/
theorem apart_none_iff : r.Apart scope none ↔ scope.getD [] ≠ [] := by
  have hnil : r.key [] = [] := (r.key_eq_nil_iff []).mpr rfl
  show r.key (scope.getD []) ≠ r.key [] ↔ _
  rw [hnil, Ne, key_eq_nil_iff]

theorem Apart.symm (h : r.Apart scope scope') : r.Apart scope' scope := Ne.symm h

/-- What is called in one namespace is outside the others. -/
theorem outside_qualify (h : r.Apart scope scope') (hname : backslash ∉ name) :
    r.Outside scope (qualify scope' name) := by
  by_cases hspace : scope'.getD [] = []
  · rw [qualify_eq, if_pos hspace]
    apply Outside.bare hname
    -- two namespaces without a name would not be apart
    intro hscope
    exact h (by rw [hscope, hspace])
  · have hqualify : qualify scope' name = scope'.getD [] ++ "\\" ++ name := by
      rw [qualify_eq, if_neg hspace, List.append_assoc]
      rfl
    rw [hqualify]
    exact Outside.qualified hspace hname (Or.inr h)

/-- What else is declared does not move a name into the namespace. -/
theorem Outside.declare (h : r.Outside scope q) (q' : Text) : (r.declare q').Outside scope q := by
  cases h with
  | qualified hspace hname hscope => exact .qualified hspace hname hscope
  | bare hname hscope => exact .bare hname hscope

/-- **Keys outside a namespace.**  A name outside has the key of no name in the namespace. -/
theorem key_ne_of_outside (h : r.Outside scope q) (hname : backslash ∉ name) :
    r.key q ≠ r.key (qualify scope name) := by
  intro heq
  have hfree : ∀ {t : Text}, backslash ∉ t → backslash ∉ r.key t := fun {t} ht hmem =>
    ht ((r.backslash_mem_key_iff t).mp hmem)
  rw [qualify_eq] at heq
  cases h with
  | @qualified space other hspace hother hscope =>
    have hkey : r.key (space ++ "\\" ++ other) = r.key space ++ backslash :: r.key other := by
      rw [← key_append_backslash, List.append_assoc]
      rfl
    rw [hkey] at heq
    by_cases hempty : scope.getD [] = []
    · rw [if_pos hempty] at heq
      exact hfree hname (heq ▸ List.mem_append_right _ List.mem_cons_self)
    · rw [if_neg hempty, key_append_backslash] at heq
      -- neither name has a backslash, so the last one stands between the parts
      obtain ⟨hspaces, _⟩ := append_cons_inj_of_notMem_right (hfree hother) (hfree hname) heq
      exact hscope.resolve_left hempty hspaces.symm
  | bare hbare hscope =>
    rw [if_neg hscope, key_append_backslash] at heq
    exact hfree hbare (heq.symm ▸ List.mem_append_right _ List.mem_cons_self)

/-- A name outside a namespace is not found when a name in the namespace is looked up. -/
theorem contains_declare_of_outside (h : r.Outside scope q) (hname : backslash ∉ name) :
    (r.declare q).contains (qualify scope name) = r.contains (qualify scope name) := by
  have hne : r.key (qualify scope name) ≠ r.key q := (key_ne_of_outside h hname).symm
  rw [Bool.eq_iff_iff, contains_iff, contains_iff, keys_declare, List.mem_insert_iff]
  show r.key (qualify scope name) = r.key q ∨ _ ↔ _
  exact or_iff_right hne

end Registry

/-! ### Classes -/

section Classes

variable {s : Settings} {raw : RawValue} {scope : Option Text} {r r' : Registry}

/-- No candidate for a class has a backslash, unless the suffix brings one in. -/
theorem backslash_not_mem_candidate (hsuffix : backslash ∉ s.nameSuffix) {base : Text}
    (hbase : raw.normalize s.namePrefix = .ok base) (i : Nat) :
    backslash ∉ candidate base s.nameSuffix i := by
  rw [candidate_eq_append, List.mem_append, not_or]
  constructor
  · intro hmem
    have hid := Text.isIdentifierChar_of_mem (RawValue.isIdentifier_of_normalize hbase) _ hmem
    exact absurd hid (by decide +kernel)
  · intro hmem
    refine forall_mem_ending (P := (· ≠ backslash)) (fun c hc heq => hsuffix (heq ▸ hc))
      (fun c hc heq => ?_) i backslash hmem rfl
    rw [heq] at hc
    exact absurd hc (by decide)

/-- Registries that agree on all candidates give a class the same name, after the same questions. -/
theorem className_congr_ofRegistry
    (h : ∀ base i, raw.normalize s.namePrefix = .ok base →
      r.contains (qualify scope (candidate base s.nameSuffix i)) =
        r'.contains (qualify scope (candidate base s.nameSuffix i))) :
    s.className raw scope (.ofRegistry r) = s.className raw scope (.ofRegistry r') := by
  cases hbase : raw.normalize s.namePrefix with
  | error refusal =>
    rw [Settings.className_of_normalize_error scope _ hbase,
      Settings.className_of_normalize_error scope _ hbase]
  | ok base =>
    obtain ⟨m, _, hstops⟩ := exists_stopsAt_ofRegistry s scope r base
    have hpasses : ∀ i, (s.classWalk base scope (.ofRegistry r)).Passes i ↔
        (s.classWalk base scope (.ofRegistry r')).Passes i := by
      intro i
      show _ ∨ r.contains (qualify scope (candidate base s.nameSuffix i)) = true ↔ _
      rw [h base i hbase]
      rfl
    have hstops' := (Walk.stopsAt_congr hpasses m).mp hstops
    rw [className_ofRegistry hbase hstops, className_ofRegistry hbase hstops']
    rfl

/-- **Classes in a namespace.**  A name outside makes no difference to them when it is declared:
    neither to what they are called, nor to what is asked about. -/
theorem className_declare_of_outside (hsuffix : backslash ∉ s.nameSuffix) {q : Text}
    (hq : r.Outside scope q) :
    s.className raw scope (.ofRegistry (r.declare q)) = s.className raw scope (.ofRegistry r) :=
  className_congr_ofRegistry fun _ i hbase =>
    Registry.contains_declare_of_outside hq (backslash_not_mem_candidate hsuffix hbase i)

/-- However many names outside a namespace are declared, they make no difference to the classes in
    it. -/
theorem className_replay_of_outside (hsuffix : backslash ∉ s.nameSuffix) {names : List Text}
    (hnames : ∀ q ∈ names, r.Outside scope q) :
    s.className raw scope (.ofRegistry (r.replay (names.map .declare))) =
      s.className raw scope (.ofRegistry r) := by
  induction names generalizing r with
  | nil => rfl
  | cons q names ih =>
    obtain ⟨hq, hrest⟩ := List.forall_mem_cons.mp hnames
    show s.className raw scope (.ofRegistry ((r.declare q).replay (names.map .declare))) = _
    rw [ih fun q' hq' => (hrest q' hq').declare q, className_declare_of_outside hsuffix hq]

end Classes

/-! ### Two classes in turn -/

/-- What is declared with a name that was asked for. -/
def Request.declared (request : Request) : Except Refusal Named → List Text
  | .ok named => if request.declares then [qualify request.scope named.name] else []
  | .error _ => []

/-- What is declared with a class is outside the namespaces that are apart from its own. -/
theorem outside_of_mem_declared {s : Settings} {r : Registry} {scope : Option Text} {o : Occupancy}
    {request : Request} (hsuffix : backslash ∉ s.nameSuffix)
    (hapart : r.Apart scope request.scope) :
    ∀ q ∈ request.declared (s.className request.raw request.scope o), r.Outside scope q := by
  intro q hq
  cases hname : s.className request.raw request.scope o with
  | error refusal =>
    rw [hname] at hq
    cases hq
  | ok named =>
    obtain ⟨base, i, hbase, hcandidate, _⟩ := exists_candidate_of_className hname
    have hfree : backslash ∉ named.name := by
      rw [hcandidate]
      exact backslash_not_mem_candidate hsuffix hbase i
    rw [hname, Request.declared] at hq
    split at hq
    · rw [List.mem_singleton] at hq
      rw [hq]
      exact Registry.outside_qualify hapart hfree
    · cases hq

namespace Session

variable {s s' : Session} {id : String} {a b : Request}

/-- What comes of a request if the name is given, or refused at once. -/
def outcome (s : Session) (request : Request) : Except Refusal Named → Session × Reply
  | .error r => (s, { answer := .error r })
  | .ok n => (s.afterNaming request n,
      { answer := .ok (.text n.name)
        printed := s.warnings request.log n.rename
        asked := n.asked })

/-- No answer changes the settings. -/
theorem settings_outcome (s : Session) (request : Request) (answer : Except Refusal Named) :
    (s.outcome request answer).1.settings = s.settings := by
  cases answer with
  | error r => rfl
  | ok n =>
    have hlogged := (s.grows_logged request.log n.rename).settings
    show (s.afterNaming request n).settings = s.settings
    unfold afterNaming
    split
    · rw [← hlogged]
      cases request.occupied <;> rfl
    · exact hlogged

/-- What is said about a name depends on the settings only. -/
theorem reply_outcome_congr (h : s.settings = s'.settings) (request : Request)
    (answer : Except Refusal Named) :
    (s.outcome request answer).2 = (s'.outcome request answer).2 := by
  cases answer with
  | error r => rfl
  | ok n => simp only [outcome, warnings, h]

/-- What a class is called if a registry of the session tells which names are taken. -/
def classOutcome (s : Session) (id : String) (request : Request) : Except Refusal Named :=
  s.settings.className request.raw request.scope (.ofRegistry (s.registry id))

/-- A class goes by what it is called. -/
theorem goesBy_classOutcome (s : Session) (id : String) (request : Request) :
    Act.GoesBy (Act.className request.raw request.scope (.ofRegistry (s.registry id))) s.settings
      (s.classOutcome id request) :=
  Act.goesBy_className s.settings request.raw request.scope _

/-- The walk past a registry ends, so a class is given its name or refused at once. -/
theorem step_className (hocc : a.occupied = .registry id) :
    s.step (.name .className a) = s.outcome a (s.classOutcome id a) := by
  have hact := s.goesBy_classOutcome id a
  show s.serve a (Act.className a.raw a.scope (s.occupancy a.occupied)) = _
  rw [hocc]
  cases hclass : s.classOutcome id a with
  | ok n =>
    rw [hclass] at hact
    exact serve_of_given hact s.follows_settings a
  | error r =>
    rw [hclass] at hact
    obtain ⟨asked, hasked, hserve⟩ := serve_of_refused hact
    rw [hasked (isImmediate_of_className_ofRegistry hclass)] at hserve
    exact hserve s s.follows_settings a

/-- A class leaves behind in the registry what is declared with it. -/
theorem registry_step_className_declared (hocc : a.occupied = .registry id) :
    (s.step (.name .className a)).1.registry id =
      (s.registry id).replay ((a.declared (s.classOutcome id a)).map .declare) := by
  rw [registry_step s id _ (by simp), step_className hocc, Command.registryEvents]
  cases s.classOutcome id a with
  | error r => rfl
  | ok n =>
    show (s.registry id).replay (if a.declares ∧ a.occupied = .registry id then _ else []) = _
    simp only [hocc, and_true, Request.declared]
    split <;> rfl

/-- A class in one namespace makes no difference to those in others. -/
theorem classOutcome_step_className (hsuffix : backslash ∉ s.settings.nameSuffix)
    (ha : a.occupied = .registry id) (hapart : (s.registry id).Apart b.scope a.scope) :
    (s.step (.name .className a)).1.classOutcome id b = s.classOutcome id b := by
  rw [classOutcome, registry_step_className_declared ha, step_className ha, settings_outcome]
  exact className_replay_of_outside hsuffix (outside_of_mem_declared hsuffix hapart)

/-- What is said and declared when one class follows another one. -/
theorem run_className_pair (hsuffix : backslash ∉ s.settings.nameSuffix)
    (ha : a.occupied = .registry id) (hb : b.occupied = .registry id)
    (hapart : (s.registry id).Apart b.scope a.scope) :
    let out := s.run [.name .className a, .name .className b]
    out.2 = [(s.step (.name .className a)).2, (s.step (.name .className b)).2] ∧
    out.1.registry id = (s.registry id).replay
      ((a.declared (s.classOutcome id a) ++ b.declared (s.classOutcome id b)).map .declare) := by
  have hnext := classOutcome_step_className hsuffix ha hapart
  have hsettings : (s.step (.name .className a)).1.settings = s.settings := by
    rw [step_className ha, settings_outcome]
  simp only [run]
  constructor
  · rw [step_className hb, hnext, step_className (s := s) hb, reply_outcome_congr hsettings]
  · rw [registry_step_className_declared hb, hnext, registry_step_className_declared ha,
      ← Registry.replay_append, ← List.map_append]

/-- **Namespaces do not interfere.**  Let the suffix have no backslash.  To declare a name outside a
    namespace makes no difference to the classes in it: neither to what they are called, nor to what
    is asked about.  So it does not matter in which order two classes are named and declared whose
    namespaces are apart for the registry: the replies are the same, and the same registry is left
    behind.  No namespace and an empty one are one namespace, apart from all others. -/
theorem namespaces_do_not_interfere :
    (∀ (s : Settings) (raw : RawValue) (scope : Option Text) (r : Registry) (q : Text),
      backslash ∉ s.nameSuffix → r.Outside scope q →
        s.className raw scope (.ofRegistry (r.declare q)) =
          s.className raw scope (.ofRegistry r)) ∧
    (∀ (s : Session) (id : String) (a b : Request), backslash ∉ s.settings.nameSuffix →
      a.occupied = .registry id → b.occupied = .registry id →
      (s.registry id).Apart a.scope b.scope →
        let first := s.run [.name .className a, .name .className b]
        let second := s.run [.name .className b, .name .className a]
        first.2 = second.2.reverse ∧ (first.1.registry id).Same (second.1.registry id)) ∧
    ∀ (r : Registry) (scope : Option Text),
      (r.Apart scope none ↔ scope.getD [] ≠ []) ∧ (r.Apart scope (some []) ↔ scope.getD [] ≠ []) := by
  refine ⟨fun s raw scope r q hsuffix hq => className_declare_of_outside hsuffix hq,
    fun s id a b hsuffix ha hb hapart => ?_,
    fun r scope => ⟨Registry.apart_none_iff, Registry.apart_none_iff⟩⟩
  obtain ⟨hreplies, hleft⟩ := run_className_pair hsuffix ha hb hapart.symm
  obtain ⟨hreplies', hleft'⟩ := run_className_pair hsuffix hb ha hapart
  constructor
  · rw [hreplies, hreplies']
    rfl
  · rw [hleft, hleft']
    exact Registry.same_replay_of_perm _ List.perm_append_comm

/-- `ΑΣ` and `ας` are one namespace without regard to case, since a sigma at the end of a word has a
    form of its own, and `ασ` is another one.  So a class has to give way in `ας` to one in `ΑΣ`, and
    in `ασ` it has not. -/
theorem namespaces_do_not_interfere_sigma :
    let start := (({} : Session).step (.newRegistry "R" ["ΑΣ\\Order"] false)).1
    let order (space : Text) : Request :=
      { raw := .text "order", scope := some space, occupied := .registry "R", declares := true }
    let first := start.run [.name .className (order "ας"), .name .className (order "ασ")]
    let second := start.run [.name .className (order "ασ"), .name .className (order "ας")]
    (first.2.map (·.answer) = [.ok (.text "orderCustom"), .ok (.text "order")] ∧
      first.2.map (·.asked) =
        [[("ας\\order" : Text), ("ας\\orderCustom" : Text)], [("ασ\\order" : Text)]]) ∧
    (first.2 = second.2.reverse ∧ (first.1.registry "R").Same (second.1.registry "R")) ∧
    (∀ q ∈ [("ΑΣ\\order" : Text), "order"], start.settings.className (.text "order") (some "ασ")
      (.ofRegistry ((start.registry "R").declare q)) = start.classOutcome "R" (order "ασ")) ∧
    (start.registry "R").Apart (some "ας") none := by
  intro start order first second
  obtain ⟨hone, htwo, hnone⟩ := namespaces_do_not_interfere
  have hsuffix : backslash ∉ start.settings.nameSuffix := by decide +kernel
  have hsigma : (start.registry "R").key "ασ" ≠ (start.registry "R").key "ΑΣ" := by decide +kernel
  have hforms : (start.registry "R").key "ας" ≠ (start.registry "R").key "ασ" := by decide +kernel
  have hoffered : backslash ∉ ("order" : Text) := by decide +kernel
  refine ⟨by decide +kernel, htwo start "R" _ _ hsuffix rfl rfl hforms, ?_,
    (hnone _ _).1.mpr (by decide)⟩
  rw [List.forall_mem_cons, List.forall_mem_singleton]
  constructor
  · apply hone _ _ _ _ _ hsuffix
    exact @Registry.Outside.qualified _ _ "ΑΣ" "order" (by decide) hoffered (Or.inr hsigma)
  · apply hone _ _ _ _ _ hsuffix
    exact .bare hoffered (by decide)

end Session

end SchemaNaming
