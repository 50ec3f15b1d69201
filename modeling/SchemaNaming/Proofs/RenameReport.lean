import SchemaNaming.Proofs.SessionFrame

namespace SchemaNaming

/-!
# Which renames are reported, and where

A name that is given in place of another one is reported once.  What it is compared with is the
normal form of the value, but for a type it is the text of the value.  The report is added to the log
of the request, or printed if there is no log and warnings are on, and never both.

* `Named.ReportsChange` — a name is reported exactly if it is not the one that was asked for;
* `Settings.className_reports` — a class is reported if the first candidate was not free;
* `Settings.rename_typeName_eq_some_iff` — which types are reported;
* `Session.Delivers` — where a report goes;
* `renames_reported_once` — names of all categories are reported in this way.
-/

/-! ### Which names are reported -/

namespace Named

/-- The name is reported, as one that is given in place of `before`, exactly if it is another one. -/
def ReportsChange (n : Named) (kind before : Text) : Prop :=
  ∀ r, n.rename = some r ↔ n.name ≠ before ∧ r = ⟨kind, before, n.name⟩

variable {n : Named} {kind before : Text}

/-- A name that comes with the report of its change reports the change. -/
theorem reportsChange_of_eq (h : n.rename = Rename.ofChange? kind before n.name) :
    n.ReportsChange kind before := by
  intro r
  rw [h, Rename.ofChange?_eq_some_iff]

/-- There is a report exactly if the name is another one. -/
theorem ReportsChange.ne_none_iff (h : n.ReportsChange kind before) :
    n.rename ≠ none ↔ n.name ≠ before := by
  rw [Option.ne_none_iff_exists']
  constructor
  · rintro ⟨r, hr⟩
    exact ((h r).mp hr).1
  · intro hne
    exact ⟨_, (h _).mpr ⟨hne, rfl⟩⟩

end Named

namespace Settings

variable {s : Settings} {raw : RawValue} {n : Named}

/-- A class is reported exactly if the first candidate is a keyword or found taken. -/
theorem className_reports {scope : Option Text} {o : Occupancy}
    (h : s.className raw scope o = .ok n) :
    ∃ base, raw.normalize s.namePrefix = .ok base ∧ n.ReportsChange "类名" base ∧
      (n.rename ≠ none ↔ base.isKeyword = true ∨ o.taken [] (qualify scope base) = true) := by
  obtain ⟨base, hbase, m, _, hstops, hn⟩ := (s.className_eq_ok_iff raw n scope o).mp h
  have hreports : n.ReportsChange "类名" base := by
    subst hn
    exact Named.reportsChange_of_eq rfl
  refine ⟨base, hbase, hreports, ?_⟩
  subst hn
  -- no later candidate is called like the first one
  rw [hreports.ne_none_iff]
  show candidate base s.nameSuffix m ≠ base ↔ _
  rw [Ne, candidate_eq_base_iff, ← Ne, hstops.ne_zero_iff, Walk.passes_zero_iff]
  rfl

/-- An operation or a constant is reported exactly if the normal form is not its name. -/
theorem keywordLed_reports {kind : Text} (h : s.keywordLed kind raw = .ok n) :
    ∃ base, raw.normalize s.namePrefix = .ok base ∧ n.ReportsChange kind base := by
  obtain ⟨base, hbase, rfl⟩ := (s.keywordLed_eq_ok_iff raw n kind).mp h
  refine ⟨base, hbase, Named.reportsChange_of_eq ?_⟩
  unfold ledName
  split
  · rfl
  · exact (Rename.ofChange?_self kind base).symm

/-- An attribute is never reported. -/
theorem rename_attributeName (h : s.attributeName raw = .ok n) : n.rename = none := by
  rw [attributeName_eq_map, map_eq_ok_iff] at h
  obtain ⟨_, _, rfl⟩ := h
  rfl

/-- A type is reported if its normal form is a keyword, but the name with the suffix is not its
    text. -/
theorem rename_suffixedName_eq_some_iff (s : Settings) (t base : Text) (r : Rename) :
    (s.suffixedName t base).rename = some r ↔
      (base.isKeyword = true ∧ (s.suffixedName t base).name ≠ t) ∧
      r = ⟨"类型", t, (s.suffixedName t base).name⟩ := by
  by_cases hk : base.isKeyword = true
  · have hrename : (s.suffixedName t base).rename =
        Rename.ofChange? "类型" t (s.suffixedName t base).name := by
      rw [suffixedName, if_pos hk]
    rw [hrename, Rename.ofChange?_eq_some_iff]
    simp only [hk, true_and]
  · rw [suffixedName, if_neg hk]
    constructor
    · intro hr
      cases hr
    · exact fun hr => absurd hr.1.1 hk

/-- A type is reported if its normal form is a keyword, but the name is not the text of the value.
    Arrays and built-in types are not reported. -/
theorem rename_typeName_eq_some_iff (h : s.typeName raw = .ok n) (r : Rename) :
    n.rename = some r ↔
      (¬ arrayMark <:+ raw.toText ∧ raw.toText.builtinType? = none ∧
        (∃ base, raw.normalize s.namePrefix = .ok base ∧ base.isKeyword = true) ∧
        n.name ≠ raw.toText) ∧
      r = ⟨"类型", raw.toText, n.name⟩ := by
  rcases s.typeName_cases h with
    ⟨element, _, helement, _, rfl⟩ | ⟨_, _, hb, rfl⟩ | ⟨harray, hb, base, hbase, rfl⟩
  · exact ⟨nofun, fun hr => absurd ⟨element, helement.symm⟩ hr.1.1⟩
  · exact ⟨nofun, fun hr => absurd hr.1.2.1 (by simp [hb])⟩
  · have hkeyword : (∃ name, raw.normalize s.namePrefix = .ok name ∧ name.isKeyword = true) ↔
        base.isKeyword = true := by
      simp only [RawValue.normalize_text_toText.mp hbase, Except.ok.injEq, exists_eq_left']
    rw [hkeyword, rename_suffixedName_eq_some_iff]
    simp only [harray, hb, not_false_eq_true, true_and]

end Settings

/-! ### Where a report goes -/

namespace Session

variable (s : Session)

/-- Where a report goes, if there is one: with a log it is added there and nothing is printed, and
    without a log it is printed if warnings are on.  In all other logs nothing has changed. -/
structure Delivers (s : Session) (log : Option String) (report : Option Rename) (t : Session)
    (printed : List Message) : Prop where
  toLog : ∀ id, log = some id →
    (t.log id).pending = (s.log id).pending ++ report.toList ∧ printed = []
  toUser : log = none →
    printed = if s.settings.warnOnRename then report.toList.map (.warning ·.message) else []
  nowhereElse : ∀ id, log ≠ some id → t.logs.get? id = s.logs.get? id

/-- A report that is logged or printed is delivered. -/
theorem delivers_logged (log : Option String) (report : Option Rename) :
    s.Delivers log report (s.logged log report) (s.warnings log report) where
  toLog := by
    rintro id rfl
    exact ⟨s.pending_logged_self id report, rfl⟩
  toUser := by
    rintro rfl
    cases report with
    | none => exact (ite_self []).symm
    | some r => rfl
  nowhereElse _ := s.get?_logged_of_ne report

/-- Declaring a name leaves the logs alone. -/
theorem logs_declareIn (occupied : Occupied) (name : Text) :
    (s.declareIn occupied name).logs = s.logs := by
  cases occupied <;> rfl

/-- What is declared with a name makes no difference to the logs. -/
theorem logs_afterNaming (request : Request) (n : Named) :
    (s.afterNaming request n).logs = (s.logged request.log n.rename).logs := by
  unfold afterNaming
  split
  · exact logs_declareIn _ _ _
  · rfl

variable {s}

/-- Nothing but the logs counts for where a report goes. -/
theorem Delivers.of_logs_eq {log : Option String} {report : Option Rename} {t t' : Session}
    {printed : List Message} (h : s.Delivers log report t printed) (hlogs : t'.logs = t.logs) :
    s.Delivers log report t' printed where
  toLog id hid := by
    have hlog : t'.log id = t.log id := by rw [Session.log, Session.log, hlogs]
    rw [hlog]
    exact h.toLog id hid
  toUser := h.toUser
  nowhereElse id hid := by
    rw [hlogs]
    exact h.nowhereElse id hid

/-- The report of a name that is given is delivered with the name. -/
theorem delivers_call {o : Occupancy} {category : Category} {request : Request} {a : Answer}
    (h : (s.call o category request).2.answer = .ok a) :
    ∃ n, s.settings.name category request.raw request.scope o = .ok n ∧ a = .text n.name ∧
      s.Delivers request.log n.rename (s.call o category request).1
        (s.call o category request).2.printed := by
  cases hname : s.settings.name category request.raw request.scope o with
  | error r =>
    rw [(s.answer_call_eq_error_iff o category request r).mpr hname] at h
    exact nomatch h
  | ok n =>
    rw [s.call_of_given hname] at h ⊢
    cases h
    exact ⟨n, rfl, rfl, (s.delivers_logged _ _).of_logs_eq (s.logs_afterNaming request n)⟩

/-! ### What a report does not change -/

/-- What a call answers and asks depends on the prefix and the suffix only: neither the log nor the
    warnings make a difference to it. -/
theorem call_warnOnRename (s : Session) (o : Occupancy) (category : Category) (request : Request)
    (warn : Bool) (log : Option String) :
    let s' : Session := { s with settings := { s.settings with warnOnRename := warn } }
    let out := s.call o category request
    let out' := s'.call o category { request with log := log }
    out'.2.answer = out.2.answer ∧ out'.2.asked = out.2.asked := by
  intro s' out out'
  have hact := s.goesBy_call o category request
  have hs' : s'.Follows s.settings := ⟨rfl, rfl⟩
  cases hname : s.settings.name category request.raw request.scope o with
  | error r =>
    rw [hname] at hact
    obtain ⟨asked, _, hserve⟩ := serve_of_refused hact
    have hout : out = _ := hserve s s.follows_settings request
    have hout' : out' = _ := hserve s' hs' { request with log := log }
    rw [hout, hout']
    exact ⟨rfl, rfl⟩
  | ok n =>
    rw [hname] at hact
    have hout : out = _ := serve_of_given hact s.follows_settings request
    have hout' : out' = _ := serve_of_given hact hs' { request with log := log }
    rw [hout, hout']
    exact ⟨rfl, rfl⟩

end Session

/-- **Renames are reported once.**  The name of a class, an operation or a constant is reported
    exactly if it is not the normal form of the value, which for a class means that the first
    candidate was a keyword or taken; the name of an attribute never is; and the name of a type is,
    if the type is neither an array nor built in, its normal form is a keyword, and the name is not
    the text of the value.  The report goes to the log of the request and is not printed then;
    without a log it is printed if warnings are on.  Neither the log nor the warnings make a
    difference to the name, or to the questions about taken names. -/
theorem renames_reported_once :
    (∀ (s : Settings) (raw : RawValue) (scope : Option Text) (o : Occupancy) (n : Named),
      s.className raw scope o = .ok n →
      ∃ base, raw.normalize s.namePrefix = .ok base ∧ n.ReportsChange "类名" base ∧
        (n.rename ≠ none ↔ base.isKeyword = true ∨ o.taken [] (qualify scope base) = true)) ∧
    (∀ (s : Settings) (raw : RawValue) (n : Named), s.operationName raw = .ok n →
      ∃ base, raw.normalize s.namePrefix = .ok base ∧ n.ReportsChange "方法名" base) ∧
    (∀ (s : Settings) (raw : RawValue) (n : Named), s.constantName raw = .ok n →
      ∃ base, raw.normalize s.namePrefix = .ok base ∧ n.ReportsChange "常量名" base) ∧
    (∀ (s : Settings) (raw : RawValue) (n : Named), s.attributeName raw = .ok n →
      n.rename = none) ∧
    (∀ (s : Settings) (raw : RawValue) (n : Named), s.typeName raw = .ok n → ∀ r,
      n.rename = some r ↔
        (¬ arrayMark <:+ raw.toText ∧ raw.toText.builtinType? = none ∧
          (∃ base, raw.normalize s.namePrefix = .ok base ∧ base.isKeyword = true) ∧
          n.name ≠ raw.toText) ∧
        r = ⟨"类型", raw.toText, n.name⟩) ∧
    (∀ (s : Session) (o : Occupancy) (category : Category) (request : Request) (a : Answer),
      (s.call o category request).2.answer = .ok a →
      ∃ n, s.settings.name category request.raw request.scope o = .ok n ∧ a = .text n.name ∧
        s.Delivers request.log n.rename (s.call o category request).1
          (s.call o category request).2.printed) ∧
    (∀ (s : Session) (o : Occupancy) (category : Category) (request : Request) (warn : Bool)
      (log : Option String),
      let s' : Session := { s with settings := { s.settings with warnOnRename := warn } }
      let out := s.call o category request
      let out' := s'.call o category { request with log := log }
      out'.2.answer = out.2.answer ∧ out'.2.asked = out.2.asked) :=
  ⟨fun _ _ _ _ _ h => Settings.className_reports h, fun _ _ _ h => Settings.keywordLed_reports h,
    fun _ _ _ h => Settings.keywordLed_reports h, fun _ _ _ h => Settings.rename_attributeName h,
    fun _ _ _ h => Settings.rename_typeName_eq_some_iff h,
    fun _ _ _ _ _ h => Session.delivers_call h, Session.call_warnOnRename⟩

/-- The keyword `list` is renamed for a class, an operation, a constant and a type, but not for an
    attribute; if there is no log, the user is told. -/
theorem renames_reported_once_list :
    (∃ n, ({} : Settings).className (.text "list") none .free = .ok n ∧
      n.rename = some ⟨"类名", "list", "listCustom"⟩) ∧
    (∃ n, ({} : Settings).operationName (.text "list") = .ok n ∧
      n.rename = some ⟨"方法名", "list", "aList"⟩) ∧
    (∃ n, ({} : Settings).constantName (.text "list") = .ok n ∧
      n.rename = some ⟨"常量名", "list", "aList"⟩) ∧
    (∃ n, ({} : Settings).attributeName (.text "list") = .ok n ∧ n.rename = none) ∧
    (∃ n, ({} : Settings).typeName (.text "list") = .ok n ∧
      n.rename = some ⟨"类型", "list", "listCustom"⟩) ∧
    (({} : Session).call .free .operationName { raw := .text "list" }).2.printed =
      [.warning (Rename.message ⟨"方法名", "list", "aList"⟩)] := by
  obtain ⟨hclass, hoperation, hconstant, hattribute, htype, hcall, _⟩ := renames_reported_once
  have hlist : (RawValue.text "list").normalize "a" = .ok "list" := rfl
  have hclassName : ({} : Settings).className (.text "list") none .free = .ok
      ⟨⟨"listCustom", [], 2⟩, some ⟨"类名", "list", "listCustom"⟩⟩ := rfl
  have hled (kind : Text) : ({} : Settings).keywordLed kind (.text "list") =
      .ok ⟨⟨"aList", [], 1⟩, some ⟨kind, "list", "aList"⟩⟩ := rfl
  have htypeName : ({} : Settings).typeName (.text "list") = .ok
      ⟨⟨"listCustom", [], 1⟩, some ⟨"类型", "list", "listCustom"⟩⟩ := rfl
  -- the normal form is `list`, so a name is reported if it is another one
  have hreport : ∀ {kind : Text} {n : Named},
      (∃ base, (RawValue.text "list").normalize "a" = .ok base ∧ n.ReportsChange kind base) →
      n.name ≠ "list" → n.rename = some ⟨kind, "list", n.name⟩ := by
    rintro kind n ⟨base, hbase, hreports⟩ hne
    obtain rfl : base = "list" := Except.ok.inj (hbase.symm.trans hlist)
    exact (hreports _).mpr ⟨hne, rfl⟩
  refine ⟨⟨_, hclassName, ?_⟩, ⟨_, hled _, ?_⟩, ⟨_, hled _, ?_⟩, ⟨{ name := "list" }, rfl, ?_⟩,
    ⟨_, htypeName, ?_⟩, ?_⟩
  · obtain ⟨base, hbase, hreports, _⟩ := hclass _ _ _ _ _ hclassName
    exact hreport ⟨base, hbase, hreports⟩ (by decide +kernel)
  · exact hreport (hoperation _ _ _ (hled _)) (by decide +kernel)
  · exact hreport (hconstant _ _ _ (hled _)) (by decide +kernel)
  · exact hattribute {} (.text "list") _ rfl
  · refine (htype _ _ _ htypeName _).mpr ⟨⟨?_, ?_, ⟨_, hlist, ?_⟩, ?_⟩, rfl⟩ <;> decide +kernel
  · obtain ⟨n, hn, _, hdelivered⟩ := hcall {} .free .operationName { raw := .text "list" } _ rfl
    obtain rfl := Except.ok.inj ((hled _).symm.trans hn)
    exact hdelivered.toUser rfl

end SchemaNaming
