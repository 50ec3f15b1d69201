import SchemaNaming.Proofs.SchemaType
import SchemaNaming.Proofs.Walk

namespace SchemaNaming

/-!
# What the acts that give names answer

For each of them, exactly which names it gives: it refuses where the normal form of the value is
refused or the walk does not end, and otherwise its answer follows from the normal form.  Every one
of them goes by its answer, so it does nothing but what the answer says.

* `Act.goesBy_name`, `Act.goesBy_uniqueName` — the acts go by what is seen of them;
* `Settings.keywordLed_eq_map` — names of operations and constants;
* `Settings.className_eq_ok_iff`, `Settings.className_eq_error_iff` — names of classes;
* `Settings.typeName_of_array`, `Settings.typeName_of_builtin`, `Settings.typeName_of_generated` —
  names of types;
* `Settings.typeName_cases` — the ways in which the name of a type can have been given.
-/

/-- A mapped answer is given when the answer itself is. -/
theorem map_eq_ok_iff {ε α β : Type} {f : α → β} {answer : Except ε α} {b : β} :
    answer.map f = .ok b ↔ ∃ a, answer = .ok a ∧ f a = b := by
  cases answer with
  | error e => exact ⟨nofun, fun ⟨_, h, _⟩ => nomatch h⟩
  | ok a => simp [Except.map]

/-- A mapped answer is refused when the answer itself is. -/
theorem map_eq_error_iff {ε α β : Type} {f : α → β} {answer : Except ε α} {e : ε} :
    answer.map f = .error e ↔ answer = .error e := by
  cases answer with
  | error e' => simp [Except.map]
  | ok a => exact ⟨nofun, nofun⟩

namespace Settings

variable (s : Settings)

/-- What becomes of a normal form that may be a keyword: the prefix leads a keyword. -/
def ledName (kind name : Text) : Named :=
  if name.isKeyword then
    { name := s.namePrefix ++ name.capitalize
      rename := Rename.ofChange? kind name (s.namePrefix ++ name.capitalize) }
  else { name }

/-- What becomes of a normal form that is the name of the type `t`: the suffix follows a keyword. -/
def suffixedName (t name : Text) : Named :=
  if name.isKeyword then
    { name := name ++ s.nameSuffix
      rename := Rename.ofChange? "类型" t (name ++ s.nameSuffix) }
  else { name }

/-- A keyword gets the suffix. -/
theorem name_suffixedName_of_isKeyword (t : Text) {name : Text} (hk : name.isKeyword = true) :
    (s.suffixedName t name).name = name ++ s.nameSuffix := by
  rw [suffixedName, if_pos hk]

/-- What is no keyword keeps its name. -/
theorem name_suffixedName_of_not_isKeyword (t : Text) {name : Text} (hk : ¬ name.isKeyword = true) :
    (s.suffixedName t name).name = name := by
  rw [suffixedName, if_neg hk]

/-- What a class is called if the walk for its normal form stops at the `m`-th candidate. -/
def classNamed (base : Text) (scope : Option Text) (o : Occupancy) (m : Nat) : Named where
  toFound := (s.classWalk base scope o).foundAt m
  rename := Rename.ofChange? "类名" base (candidate base s.nameSuffix m)

end Settings

/-! ### Acts and their answers -/

namespace Act

variable (s : Settings) (raw : RawValue)

/-- A keyword is renamed as the settings say and the rename is reported; other names are kept. -/
theorem goesBy_keywordRenamed {f : Settings → Text}
    (hf : ∀ t : Session, t.Follows s → f t.settings = f s) (kind before name : Text) :
    GoesBy
      (fun log => do
        if name.isKeyword then
          let renamed := f (← settings)
          report kind before renamed log
          return renamed
        else return name)
      s
      (.ok (if name.isKeyword then
          { name := f s, rename := Rename.ofChange? kind before (f s) }
        else { name })) := by
  by_cases hk : name.isKeyword = true
  · simp only [if_pos hk]
    refine (goesBy_report s kind before (f s)).congr fun t ht log => ?_
    rw [run_bind_of_ok run_settings, hf t ht]
  · simp only [if_neg hk]
    exact goesBy_pure s name

/-- The name of an operation or a constant is made of the normal form. -/
theorem goesBy_keywordLed (kind : Text) :
    GoesBy (keywordLed kind raw) s ((raw.normalize s.namePrefix).map (s.ledName kind)) := by
  refine goesBy_map_normalize fun name => ?_
  have hprefix (t : Session) (ht : t.Follows s) :
      t.settings.namePrefix ++ name.capitalize = s.namePrefix ++ name.capitalize := by
    rw [ht.namePrefix]
  exact goesBy_keywordRenamed s hprefix kind name name

/-- The name of a type that is neither an array nor built in is made of the normal form. -/
theorem goesBy_generatedTypeName (t : Text) :
    GoesBy (generatedTypeName t) s
      (((RawValue.text t).normalize s.namePrefix).map (s.suffixedName t)) := by
  refine goesBy_map_normalize fun name => ?_
  have hsuffix (u : Session) (hu : u.Follows s) :
      name ++ u.settings.nameSuffix = name ++ s.nameSuffix := by
    rw [hu.nameSuffix]
  exact goesBy_keywordRenamed s hsuffix "类型" t name

/-- The name of an attribute is the normal form. -/
theorem goesBy_attributeName :
    GoesBy (fun _ => attributeName raw) s
      ((raw.normalize s.namePrefix).map fun name => { name }) := by
  have h : GoesBy (fun _ => normalize raw >>= pure) s
      ((raw.normalize s.namePrefix).map fun name => { name }) :=
    goesBy_map_normalize fun name => goesBy_pure s name
  rwa [bind_pure] at h

section ClassName

variable {s raw} {scope : Option Text} {o : Occupancy} {base : Text}

/-- A session that follows the settings sends a class along the same walk. -/
theorem classWalk_of_follows {t : Session} (ht : t.Follows s) (base : Text) (scope : Option Text)
    (o : Occupancy) : t.settings.classWalk base scope o = s.classWalk base scope o := by
  rw [Settings.classWalk, Settings.classWalk, ht.nameSuffix]

/-- A walk that stops in reach gives the class its name, which is reported if it is not the base. -/
theorem goesBy_className_of_stopsAt (hbase : raw.normalize s.namePrefix = .ok base) {m : Nat}
    (hm : m < o.reach) (hstops : (s.classWalk base scope o).StopsAt m) :
    GoesBy (className raw scope o) s (.ok (s.classNamed base scope o m)) := by
  refine goesBy_of_normalize_ok hbase ⟨m, rfl, fun t ht log => ?_⟩
  rw [run_bind_of_ok run_settings, classWalk_of_follows ht,
    run_bind_of_ok (Walk.run_firstFree_of_stopsAt _ t hm hstops), run_bind_of_ok (run_report ..)]
  rfl

/-- A walk that goes past all candidates in reach leaves the class without a name. -/
theorem goesBy_className_of_passes (hbase : raw.normalize s.namePrefix = .ok base)
    (hpass : ∀ i < o.reach, (s.classWalk base scope o).Passes i) :
    GoesBy (className raw scope o) s (.error (.noFreeCandidate o.reach)) := by
  let asked := ((s.classWalk base scope o).questions o.reach).reverse
  refine goesBy_of_normalize_ok hbase
    ⟨asked, o.reach, fun h => absurd rfl (h o.reach), fun t ht log => ?_⟩
  rw [run_bind_of_ok run_settings, classWalk_of_follows ht]
  exact run_bind_of_error (Walk.run_firstFree_of_passes _ t hpass) _

/-- A class goes by what is seen of it, whether its walk ends or not. -/
theorem goesBy_className (s : Settings) (raw : RawValue) (scope : Option Text) (o : Occupancy) :
    GoesBy (className raw scope o) s (s.className raw scope o) := by
  cases hbase : raw.normalize s.namePrefix with
  | error r => exact (goesBy_of_normalize_error hbase).observed
  | ok base =>
    rcases (s.classWalk base scope o).stopsAt_or_passes o.reach with ⟨m, hm, hstops⟩ | hpass
    · exact (goesBy_className_of_stopsAt hbase hm hstops).observed
    · exact (goesBy_className_of_passes hbase hpass).observed

end ClassName

section TypeName

variable {raw}

/-- An array is named by the normal form of its element. -/
theorem goesBy_typeName_of_array {element : Text} (h : raw.toText = element ++ arrayMark) :
    GoesBy (typeName raw) s (((RawValue.text element).normalize s.namePrefix).map
      fun name => { name := name ++ arrayMark }) := by
  rw [← Text.arrayElement?_eq_some_iff] at h
  unfold typeName
  simp only [h]
  exact goesBy_map_normalize fun name => goesBy_pure s (name ++ arrayMark)

/-- A built-in type keeps its own name, and no prefix or suffix touches it. -/
theorem goesBy_typeName_of_builtin {b : Text} (harray : ¬ arrayMark <:+ raw.toText)
    (hb : raw.toText.builtinType? = some b) : GoesBy (typeName raw) s (.ok { name := b }) := by
  rw [← Text.arrayElement?_eq_none_iff] at harray
  unfold typeName
  simp only [harray, hb]
  exact goesBy_pure s b

/-- Any other type is named by the normal form of its text. -/
theorem goesBy_typeName_of_generated (harray : ¬ arrayMark <:+ raw.toText)
    (hb : raw.toText.builtinType? = none) :
    GoesBy (typeName raw) s
      (((RawValue.text raw.toText).normalize s.namePrefix).map (s.suffixedName raw.toText)) := by
  rw [← Text.arrayElement?_eq_none_iff] at harray
  unfold typeName
  simp only [harray, hb]
  exact goesBy_generatedTypeName s raw.toText

/-- A type goes by what is seen of it, whatever kind of type it is. -/
theorem goesBy_typeName (s : Settings) (raw : RawValue) :
    GoesBy (typeName raw) s (s.typeName raw) := by
  by_cases harray : arrayMark <:+ raw.toText
  · obtain ⟨element, helement⟩ := harray
    exact (goesBy_typeName_of_array s helement.symm).observed
  · cases hb : raw.toText.builtinType? with
    | some b => exact (goesBy_typeName_of_builtin s harray hb).observed
    | none => exact (goesBy_typeName_of_generated s harray hb).observed

end TypeName

/-- **Acts that give names.**  Whatever the category, what is seen of the act once is what it does in
    every session with the same prefix and suffix. -/
theorem goesBy_name (category : Category) (scope : Option Text) (o : Occupancy) :
    GoesBy (name category raw scope o) s (s.name category raw scope o) := by
  cases category with
  | className => exact goesBy_className s raw scope o
  | operationName => exact (goesBy_keywordLed s raw _).observed
  | attributeName => exact (goesBy_attributeName s raw).observed
  | constantName => exact (goesBy_keywordLed s raw _).observed
  | typeName => exact goesBy_typeName s raw

section UniqueName

variable {base : Text} {suffix : Option Text} {o : Occupancy}

/-- A walk that stops in reach gives the unique name. -/
theorem goesBy_uniqueName_of_stopsAt (s : Settings) {m : Nat} (hm : m < o.reach)
    (hstops : (uniqueWalk base suffix o).StopsAt m) :
    GoesBy (fun _ => uniqueName base suffix o) s
      (.ok { toFound := (uniqueWalk base suffix o).foundAt m }) := by
  refine ⟨m, rfl, fun t _ log => ?_⟩
  rw [uniqueName, Walk.run_firstFree_of_stopsAt _ t hm hstops]
  cases log <;> rfl

/-- A walk that goes past all candidates in reach gives none. -/
theorem goesBy_uniqueName_of_passes (s : Settings)
    (hpass : ∀ i < o.reach, (uniqueWalk base suffix o).Passes i) :
    GoesBy (fun _ => uniqueName base suffix o) s (.error (.noFreeCandidate o.reach)) := by
  let asked := ((uniqueWalk base suffix o).questions o.reach).reverse
  exact ⟨asked, o.reach, fun h => absurd rfl (h o.reach),
    fun t _ _ => Walk.run_firstFree_of_passes _ t hpass⟩

/-- Whatever the settings are, they make no difference to a unique name. -/
theorem goesBy_uniqueName (s : Settings) (base : Text) (suffix : Option Text) (o : Occupancy) :
    GoesBy (fun _ => uniqueName base suffix o) s (SchemaNaming.uniqueName base suffix o) := by
  unfold SchemaNaming.uniqueName
  rcases (uniqueWalk base suffix o).stopsAt_or_passes o.reach with ⟨m, hm, hstops⟩ | hpass
  · rw [(goesBy_uniqueName_of_stopsAt {} hm hstops).observed_eq]
    exact goesBy_uniqueName_of_stopsAt s hm hstops
  · rw [(goesBy_uniqueName_of_passes {} hpass).observed_eq]
    exact goesBy_uniqueName_of_passes s hpass

end UniqueName

end Act

/-! ### Answers -/

namespace Settings

variable (s : Settings) (raw : RawValue) (n : Named)

/-- An operation or a constant is refused with the normal form, and named after it otherwise. -/
theorem keywordLed_eq_map (kind : Text) :
    s.keywordLed kind raw = (raw.normalize s.namePrefix).map (s.ledName kind) :=
  (Act.goesBy_keywordLed s raw kind).observed_eq

/-- The name of an operation or a constant is made of the normal form. -/
theorem keywordLed_eq_ok_iff (kind : Text) : s.keywordLed kind raw = .ok n ↔
    ∃ name, raw.normalize s.namePrefix = .ok name ∧ s.ledName kind name = n := by
  rw [keywordLed_eq_map, map_eq_ok_iff]

/-- The name of an attribute is the normal form. -/
theorem attributeName_eq_map :
    s.attributeName raw = (raw.normalize s.namePrefix).map fun name => { name } :=
  (Act.goesBy_attributeName s raw).observed_eq

/-! ### Classes -/

section ClassName

variable {s raw n} {scope : Option Text} {o : Occupancy} {base : Text}

/-- A class whose normal form is refused is refused. -/
theorem className_of_normalize_error {e : Refusal} (scope : Option Text) (o : Occupancy)
    (h : raw.normalize s.namePrefix = .error e) : s.className raw scope o = .error e :=
  (Act.goesBy_of_normalize_error h).observed_eq

/-- The class has the name of the candidate at which the walk stops, if that is in reach. -/
theorem className_of_stopsAt (hbase : raw.normalize s.namePrefix = .ok base) {m : Nat}
    (hm : m < o.reach) (hstops : (s.classWalk base scope o).StopsAt m) :
    s.className raw scope o = .ok (s.classNamed base scope o m) :=
  (Act.goesBy_className_of_stopsAt hbase hm hstops).observed_eq

/-- A class is refused if the walk goes past all candidates in reach. -/
theorem className_of_passes (hbase : raw.normalize s.namePrefix = .ok base)
    (hpass : ∀ i < o.reach, (s.classWalk base scope o).Passes i) :
    s.className raw scope o = .error (.noFreeCandidate o.reach) :=
  (Act.goesBy_className_of_passes hbase hpass).observed_eq

variable (s raw n scope o)

/-- The name of a class is the candidate for the normal form at which the walk stops. -/
theorem className_eq_ok_iff : s.className raw scope o = .ok n ↔
    ∃ base, raw.normalize s.namePrefix = .ok base ∧ ∃ m < o.reach,
      (s.classWalk base scope o).StopsAt m ∧ s.classNamed base scope o m = n := by
  cases hbase : raw.normalize s.namePrefix with
  | error e =>
    rw [className_of_normalize_error scope o hbase]
    exact ⟨nofun, fun ⟨_, h, _⟩ => nomatch h⟩
  | ok base =>
    simp only [Except.ok.injEq, exists_eq_left']
    rcases (s.classWalk base scope o).stopsAt_or_passes o.reach with ⟨m, hm, hstops⟩ | hpass
    · rw [className_of_stopsAt hbase hm hstops, Except.ok.injEq]
      constructor
      · intro h
        exact ⟨m, hm, hstops, h⟩
      · rintro ⟨m', _, hstops', h⟩
        rwa [hstops.unique hstops']
    · rw [className_of_passes hbase hpass]
      exact ⟨nofun, fun ⟨m, hm, hstops, _⟩ => absurd (hpass m hm) hstops.stops⟩

/-- A class is refused with the normal form, or when the walk does not end in reach. -/
theorem className_eq_error_iff (r : Refusal) : s.className raw scope o = .error r ↔
    raw.normalize s.namePrefix = .error r ∨
      ∃ base, raw.normalize s.namePrefix = .ok base ∧
        (∀ i < o.reach, (s.classWalk base scope o).Passes i) ∧ r = .noFreeCandidate o.reach := by
  cases hbase : raw.normalize s.namePrefix with
  | error e => simp [className_of_normalize_error scope o hbase]
  | ok base =>
    simp only [reduceCtorEq, false_or, Except.ok.injEq, exists_eq_left']
    rcases (s.classWalk base scope o).stopsAt_or_passes o.reach with ⟨m, hm, hstops⟩ | hpass
    · rw [className_of_stopsAt hbase hm hstops]
      exact ⟨nofun, fun ⟨hpass, _⟩ => absurd (hpass m hm) hstops.stops⟩
    · rw [className_of_passes hbase hpass, Except.error.injEq, eq_comm]
      exact (and_iff_right hpass).symm

end ClassName

/-! ### Types -/

/-- A type that is neither an array nor built in is refused with the normal form, and named after it
    otherwise. -/
theorem generatedTypeName_eq_map (t : Text) :
    s.generatedTypeName t =
      ((RawValue.text t).normalize s.namePrefix).map (s.suffixedName t) :=
  (Act.goesBy_generatedTypeName s t).observed_eq

section TypeName

variable {raw}

/-- An array is named by the normal form of its element. -/
theorem typeName_of_array {element : Text} (h : raw.toText = element ++ arrayMark) :
    s.typeName raw = ((RawValue.text element).normalize s.namePrefix).map
      fun name => { name := name ++ arrayMark } :=
  (Act.goesBy_typeName_of_array s h).observed_eq

/-- A built-in type keeps its own name, and no prefix or suffix touches it. -/
theorem typeName_of_builtin {b : Text} (harray : ¬ arrayMark <:+ raw.toText)
    (hb : raw.toText.builtinType? = some b) : s.typeName raw = .ok { name := b } :=
  (Act.goesBy_typeName_of_builtin s harray hb).observed_eq

/-- Any other type is named by the normal form of its text. -/
theorem typeName_of_generated (harray : ¬ arrayMark <:+ raw.toText)
    (hb : raw.toText.builtinType? = none) :
    s.typeName raw =
      ((RawValue.text raw.toText).normalize s.namePrefix).map (s.suffixedName raw.toText) :=
  (Act.goesBy_typeName_of_generated s harray hb).observed_eq

/-- Whatever name a type has, it was given in one of three ways: to an array, to a built-in type, or
    to a type that is neither. -/
theorem typeName_cases {n : Named} (h : s.typeName raw = .ok n) :
    (∃ element base, raw.toText = element ++ arrayMark ∧
      (RawValue.text element).normalize s.namePrefix = .ok base ∧
        n = { name := base ++ arrayMark }) ∨
    (¬ arrayMark <:+ raw.toText ∧ ∃ b, raw.toText.builtinType? = some b ∧ n = { name := b }) ∨
    (¬ arrayMark <:+ raw.toText ∧ raw.toText.builtinType? = none ∧
      ∃ base, (RawValue.text raw.toText).normalize s.namePrefix = .ok base ∧
        n = s.suffixedName raw.toText base) := by
  by_cases harray : arrayMark <:+ raw.toText
  · obtain ⟨element, helement⟩ := harray
    rw [s.typeName_of_array helement.symm, map_eq_ok_iff] at h
    obtain ⟨base, hbase, rfl⟩ := h
    exact Or.inl ⟨element, base, helement.symm, hbase, rfl⟩
  · cases hb : raw.toText.builtinType? with
    | some b =>
      rw [s.typeName_of_builtin harray hb] at h
      cases h
      exact Or.inr (Or.inl ⟨harray, b, rfl, rfl⟩)
    | none =>
      rw [s.typeName_of_generated harray hb, map_eq_ok_iff] at h
      obtain ⟨base, hbase, rfl⟩ := h
      exact Or.inr (Or.inr ⟨harray, rfl, base, hbase, rfl⟩)

end TypeName

end Settings

end SchemaNaming
