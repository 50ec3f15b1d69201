import SchemaNaming.Refusal

namespace SchemaNaming

/-!
# Categories of names

What a name is for.  A category is chosen by its label.
-/

/-- What a name is for. -/
inductive Category where
  | className
  | operationName
  | attributeName
  | constantName
  | typeName
deriving DecidableEq

namespace Category

/-- All categories, in the order in which they are listed. -/
def all : List Category := [className, operationName, attributeName, constantName, typeName]

/-- The word by which a category is chosen. -/
def label : Category → Text
  | className => "class"
  | operationName => "operation"
  | attributeName => "attribute"
  | constantName => "constant"
  | typeName => "type"

/-- The category that a value chooses by its label. -/
def ofRawValue (tag : RawValue) : Except Refusal Category :=
  match all.find? (fun c => .text c.label = tag) with
  | some c => .ok c
  | none => .error (.unknownCategory tag)

/-- A category is chosen by its own label. -/
theorem ofRawValue_label (c : Category) : ofRawValue (.text c.label) = .ok c := by
  cases c <;> rfl

/-- A category is chosen by nothing but its own label. -/
theorem ofRawValue_eq_ok_iff (tag : RawValue) (c : Category) :
    ofRawValue tag = .ok c ↔ tag = .text c.label := by
  constructor
  · intro h
    unfold ofRawValue at h
    split at h
    next found hf =>
      cases h
      have hlabel := List.find?_some hf
      simp only [decide_eq_true_eq] at hlabel
      exact hlabel.symm
    next => cases h
  · rintro rfl
    exact ofRawValue_label c

/-- What is no label is refused. -/
theorem ofRawValue_eq_error_iff (tag : RawValue) (r : Refusal) :
    ofRawValue tag = .error r ↔
      (∀ c : Category, tag ≠ .text c.label) ∧ r = .unknownCategory tag := by
  cases h : ofRawValue tag with
  | ok c =>
    have hlabel := (ofRawValue_eq_ok_iff tag c).mp h
    exact ⟨nofun, fun hno => absurd hlabel (hno.1 c)⟩
  | error e =>
    have hno : ∀ c : Category, tag ≠ .text c.label := by
      intro c hc
      rw [(ofRawValue_eq_ok_iff tag c).mpr hc] at h
      cases h
    have he : e = .unknownCategory tag := by
      unfold ofRawValue at h
      split at h
      · cases h
      · exact (Except.error.inj h).symm
    rw [he, Except.error.injEq]
    exact ⟨fun hr => ⟨hno, hr.symm⟩, fun hr => hr.2.symm⟩

end Category

end SchemaNaming
