import SchemaSheets.Generate.Sheet
import SchemaSheets.Proofs.Steps

/-!
# Columns of source fields

The non-null wrappers in front of a type decide only whether the column is
required; the rest is decided by the type under them.  `ofType_succeeds_iff`
says when there is an outcome at all, and `target_of_ofType` where the column
of a field points to.
-/

namespace SchemaSheets

open Steps

/-- A value that can be a description: a text, or something that counts as false. -/
def Value.Describes (v : Value) : Prop := ∃ d, Check.text (v.orElse (.str "")) = .ok d

theorem Value.describes_str (s : String) : (Value.str s).Describes :=
  ⟨s, congrArg Check.text (Value.orElse_str s)⟩

/-- A text, whole or torn: words can be found in it. -/
def Value.IsText : Value → Prop
  | .scalar (.str _) | .scalar (.torn _) => True
  | _ => False

/-- A name and a description that a column can have. -/
def Heads (name description : Value) : Prop := (∃ key, name = .str key) ∧ description.Describes

/-! ### Source fields -/

namespace TypeRef

def isNonNull : TypeRef → Bool
  | nonNull _ => true
  | _ => false

/-- The name that a type points to: that of an object type. -/
def target? : TypeRef → Option String
  | object name => (Check.text name).toOption
  | _ => none

theorem target?_eq_some_iff {t : TypeRef} {n : String} :
    t.target? = some n ↔ ∃ name, t = .object name ∧ Check.text name = .ok n := by
  cases t with
  | object name => cases h : Check.text name <;> simp [target?, Except.toOption, h]
  | _ => simp [target?]

/-- A field of the type can be made a column: its scalar's name can be looked up, its object's name
is a text.  The name and the description of the field count only where there is a column. -/
def Usable (name description : Value) : TypeRef → Prop
  | scalar type => (∃ k, type.key? = .ok k) ∧ Heads name description
  | object type => (∃ n, Check.text type = .ok n) ∧ Heads name description
  | list _ => Heads name description
  | _ => True

theorem core_ne_nonNull (t : TypeRef) {inner : TypeRef} : t.core ≠ nonNull inner := by
  induction t with
  | nonNull t ih => exact ih
  | _ => exact fun h => nomatch h

/-- There is a reference, and the names in it are texts. -/
def Typed : TypeRef → Prop
  | scalar name => ∃ n, name = .str n
  | object name => ∃ n, name = .str n
  | list inner => inner.Typed
  | nonNull inner => inner.Typed
  | other _ _ => True
  | absent => False

theorem Typed.core {t : TypeRef} (h : t.Typed) : t.core.Typed := by
  induction t with
  | nonNull inner ih => exact ih h
  | _ => exact h

theorem Typed.usable {t : TypeRef} {name description : Value} (h : t.Typed)
    (hheads : Heads name description) : t.Usable name description := by
  cases t with
  | scalar type =>
    obtain ⟨n, rfl⟩ := h
    exact ⟨⟨_, rfl⟩, hheads⟩
  | object type =>
    obtain ⟨n, rfl⟩ := h
    exact ⟨⟨n, rfl⟩, hheads⟩
  | list inner => exact hheads
  | _ => trivial

end TypeRef

def SourceField.Usable (f : SourceField) : Prop :=
  f.name.IsText ∧ f.type.core.Usable f.name f.description

/-- The name and the description are texts, and so are the names in the type. -/
structure SourceField.Typed (f : SourceField) : Prop where
  name : ∃ n, f.name = .str n
  description : ∃ d, f.description = .str d
  type : f.type.Typed

theorem SourceField.Typed.usable {f : SourceField} (h : f.Typed) : f.Usable := by
  obtain ⟨n, hn⟩ := h.name
  obtain ⟨d, hd⟩ := h.description
  exact ⟨hn ▸ trivial, h.type.core.usable ⟨⟨n, hn⟩, hd ▸ Value.describes_str d⟩⟩

/-! ### Outcomes -/

namespace Field

@[simp] theorem isReference_require (f : Field) : f.require.isReference = f.isReference := by
  unfold require
  split <;> rfl

@[simp] theorem reference_require (f : Field) : f.require.reference = f.reference := by
  unfold require
  split <;> rfl

@[simp] theorem target?_require (f : Field) : f.require.target? = f.target? := by
  simp [target?]

namespace Outcome

def require : Outcome → Outcome
  | column c => .column c.require
  | unsupported kind => .unsupported kind

def column? : Outcome → Option Field
  | column c => some c
  | unsupported _ => none

theorem require_require (out : Outcome) : out.require.require = out.require := by
  cases out <;> simp [require]

end Outcome

/-! ### The heading -/

def titled (key description : String) (type : FieldType) (multi : Bool)
    (reference : Option Reference) : Field :=
  { key, label := Words.heading key, description, type, multi, reference }

/-- A torn name gets a label, which no column has in the end. -/
theorem ofSource_succeeds_iff {f : SourceField} :
    (∃ h, Heading.ofSource f = .ok h) ↔ f.name.IsText := by
  unfold Heading.ofSource Words.headingOf
  split <;> simp_all [Value.IsText, bind, Except.bind, pure, Except.pure]

/-- The outcome is a column with the heading of the field. -/
inductive IsColumn (f : SourceField) (type : FieldType) (multi : Bool)
    (reference : Option Reference) : Outcome → Prop
  | intro {key description : String} (name : f.name = .str key)
      (text : Check.text (f.description.orElse (.str "")) = .ok description) :
      IsColumn f type multi reference (.column (titled key description type multi reference))

section

variable {f : SourceField} {type : FieldType} {multi : Bool} {reference : Option Reference}
  {c : Field} {out : Outcome}

theorem isColumn_iff : IsColumn f type multi reference out ↔ ∃ key, f.name = .str key ∧
    ∃ d, Check.text (f.description.orElse (.str "")) = .ok d ∧
      .column (titled key d type multi reference) = out := by
  constructor
  · rintro ⟨hkey, hd⟩
    exact ⟨_, hkey, _, hd, rfl⟩
  · rintro ⟨key, hkey, d, hd, rfl⟩
    exact ⟨hkey, hd⟩

theorem exists_isColumn_iff :
    (∃ out, IsColumn f type multi reference out) ↔ Heads f.name f.description := by
  constructor
  · rintro ⟨_, ⟨hkey, hd⟩⟩
    exact ⟨⟨_, hkey⟩, _, hd⟩
  · rintro ⟨⟨key, hkey⟩, d, hd⟩
    exact ⟨_, ⟨hkey, hd⟩⟩

theorem IsColumn.key (h : IsColumn f type multi reference (.column c)) : f.name = .str c.key := by
  cases h with
  | intro hkey hd => exact hkey

theorem isColumn_column_iff :
    IsColumn f type multi reference out ↔
      ∃ c, IsColumn f type multi reference (.column c) ∧ .column c = out := by
  constructor
  · rintro ⟨hkey, hd⟩
    exact ⟨_, ⟨hkey, hd⟩, rfl⟩
  · rintro ⟨c, h, rfl⟩
    exact h

theorem column_eq_ok_iff {h : Heading} (hf : Heading.ofSource f = .ok h) :
    h.column type multi reference = .ok c ↔ IsColumn f type multi reference (.column c) := by
  rw [isColumn_iff]
  unfold Heading.ofSource Words.headingOf at hf
  split at hf
  · rename_i key hkey
    cases hf
    have htext : Check.text f.name = .ok key := hkey ▸ rfl
    simp only [Heading.column, htext]
    cases Check.text (f.description.orElse (.str "")) <;>
      simp [Check.both, Check.within, Check.named, hkey, titled]
  · rename_i codes hcodes
    cases hf
    have htext : Check.text f.name = Check.fail .undecodableText f.name := hcodes ▸ rfl
    simp only [Heading.column, htext]
    cases Check.text (f.description.orElse (.str "")) <;>
      simp [Check.fail, Check.both, Check.within, Check.named, hcodes]
  · cases hf

end

theorem ofScalar_succeeds_iff {name : Value} :
    (∃ type, FieldType.ofScalar name = .ok type) ↔ ∃ k, name.key? = .ok k := by
  cases name with
  | scalar k => cases k <;> simp [FieldType.ofScalar, Value.key?, bind, Except.bind, pure, Except.pure]
  | _ => simp [FieldType.ofScalar, Value.key?, bind, Except.bind]

theorem ofScalarName_ne_reference (name : String) : FieldType.ofScalarName name ≠ .reference := by
  unfold FieldType.ofScalarName
  cases h : FieldType.scalars.lookup name with
  | none => exact fun he => nomatch he
  | some type =>
    obtain ⟨before, after, hscalars, -⟩ := List.lookup_eq_some_iff.1 h
    have hmem : (name, type) ∈ FieldType.scalars := by simp [hscalars]
    have hall : ∀ p ∈ FieldType.scalars, p.2 ≠ .reference := by decide
    exact hall _ hmem

theorem ofScalar_ne_reference (name : Value) : FieldType.ofScalar name ≠ .ok .reference := by
  cases name with
  | scalar k =>
    cases k with
    | str s => exact fun he => ofScalarName_ne_reference s (Except.ok.inj he)
    | _ => simp [FieldType.ofScalar, Value.key?, bind, Except.bind, pure, Except.pure]
  | _ => simp [FieldType.ofScalar, Value.key?, bind, Except.bind]

theorem checkTarget_eq_ok_iff {v : Value} {r : Reference} :
    Check.named "ReferenceConfig" (Reference.checkTarget v) = .ok r ↔
      ∃ n, Check.text v = .ok n ∧ r = { target := n } := by
  unfold Reference.checkTarget
  cases h : Check.text v <;> simp [Check.within, Check.named, eq_comm]

/-! ### The type under the wrappers -/

theorem ofType_nonNull (f : SourceField) (inner : TypeRef) :
    ofType f (.nonNull inner) = (ofType f inner).map Outcome.require := by
  simp only [ofType]
  cases ofType f inner with
  | error e => rfl
  | ok out => cases out <;> rfl

/-- Any number of non-null wrappers act like one. -/
theorem ofType_eq_ofCore (f : SourceField) (t : TypeRef) :
    ofType f t = (ofCore f t.core).map fun out => if t.isNonNull then out.require else out := by
  induction t with
  | nonNull inner ih =>
    rw [ofType_nonNull, ih, TypeRef.core]
    cases ofCore f inner.core with
    | error e => rfl
    | ok out =>
      cases h : inner.isNonNull <;>
        simp [Except.map, TypeRef.isNonNull, Outcome.require_require]
  | _ =>
    simp only [ofType, TypeRef.core, TypeRef.isNonNull, Bool.false_eq_true, if_false]
    exact (Except.map_id ▸ rfl)

/-- What is made of a type, under a name that is a text. -/
theorem ofCore_eq_ok_iff {f : SourceField} {t : TypeRef} {out : Outcome} :
    ofCore f t = .ok out ↔ f.name.IsText ∧
      match t with
      | .scalar name => ∃ type, FieldType.ofScalar name = .ok type ∧ IsColumn f type false none out
      | .object name => ∃ n, Check.text name = .ok n ∧
          IsColumn f .reference false (some { target := n }) out
      | .list _ => IsColumn f .string true none out
      | .other kind _ => .unsupported kind = out
      | .nonNull _ => .unsupported "NonNullRef" = out
      | .absent => .unsupported "NoneType" = out := by
  rw [← ofSource_succeeds_iff]
  cases hf : Heading.ofSource f with
  | error e => simp [ofCore, hf, bind_eq_ok_iff, lift_misuse_eq_ok_iff]
  | ok h =>
    cases t <;>
      simp [ofCore, hf, bind_eq_ok_iff, lift_misuse_eq_ok_iff, lift_invalid_eq_ok_iff,
        checkTarget_eq_ok_iff, column_eq_ok_iff hf, ← isColumn_column_iff, pure, Except.pure]

/-- The column is no reference, or it is looked up by the identity field of the sheet that it
points to. -/
def LooksUpId (c : Field) : Prop :=
  c.isReference = true → ∃ r, c.reference = some r ∧ r.key = idKey

theorem looksUpId_require {c : Field} : c.require.LooksUpId ↔ c.LooksUpId := by
  simp [LooksUpId]

theorem target_of_ofCore {f : SourceField} {t : TypeRef} {out : Outcome}
    (h : ofCore f t = .ok out) : out.column?.bind target? = t.target? := by
  obtain ⟨-, h⟩ := ofCore_eq_ok_iff.1 h
  cases t with
  | scalar name =>
    obtain ⟨type, htype, ⟨hkey, hd⟩⟩ := h
    have hplain : type ≠ .reference := fun hr => ofScalar_ne_reference name (hr ▸ htype)
    simp [titled, target?, isReference, hplain, Outcome.column?, TypeRef.target?]
  | object name =>
    obtain ⟨n, hn, ⟨hkey, hd⟩⟩ := h
    simp [titled, target?, isReference, Outcome.column?, TypeRef.target?, hn, Except.toOption]
  | list inner =>
    obtain ⟨hkey, hd⟩ := h
    rfl
  | _ =>
    cases h
    rfl

theorem looksUpId_of_ofCore {f : SourceField} {t : TypeRef} {c : Field}
    (h : ofCore f t = .ok (.column c)) : c.LooksUpId := by
  obtain ⟨-, h⟩ := ofCore_eq_ok_iff.1 h
  intro hr
  cases t with
  | scalar name =>
    obtain ⟨type, htype, ⟨hkey, hd⟩⟩ := h
    have hplain : type ≠ .reference := fun hr => ofScalar_ne_reference name (hr ▸ htype)
    simp [titled, isReference, hplain] at hr
  | object name =>
    obtain ⟨n, -, ⟨hkey, hd⟩⟩ := h
    exact ⟨_, rfl, rfl⟩
  | list inner =>
    obtain ⟨hkey, hd⟩ := h
    cases hr
  | _ => cases h

theorem exists_ofCore_iff {f : SourceField} {t : TypeRef} :
    (∃ out, ofCore f t = .ok out) ↔ f.name.IsText ∧ t.Usable f.name f.description := by
  simp only [ofCore_eq_ok_iff, exists_and_left]
  refine and_congr_right fun _ => ?_
  cases t with
  | scalar type =>
    rw [TypeRef.Usable, ← ofScalar_succeeds_iff]
    constructor
    · rintro ⟨out, type', htype, hcolumn⟩
      exact ⟨⟨type', htype⟩, exists_isColumn_iff.1 ⟨out, hcolumn⟩⟩
    · rintro ⟨⟨type', htype⟩, hheads⟩
      obtain ⟨out, hcolumn⟩ := exists_isColumn_iff.2 hheads
      exact ⟨out, type', htype, hcolumn⟩
  | object type =>
    constructor
    · rintro ⟨out, n, hn, hcolumn⟩
      exact ⟨⟨n, hn⟩, exists_isColumn_iff.1 ⟨out, hcolumn⟩⟩
    · rintro ⟨⟨n, hn⟩, hheads⟩
      obtain ⟨out, hcolumn⟩ := exists_isColumn_iff.2 hheads
      exact ⟨out, n, hn, hcolumn⟩
  | list inner => exact exists_isColumn_iff
  | _ => exact iff_of_true ⟨_, rfl⟩ trivial

/-! ### Types with wrappers -/

theorem ofType_eq_ok_iff {f : SourceField} {t : TypeRef} {out : Outcome} :
    ofType f t = .ok out ↔
      ∃ bare, ofCore f t.core = .ok bare ∧ (if t.isNonNull then bare.require else bare) = out := by
  rw [ofType_eq_ofCore, map_eq_ok_iff]

theorem ofType_succeeds_iff {f : SourceField} :
    (∃ out, ofType f f.type = .ok out) ↔ f.Usable := by
  rw [SourceField.Usable, ← exists_ofCore_iff]
  constructor
  · rintro ⟨out, h⟩
    obtain ⟨bare, hbare, -⟩ := ofType_eq_ok_iff.1 h
    exact ⟨bare, hbare⟩
  · rintro ⟨bare, hbare⟩
    exact ⟨_, ofType_eq_ok_iff.2 ⟨bare, hbare, rfl⟩⟩

theorem target_of_ofType {f : SourceField} {t : TypeRef} {out : Outcome}
    (h : ofType f t = .ok out) : out.column?.bind target? = t.core.target? := by
  obtain ⟨bare, hbare, rfl⟩ := ofType_eq_ok_iff.1 h
  rw [← target_of_ofCore hbare]
  cases t.isNonNull <;> cases bare <;> simp [Outcome.require, Outcome.column?]

theorem looksUpId_of_ofType {f : SourceField} {t : TypeRef} {c : Field}
    (h : ofType f t = .ok (.column c)) : c.LooksUpId := by
  obtain ⟨bare, hbare, hc⟩ := ofType_eq_ok_iff.1 h
  cases bare with
  | column c' =>
    have hc' := looksUpId_of_ofCore hbare
    split at hc
    · cases hc
      exact looksUpId_require.2 hc'
    · cases hc
      exact hc'
  | unsupported kind => split at hc <;> cases hc

end Field

end SchemaSheets
