import SchemaSheets.Proofs.Generate.Account

/-!
# Columns by type

What is made of one source field, told by its name, its description and its type
alone.  The type under the leading non-null wrappers decides whether there is a
column and of which kind; the wrappers decide whether its cells are required.
Without a column there is one warning, however many wrappers there are.
-/

namespace SchemaSheets

open Steps

namespace Field

variable {key description : String} {t u : TypeRef} {c : Field}

/-! ### What a type calls for -/

/-- The type of the column of a scalar. -/
def scalarType (name : String) : FieldType :=
  if name = "Int" ∨ name = "Float" then .number
  else if name = "Boolean" then .boolean
  else .string

theorem ofScalarName_eq (name : String) : FieldType.ofScalarName name = scalarType name := by
  unfold FieldType.ofScalarName FieldType.scalars scalarType
  by_cases hint : name = "Int"
  · simp [hint]
  · by_cases hfloat : name = "Float"
    · simp [hfloat, List.lookup_cons]
    · by_cases hboolean : name = "Boolean"
      · simp [hboolean, List.lookup_cons]
      · have hnone : ∀ n ∈ ["Int", "Float", "Boolean"], (name == n) = false := by
          simp [hint, hfloat, hboolean]
        simp only [List.forall_mem_cons] at hnone
        simp [List.lookup_cons, hnone, hint, hfloat, hboolean]

/-- What the non-null wrappers in front of a type demand of the cells. -/
def demands (t : TypeRef) : List Constraint := if t.isNonNull then [.required] else []

/-- The column that a name, a description and a type call for, if there is one. -/
def columnFor (key description : String) (t : TypeRef) : Option Field :=
  match t.core with
  | .scalar (.str name) =>
    some { key, label := Words.heading key, description, type := scalarType name,
           constraints := demands t }
  | .object (.str name) =>
    some { key, label := Words.heading key, description, type := .reference,
           constraints := demands t,
           reference := some { target := name, key := "id", relationship := .hasOne } }
  | .list _ =>
    some { key, label := Words.heading key, description, type := .string,
           constraints := demands t, multi := true }
  | _ => none

theorem columnFor_eq_none_iff (ht : t.Typed) :
    columnFor key description t = none ↔ ∃ kind name, t.core = .other kind name := by
  have hcore := ht.core
  cases h : t.core with
  | scalar name =>
    rw [h] at hcore
    obtain ⟨n, rfl⟩ := hcore
    simp [columnFor, h]
  | object name =>
    rw [h] at hcore
    obtain ⟨n, rfl⟩ := hcore
    simp [columnFor, h]
  | list inner => simp [columnFor, h]
  | other kind name => simp [columnFor, h]
  | nonNull inner => exact absurd h t.core_ne_nonNull
  | absent =>
    rw [h] at hcore
    exact hcore.elim

/-! ### What is made of a type -/

theorem ofType_of_core {f : SourceField} {bare : Field} (h : ofCore f t.core = .ok (.column bare))
    (hbare : bare.constraints = []) :
    ofType f t = .ok (.column { bare with constraints := demands t }) := by
  refine ofType_eq_ok_iff.2 ⟨.column bare, h, ?_⟩
  have hrequired : bare.isRequired = false := by simp [isRequired, hbare]
  unfold demands
  cases t.isNonNull with
  | true => simp [Outcome.require, require, hrequired, hbare]
  | false => simp [← hbare]

theorem ofType_of_columnFor (h : columnFor key description t = some c) :
    ofType ⟨.str key, t, .str description⟩ t = .ok (.column c) := by
  have htext : Check.text ((Value.str description).orElse (.str "")) = .ok description :=
    congrArg Check.text (Value.orElse_str description)
  unfold columnFor at h
  split at h
  next name hcore =>
    cases h
    have hbare : ofCore ⟨.str key, t, .str description⟩ t.core =
        .ok (.column (titled key description (scalarType name) false none)) := by
      rw [hcore, ofCore_eq_ok_iff]
      have htype : FieldType.ofScalar (.str name) = .ok (scalarType name) :=
        congrArg Except.ok (ofScalarName_eq name)
      exact ⟨trivial, _, htype, .intro rfl htext⟩
    exact ofType_of_core hbare rfl
  next name hcore =>
    cases h
    have hbare : ofCore ⟨.str key, t, .str description⟩ t.core =
        .ok (.column (titled key description .reference false (some { target := name }))) := by
      rw [hcore, ofCore_eq_ok_iff]
      exact ⟨trivial, name, rfl, .intro rfl htext⟩
    exact ofType_of_core hbare rfl
  next inner hcore =>
    cases h
    have hbare : ofCore ⟨.str key, t, .str description⟩ t.core =
        .ok (.column (titled key description .string true none)) := by
      rw [hcore, ofCore_eq_ok_iff]
      exact ⟨trivial, .intro rfl htext⟩
    exact ofType_of_core hbare rfl
  next => cases h

theorem ofType_of_other {kind : String} {name : Value} (h : t.core = .other kind name) :
    ofType ⟨.str key, t, .str description⟩ t = .ok (.unsupported kind) := by
  refine ofType_eq_ok_iff.2 ⟨.unsupported kind, ?_, ?_⟩
  · rw [h, ofCore_eq_ok_iff]
    exact ⟨trivial, rfl⟩
  · cases t.isNonNull <;> rfl

/-! ### What a run makes of a field -/

theorem from_generate_of_ofType {f : SourceField} {out : Outcome} (h : ofType f f.type = .ok out)
    (sheet : Value) (s : Session) :
    Run.from_ s (generate f sheet) = (.ok out.column?, s.noted (out.notes f sheet)) :=
  (generate_keeps f sheet).from_eq_ok_iff.2 ⟨_, account_eq_ok_iff.2 ⟨out, h, rfl⟩, rfl⟩

/-- A field whose name, description and type hold texts becomes the column that these call for, and
nothing else changes.  There is none exactly if the type under the non-null wrappers is of another
kind; then there is one warning instead.  Types that agree under these wrappers, and in having any,
are treated alike. -/
theorem generate_by_core (key description : String) (ht : t.Typed) (sheet : Value) (s : Session) :
    (columnFor key description t = none ↔ ∃ kind name, t.core = .other kind name) ∧
    (∀ c, columnFor key description t = some c →
      Run.from_ s (generate ⟨.str key, t, .str description⟩ sheet) = (.ok (some c), s)) ∧
    (∀ kind name, t.core = .other kind name →
      ∃ d, d = Diagnostic.unsupportedField key (Display.plain sheet) kind ∧
        Run.from_ s (generate ⟨.str key, t, .str description⟩ sheet) =
          (.ok none, (s.logged ⟨.warning, .fields, d.message⟩).collected d)) ∧
    ∀ u : TypeRef, u.core = t.core → u.isNonNull = t.isNonNull →
      Run.from_ s (generate ⟨.str key, u, .str description⟩ sheet) =
        Run.from_ s (generate ⟨.str key, t, .str description⟩ sheet) := by
  refine ⟨columnFor_eq_none_iff ht, fun c hc => ?_, fun kind name hkind => ?_, fun u hcore hnone => ?_⟩
  · have hrun := from_generate_of_ofType (ofType_of_columnFor hc) sheet s
    simpa [Outcome.notes, Outcome.column?] using hrun
  · have hkindType : ofType ⟨.str key, t, .str description⟩ t = .ok (.unsupported kind) :=
      ofType_of_other hkind
    exact ⟨_, rfl, from_generate_of_ofType hkindType sheet s⟩
  · have hsame : ofType ⟨.str key, u, .str description⟩ u =
        ofType ⟨.str key, t, .str description⟩ t := by
      rw [ofType_eq_ofCore, ofType_eq_ofCore, hcore, hnone]
      rfl
    simp only [generate, hsame]

/-- A list of a kind without columns, under two wrappers. -/
def roles : TypeRef := .nonNull (.nonNull (.list (.other "ENUM" (.str "Role"))))

/-- A kind without columns, under two wrappers. -/
def member : TypeRef := .nonNull (.nonNull (.other "UNION" (.str "Member")))

theorem generate_by_core_of_roles_and_member :
    (roles.Typed ∧ Run.from_ {} (generate ⟨.str "castRoles", roles, .str "all"⟩ (.str "Film")) =
      (.ok (some { key := "castRoles", label := "Cast Roles", description := "all", type := .string,
                   constraints := [.required], multi := true }), {})) ∧
    member.Typed ∧ ∃ d, d = Diagnostic.unsupportedField "lead" "Film" "UNION" ∧
      Run.from_ {} (generate ⟨.str "lead", member, .str ""⟩ (.str "Film")) =
        (.ok none, (Session.logged {} ⟨.warning, .fields, d.message⟩).collected d) := by
  have hroles : roles.Typed := trivial
  have hmember : member.Typed := trivial
  obtain ⟨-, hcolumn, -, -⟩ := generate_by_core "castRoles" "all" hroles (.str "Film") {}
  obtain ⟨-, -, hwarning, -⟩ := generate_by_core "lead" "" hmember (.str "Film") {}
  have hlabel : Words.heading "castRoles" = "Cast Roles" := by decide +kernel
  have hcalled : columnFor "castRoles" "all" roles =
      some { key := "castRoles", label := "Cast Roles", description := "all", type := .string,
             constraints := [.required], multi := true } := by
    rw [← hlabel]
    rfl
  exact ⟨⟨hroles, hcolumn _ hcalled⟩, hmember, hwarning "UNION" (.str "Member") rfl⟩

end Field

end SchemaSheets
