import SchemaSheets.Proofs.Steps
import SchemaSheets.Schema.Introspection
import SchemaSheets.Source.TypeRef

/-!
# Spelled types

An introspection document spells a type down to a number of levels.  A type with
no more wrappers is read back as it is, and described as schema notation writes
it; of a type with more the innermost shown wrapper has nothing inside, which no
reader accepts.
-/

namespace SchemaSheets

open Schema

variable {s : TypeSystem} {t : TypeExpr}

/-- The wrappers around the name of a type. -/
def Schema.TypeExpr.wrappers : TypeExpr → Nat
  | named _ => 0
  | list inner => inner.wrappers + 1
  | nonNull inner => inner.wrappers + 1

/-- The reference to a named type of this kind. -/
def TypeRef.ofKind (kind name : String) : TypeRef :=
  match TypeRef.named? (.str kind) with
  | some (_, build) => build (.str name)
  | none => .other kind (.str name)

/-- The reference that a type is spelled as. -/
def Schema.TypeSystem.refOf (s : TypeSystem) : TypeExpr → TypeRef
  | .named name => TypeRef.ofKind (s.kindOf name) name
  | .list inner => .list (refOf s inner)
  | .nonNull inner => .nonNull (refOf s inner)

/-! ### Labels -/

theorem TypeRef.label_ofKind (kind name : String) (hname : name ≠ "") :
    (TypeRef.ofKind kind name).label = .ok (.str name) := by
  have htruthy : (Value.str name).isTruthy = true := by simpa [Value.isTruthy] using hname
  rw [TypeRef.ofKind]
  split
  next build hnamed =>
    unfold TypeRef.named? at hnamed
    split at hnamed
    · obtain ⟨⟩ := hnamed
      rfl
    · obtain ⟨⟩ := hnamed
      rfl
    · cases hnamed
  next =>
    rw [TypeRef.label, Value.orElse, htruthy]
    rfl

theorem label_refOf (hbase : t.base ≠ "") : (s.refOf t).label = .ok (.str t.text) := by
  induction t with
  | named name => exact TypeRef.label_ofKind _ _ hbase
  | list inner ih =>
    rw [TypeSystem.refOf, TypeRef.label, ih hbase]
    rfl
  | nonNull inner ih =>
    rw [TypeSystem.refOf, TypeRef.label, ih hbase]
    rfl

/-! ### Reading spelled types -/

/-- No type is of a kind that wraps another. -/
theorem wrapper?_kindOf (s : TypeSystem) (name : String) :
    TypeRef.wrapper? (.str (s.kindOf name)) = none := by
  have hkind : ∀ body, TypeRef.wrapper? (.str (TypeSystem.kindName body)) = none := by
    intro body
    cases body <;> rfl
  rw [TypeSystem.kindOf]
  cases s.body? name with
  | none => rfl
  | some body => exact hkind body

theorem TypeRef.read_named {entries : Entries} {kind name : String} (bound : Nat)
    (hkind : Entries.get? entries "kind" = some (.str kind))
    (hname : Entries.get entries "name" = .str name)
    (hwrapper : TypeRef.wrapper? (.str kind) = none) (hne : name ≠ "") :
    TypeRef.read (bound + 1) (.map entries) = .ok (TypeRef.ofKind kind name) := by
  have htruthy : (Value.str name).isTruthy = true := by simpa [Value.isTruthy] using hne
  simp only [TypeRef.read, hkind, hname, hwrapper, htruthy, if_true]
  rw [TypeRef.ofKind]
  cases TypeRef.named? (.str kind) <;> rfl

theorem spell_eq_map (levels : Nat) (t : TypeExpr) : ∃ entries, s.spell levels t = .map entries := by
  cases levels <;> cases t <;> exact ⟨_, rfl⟩

/-- The kinds of wrappers. -/
def wrapperKinds : List String := ["LIST", "NON_NULL"]

/-- What holds of either wrapper: it is spelled around what it holds while levels are left, and with
nothing inside when there are none. -/
structure IsWrapper (s : TypeSystem) (kind : String) (wrap : TypeExpr → TypeExpr)
    (wrapRef : TypeRef → TypeRef) : Prop where
  kind_mem : kind ∈ wrapperKinds
  wrappers_eq : ∀ t, (wrap t).wrappers = t.wrappers + 1
  refOf_eq : ∀ t, s.refOf (wrap t) = wrapRef (s.refOf t)
  read_cut : ∀ t bound, TypeRef.read (bound + 1) (s.spell 0 (wrap t)) = .error (.withoutInner kind)
  read_inner : ∀ t bound levels, TypeRef.read (bound + 1) (s.spell (levels + 1) (wrap t)) =
    (TypeRef.read bound (s.spell levels t)).map wrapRef

theorem isWrapper_list (s : TypeSystem) : IsWrapper s "LIST" .list .list where
  kind_mem := by decide
  wrappers_eq _ := rfl
  refOf_eq _ := rfl
  read_cut _ _ := rfl
  read_inner t bound levels := by
    obtain ⟨entries, hinner⟩ := spell_eq_map (s := s) levels t
    rw [TypeSystem.spell, hinner]
    rfl

theorem isWrapper_nonNull (s : TypeSystem) : IsWrapper s "NON_NULL" .nonNull .nonNull where
  kind_mem := by decide
  wrappers_eq _ := rfl
  refOf_eq _ := rfl
  read_cut _ _ := rfl
  read_inner t bound levels := by
    obtain ⟨entries, hinner⟩ := spell_eq_map (s := s) levels t
    rw [TypeSystem.spell, hinner]
    rfl

/-- A type is read back from any number of levels that is not below that of its wrappers. -/
def ReadBack (s : TypeSystem) (t : TypeExpr) : Prop :=
  ∀ levels bound, t.wrappers ≤ levels → t.wrappers < bound →
    TypeRef.read bound (s.spell levels t) = .ok (s.refOf t)

/-- A type is refused for any number of levels that is below that of its wrappers. -/
def CutOff (s : TypeSystem) (t : TypeExpr) : Prop :=
  ∀ levels bound, levels < t.wrappers → levels < bound → ∃ kind ∈ wrapperKinds,
    TypeRef.read bound (s.spell levels t) = .error (.withoutInner kind)

section

variable {kind : String} {wrap : TypeExpr → TypeExpr} {wrapRef : TypeRef → TypeRef}

theorem IsWrapper.readBack (h : IsWrapper s kind wrap wrapRef) (ht : ReadBack s t) :
    ReadBack s (wrap t) := by
  intro levels bound hlevels hbound
  rw [h.wrappers_eq] at hlevels hbound
  obtain ⟨levels, rfl⟩ : ∃ n, levels = n + 1 := ⟨levels - 1, by omega⟩
  obtain ⟨bound, rfl⟩ : ∃ n, bound = n + 1 := ⟨bound - 1, by omega⟩
  rw [h.read_inner, ht levels bound (by omega) (by omega), h.refOf_eq]
  rfl

theorem IsWrapper.cutOff (h : IsWrapper s kind wrap wrapRef) (ht : CutOff s t) :
    CutOff s (wrap t) := by
  intro levels bound hlevels hbound
  rw [h.wrappers_eq] at hlevels
  obtain ⟨bound, rfl⟩ : ∃ n, bound = n + 1 := ⟨bound - 1, by omega⟩
  cases levels with
  | zero => exact ⟨kind, h.kind_mem, h.read_cut t bound⟩
  | succ levels =>
    obtain ⟨inner, hinner, hread⟩ := ht levels bound (by omega) (by omega)
    refine ⟨inner, hinner, ?_⟩
    rw [h.read_inner, hread]
    rfl

end

/-- A type with no more wrappers than levels are shown is read back. -/
theorem readBack (hbase : t.base ≠ "") : ReadBack s t := by
  induction t with
  | named name =>
    intro levels bound _ hbound
    obtain ⟨bound, rfl⟩ := Nat.exists_eq_add_of_lt hbound
    cases levels <;> exact TypeRef.read_named _ rfl rfl (wrapper?_kindOf s name) hbase
  | list inner ih => exact (isWrapper_list s).readBack (ih hbase)
  | nonNull inner ih => exact (isWrapper_nonNull s).readBack (ih hbase)

/-- Of a type with more wrappers than levels are shown, a wrapper has nothing inside. -/
theorem cutOff (s : TypeSystem) (t : TypeExpr) : CutOff s t := by
  induction t with
  | named name =>
    intro levels bound hlevels
    exact absurd hlevels (Nat.not_lt_zero levels)
  | list inner ih => exact (isWrapper_list s).cutOff ih
  | nonNull inner ih => exact (isWrapper_nonNull s).cutOff ih

end SchemaSheets
