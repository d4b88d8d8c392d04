import SchemaSheets.Proofs.Steps
import SchemaSheets.Source.TypeRef

/-!
# Depth of type references

A reference is read wrapper by wrapper, each of them one level further down, and
no level lies below the deepest one.  So what is read has no more wrappers than
levels are left, and a reference that is spelled out is read back as it is
exactly if its wrappers fit into these levels.
-/

namespace SchemaSheets

open Steps

/-- The fault is one of a type reference. -/
def Malformed.OfReference : Malformed → Prop
  | nestsTooDeep limit => limit = TypeRef.maxWrappers
  | notAReference _ => True
  | withoutInner kind => kind = "NON_NULL" ∨ kind = "LIST"
  | withoutName kind => kind = "SCALAR" ∨ kind = "OBJECT"
  | _ => False

namespace TypeRef

variable {t : TypeRef} {levels : Nat} {data : Value}

/-! ### Kinds -/

theorem wrapper?_eq_some {kind : Value} {name : String} {wrap : TypeRef → TypeRef}
    (h : wrapper? kind = some (name, wrap)) :
    name = "NON_NULL" ∧ wrap = nonNull ∨ name = "LIST" ∧ wrap = list := by
  unfold wrapper? at h
  split at h
  · cases h
    exact .inl ⟨rfl, rfl⟩
  · cases h
    exact .inr ⟨rfl, rfl⟩
  · cases h

theorem named?_eq_some {kind : Value} {name : String} {build : Value → TypeRef}
    (h : named? kind = some (name, build)) :
    name = "SCALAR" ∧ build = scalar ∨ name = "OBJECT" ∧ build = object := by
  unfold named? at h
  split at h
  · cases h
    exact .inl ⟨rfl, rfl⟩
  · cases h
    exact .inr ⟨rfl, rfl⟩
  · cases h

/-- The kinds that say more than which kind they are. -/
def kinds : List String := ["NON_NULL", "LIST", "SCALAR", "OBJECT"]

theorem wrapper?_eq_none {kind : String} (h : kind ∉ kinds) : wrapper? (.str kind) = none := by
  unfold wrapper?
  split <;> simp_all [kinds]

theorem named?_eq_none {kind : String} (h : kind ∉ kinds) : named? (.str kind) = none := by
  unfold named?
  split <;> simp_all [kinds]

/-! ### One level -/

/-- What becomes of one level: it is refused, or it is a named type, or it is a wrapper and the rest
is read one level further down. -/
inductive Level (levels : Nat) : Except Malformed TypeRef → Prop
  | refused {m : Malformed} (h : m.OfReference) : Level levels (.error m)
  | named {t : TypeRef} (hbare : t.wrappers = 0) (hthere : t ≠ absent) : Level levels (.ok t)
  | wrapped {wrap : TypeRef → TypeRef} (hwrap : wrap = nonNull ∨ wrap = list) {inner : Value}
      {r : Except Malformed TypeRef} (h : (read levels inner).map wrap = r) : Level levels r

theorem level_read (levels : Nat) (data : Value) : Level levels (read (levels + 1) data) := by
  cases data with
  | map entries =>
    simp only [read]
    split
    next => exact .refused trivial
    next kind hkind =>
      split
      next name wrap hwrapper =>
        have hwrap := wrapper?_eq_some hwrapper
        split
        next => exact .refused (hwrap.imp And.left And.left)
        next => exact .wrapped (hwrap.imp And.right And.right) rfl
      next =>
        split
        next name build hnamed =>
          have hbuild := named?_eq_some hnamed
          split
          · rcases hbuild with ⟨-, rfl⟩ | ⟨-, rfl⟩ <;> exact .named rfl nofun
          · exact .refused (hbuild.imp And.left And.left)
        next => exact .named rfl nofun
  | _ => exact .refused trivial

/-! ### All levels -/

theorem wrappers_lt_of_read (h : read levels data = .ok t) : t.wrappers < levels := by
  induction levels generalizing data t with
  | zero => cases h
  | succ levels ih =>
    have hlevel := level_read levels data
    rw [h] at hlevel
    cases hlevel with
    | named hbare => omega
    | wrapped hwrap hinner =>
      obtain ⟨u, hu, rfl⟩ := map_eq_ok_iff.1 hinner
      have hlt : u.wrappers < levels := ih hu
      rcases hwrap with rfl | rfl <;> simp only [wrappers] <;> omega

theorem ofReference_of_read {m : Malformed} (h : read levels data = .error m) : m.OfReference := by
  induction levels generalizing data with
  | zero =>
    cases h
    rfl
  | succ levels ih =>
    have hlevel := level_read levels data
    rw [h] at hlevel
    cases hlevel with
    | refused hm => exact hm
    | wrapped hwrap hinner => exact ih (map_eq_error_iff.1 hinner)

/-! ### Spelled references -/

/-- The named type has a name if columns are made from its kind, and else a kind of its own. -/
def Spellable : TypeRef → Prop
  | scalar name => name.isTruthy = true
  | object name => name.isTruthy = true
  | list inner => inner.Spellable
  | nonNull inner => inner.Spellable
  | other kind _ => kind ∉ kinds
  | absent => False

theorem toValue_ne_null (h : t.Spellable) : t.toValue ≠ .null := by
  cases t with
  | absent => exact h.elim
  | _ => simp [toValue, spelled, Value.record]

theorem read_spelled (kind : String) (name inner : Value) (levels : Nat) :
    read (levels + 1) (spelled kind name inner) =
      match wrapper? (.str kind) with
      | some (kindName, wrap) =>
        if inner = .null then .error (.withoutInner kindName) else (read levels inner).map wrap
      | none =>
        match named? (.str kind) with
        | some (kindName, build) =>
          if name.isTruthy then .ok (build name) else .error (.withoutName kindName)
        | none => .ok (.other kind name) := by
  by_cases hnull : inner = .null
  · subst hnull
    rfl
  · simp only [if_neg hnull]
    cases inner with
    | scalar s =>
      cases s with
      | null => exact absurd rfl hnull
      | _ => rfl
    | _ => rfl

theorem read_wrapper {kind : String} {wrap : TypeRef → TypeRef}
    (hkind : wrapper? (.str kind) = some (kind, wrap)) (h : t.Spellable) (levels : Nat) :
    read (levels + 1) (spelled kind .null t.toValue) = (read levels t.toValue).map wrap := by
  rw [read_spelled, hkind]
  exact if_neg (toValue_ne_null h)

theorem map_fits {wrap : TypeRef → TypeRef} (hwrap : (wrap t).wrappers = t.wrappers + 1)
    (levels : Nat) (e : Malformed) :
    (if t.wrappers < levels then Except.ok t else .error e).map wrap =
      if (wrap t).wrappers < levels + 1 then .ok (wrap t) else .error e := by
  rw [hwrap]
  by_cases hlt : t.wrappers < levels
  · rw [if_pos hlt, if_pos (Nat.succ_lt_succ hlt)]
    rfl
  · rw [if_neg hlt, if_neg (mt Nat.lt_of_succ_lt_succ hlt)]
    rfl

/-- A reference is read back from its spelling exactly if levels are left below its wrappers. -/
theorem read_toValue (h : t.Spellable) (levels : Nat) :
    read levels t.toValue =
      if t.wrappers < levels then .ok t else .error (.nestsTooDeep maxWrappers) := by
  induction levels generalizing t with
  | zero => rfl
  | succ levels ih =>
    cases t with
    | list inner =>
      have hinner : inner.Spellable := h
      have hkind : wrapper? (.str "LIST") = some ("LIST", list) := rfl
      rw [toValue, read_wrapper hkind hinner, ih hinner, map_fits rfl]
    | nonNull inner =>
      have hinner : inner.Spellable := h
      have hkind : wrapper? (.str "NON_NULL") = some ("NON_NULL", nonNull) := rfl
      rw [toValue, read_wrapper hkind hinner, ih hinner, map_fits rfl]
    | scalar name => exact (read_spelled "SCALAR" name .null levels).trans (if_pos h)
    | object name => exact (read_spelled "OBJECT" name .null levels).trans (if_pos h)
    | other kind name =>
      have hread := read_spelled kind name .null levels
      rw [wrapper?_eq_none h, named?_eq_none h] at hread
      exact hread
    | absent => exact h.elim

/-! ### Depth -/

theorem ofValueAt_eq_read (depth : Nat) (data : Value) :
    ofValueAt depth data = read (maxWrappers + 1 - depth) data := by
  have hlevels : ((maxWrappers : Int) + 1 - depth).toNat = maxWrappers + 1 - depth := by omega
  rw [ofValueAt, hlevels]

/-- From any depth a value is read as a reference with no more wrappers than there is room for, or a
fault of a reference is reported.  A reference is read back from its spelling if there is room for
its wrappers, and is refused as too deep otherwise. -/
theorem ofValueAt_by_depth (depth : Nat) :
    (∀ data, (∃ t, ofValueAt depth data = .ok t ∧ depth + t.wrappers ≤ maxWrappers) ∨
      ∃ m, ofValueAt depth data = .error m ∧ m.OfReference) ∧
    ∀ t : TypeRef, t.Spellable → ofValueAt depth t.toValue =
      if depth + t.wrappers ≤ maxWrappers then .ok t else .error (.nestsTooDeep maxWrappers) := by
  refine ⟨fun data => ?_, fun t h => ?_⟩
  · rw [ofValueAt_eq_read]
    cases hread : read (maxWrappers + 1 - depth) data with
    | ok t =>
      have hlt := wrappers_lt_of_read hread
      exact .inl ⟨t, rfl, by omega⟩
    | error m => exact .inr ⟨m, rfl, ofReference_of_read hread⟩
  · have hroom : t.wrappers < maxWrappers + 1 - depth ↔ depth + t.wrappers ≤ maxWrappers := by omega
    rw [ofValueAt_eq_read, read_toValue h]
    simp only [hroom]

/-- A list that is never null, of items that are never null. -/
def people : TypeRef := nonNull (list (nonNull (object (.str "Person"))))

theorem ofValueAt_by_depth_of_people :
    people.Spellable ∧ ofValueAt 29 people.toValue = .ok people ∧
      ofValueAt 30 people.toValue = .error (.nestsTooDeep 32) ∧
      (Malformed.nestsTooDeep 32).message = "Type reference nests deeper than 32 wrappers" := by
  have hspellable : people.Spellable := rfl
  obtain ⟨-, hfits⟩ := ofValueAt_by_depth 29
  obtain ⟨-, hdeep⟩ := ofValueAt_by_depth 30
  exact ⟨hspellable, hfits people hspellable, hdeep people hspellable, by decide +kernel⟩

end TypeRef

end SchemaSheets
