import SchemaSheets.Proofs.Generate.Account

/-!
# Runs that generate all sheets

A run makes the sheet of every object and then checks the sheets against each
other.  Whether it returns depends on the objects only
(`generateAll_succeeds_iff`).  The names that the sheets are checked against are
their own slugs, so what a run returns and reports is said of the sheets alone
(`generateAll_eq_ok_iff`).
-/

namespace SchemaSheets.Sheet

open Steps

variable {mode : IntegrityMode} {objects : List SourceObject} {overrides : List SheetOverride}
  {made : List (Sheet × List Note)} {stay : List Sheet} {s s' : Session}

/-- The check comes after all sheets are made, and it never fails. -/
theorem from_generateAll (mode : IntegrityMode) (objects : List SourceObject)
    (overrides : List SheetOverride) (s : Session) :
    Run.from_ s (generateAll mode objects overrides) =
      match Run.from_ s (candidates overrides objects) with
      | (.ok sheets, s₁) =>
        let outcome := Integrity.run mode (objects.filterMap (·.name.text?)) sheets
        (.ok outcome.1, s₁.noted (outcome.2.map Integrity.Drop.note))
      | (.error e, s₁) => (.error e, s₁) := by
  rw [generateAll, Run.from_bind]
  match Run.from_ s (candidates overrides objects) with
  | (.ok sheets, s₁) => exact Integrity.check_keeps mode _ sheets s₁
  | (.error e, s₁) => rfl

/-- The names of objects are the slugs of their sheets. -/
theorem names_eq_slugs (h : objects.mapM (account overrides) = .ok made) :
    objects.filterMap (·.name.text?) = Integrity.slugs (made.map Prod.fst) := by
  rw [mapM_eq_ok_iff] at h
  induction h with
  | nil => rfl
  | @cons o p rest made ho _ ih =>
    have hname : o.name.text? = some p.1.slug := by
      rw [name_of_account ho]
      rfl
    simp only [List.filterMap_cons, hname, ih]
    rfl

theorem generateAll_eq_ok_iff :
    Run.from_ s (generateAll mode objects overrides) = (.ok stay, s') ↔
      ∃ made, objects.mapM (account overrides) = .ok made ∧
        let sheets := made.map Prod.fst
        let outcome := Integrity.run mode (Integrity.slugs sheets) sheets
        outcome.1 = stay ∧
          s.noted (made.flatMap Prod.snd ++ outcome.2.map Integrity.Drop.note) = s' := by
  rw [(generateAll_keeps mode objects overrides).from_eq_ok_iff]
  simp only [map_eq_ok_iff]
  constructor
  · rintro ⟨notes, ⟨made, hmade, he⟩, rfl⟩
    rw [names_eq_slugs hmade] at he
    cases he
    exact ⟨made, hmade, rfl, rfl⟩
  · rintro ⟨made, hmade, rfl, rfl⟩
    refine ⟨_, ⟨made, hmade, ?_⟩, rfl⟩
    rw [names_eq_slugs hmade]

/-- A run returns exactly if there is a sheet of every object. -/
theorem generateAll_succeeds_iff :
    (∃ stay s', Run.from_ s (generateAll mode objects overrides) = (.ok stay, s')) ↔
      ∀ o ∈ objects, o.Usable := by
  have hmade : (∃ made, objects.mapM (account overrides) = .ok made) ↔ ∀ o ∈ objects, o.Usable := by
    simp only [exists_mapM_eq_ok_iff, account_succeeds_iff]
  rw [← hmade]
  simp only [generateAll_eq_ok_iff]
  constructor
  · rintro ⟨stay, s', made, hm, -⟩
    exact ⟨made, hm⟩
  · rintro ⟨made, hm⟩
    exact ⟨_, _, made, hm, rfl, rfl⟩

end SchemaSheets.Sheet
