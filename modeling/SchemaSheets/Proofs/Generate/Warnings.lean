import SchemaSheets.Proofs.Generate.Conservation
import SchemaSheets.Proofs.Integrity.Greatest

/-!
# Warnings in the log and in the collector

A warning is said twice: the log has its message, and the collector, if there is
one, has its diagnostic.  The two agree in every run, in one that fails up to the
failure.  In a run that returns the warnings are those on the skipped fields,
object by object, and then those on the dropped sheets, pass by pass.
-/

namespace SchemaSheets

open Run Steps

namespace Integrity

/-- One pass over the sheets in the `universe` mode, and in the `survivors` mode passes until one
drops nothing. -/
def Checks (mode : IntegrityMode) (known : List String) (sheets stay : List Sheet)
    (drops : List Drop) : Prop :=
  match mode with
  | .universe => stay = kept known sheets ∧ drops = dropped known sheets
  | .survivors => ∃ n, Passes known sheets n stay drops

theorem checks_run (mode : IntegrityMode) (known : List String) (sheets : List Sheet) :
    Checks mode known sheets (run mode known sheets).1 (run mode known sheets).2 := by
  match mode with
  | .universe => exact ⟨rfl, rfl⟩
  | .survivors => exact exists_passes known sheets

theorem filter_warning_drops (drops : List Drop) :
    (drops.map Drop.diagnostic).filter (·.severity == .warning) = drops.map Drop.diagnostic := by
  rw [List.filter_eq_self]
  intro d hd
  obtain ⟨drop, -, rfl⟩ := List.mem_map.1 hd
  rfl

end Integrity

namespace Sheet

theorem generateAll_uniform (mode : IntegrityMode) (objects : List SourceObject)
    (overrides : List SheetOverride) :
    Uniform Note.Mirrored (generateAll mode objects overrides) := by
  have hcandidates : Uniform Note.Mirrored (candidates overrides objects) :=
    (candidates_uniform overrides objects).mono fun _ h => h.mirrored
  refine hcandidates.bind fun sheets => ?_
  have hcheck := Integrity.check_keeps mode (objects.filterMap (·.name.text?)) sheets
  refine hcheck.uniform fun n hn => ?_
  obtain ⟨drop, -, rfl⟩ := List.mem_map.1 hn
  exact rfl

variable {mode : IntegrityMode} {objects : List SourceObject} {overrides : List SheetOverride}
  {stay : List Sheet} {notes : List Note}

/-- The warnings of a run that returns. -/
theorem warnings_of_generateAll (ho : ∀ o ∈ objects, ∀ f ∈ o.fields, f.HasType)
    (h : ∀ s, from_ s (generateAll mode objects overrides) = (.ok stay, s.noted notes)) :
    ∃ sheets drops,
      List.Forall₂ (MadeFrom overrides) objects sheets ∧
      Integrity.Checks mode (Integrity.slugs sheets) sheets stay drops ∧
      (notes.map Note.diagnostic).filter (·.severity == .warning) =
        objects.flatMap (·.skipNotices) ++ drops.map Integrity.Drop.diagnostic := by
  -- a session in which somebody collects shows all diagnostics of the run
  obtain ⟨made, hmade, rfl, hnoted⟩ := generateAll_eq_ok_iff.1 (h { collector := some {} })
  have hnotices := (accountsFor_of_fields ho hmade).2
  have hcollector := congrArg Session.collector hnoted
  simp only [Session.collector_noted, Option.map_some, List.nil_append, Option.some.injEq,
    Diagnostics.mk.injEq, List.map_append, hnotices, List.map_map] at hcollector
  refine ⟨made.map Prod.fst, _, forall₂_madeFrom hmade, Integrity.checks_run mode _ _, ?_⟩
  rw [← hcollector, List.filter_append, SourceObject.filter_warning_all]
  exact congrArg _ (Integrity.filter_warning_drops _)

/-- Whatever the objects are, a run ends in one way and adds the same records to the log, whether
somebody collects or not.  All of them are warnings, and their messages are those of the warnings
that it collects.  These are on the skipped fields, object by object, and then on the sheets that
the passes of the check drop. -/
theorem generateAll_logs_warnings (mode : IntegrityMode) (objects : List SourceObject)
    (overrides : List SheetOverride) :
    ∃ (outcome : Except Failure (List Sheet)) (records : List LogRecord)
      (added : List Diagnostic),
      (∀ s : Session, from_ s (generateAll mode objects overrides) =
        (outcome, { s with
          collector := s.collector.map fun c => ⟨c.items ++ added⟩
          log := s.log ++ records })) ∧
      (∀ r ∈ records, r.level = .warning) ∧
      records.map (·.message) = (added.filter (·.severity == .warning)).map (·.message) ∧
      ((∃ stay, outcome = .ok stay) ↔ ∀ o ∈ objects, o.Usable) ∧
      ∀ stay, outcome = .ok stay → (∀ o ∈ objects, ∀ f ∈ o.fields, f.HasType) →
        ∃ sheets drops,
          List.Forall₂ (MadeFrom overrides) objects sheets ∧
          Integrity.Checks mode (Integrity.slugs sheets) sheets stay drops ∧
          added.filter (·.severity == .warning) =
            objects.flatMap (·.skipNotices) ++ drops.map Integrity.Drop.diagnostic := by
  obtain ⟨outcome, notes, hrun, hmirrored⟩ := generateAll_uniform mode objects overrides
  have hreturns : (∃ stay, outcome = .ok stay) ↔ ∀ o ∈ objects, o.Usable := by
    have hsucceeds : (∃ stay s', from_ {} (generateAll mode objects overrides) = (.ok stay, s')) ↔
        ∀ o ∈ objects, o.Usable := generateAll_succeeds_iff
    rw [← hsucceeds, hrun]
    simp
  refine ⟨outcome, notes.filterMap Note.record?, notes.map Note.diagnostic, hrun, ?_, ?_,
    hreturns, ?_⟩
  · intro r hr
    exact Note.level_of_mem_records hr
  · exact Note.messages_of_mirrored hmirrored
  · rintro stay rfl ho
    exact warnings_of_generateAll ho hrun

/-- Fields of an enumeration and of a union, and an act that loses its cast when the cast, which
comes after it, loses a hall. -/
def ensemble : List SourceObject :=
  [{ name := .str "Act"
     fields := [
      { name := .str "cast", type := .nonNull (.object (.str "Cast")) },
      { name := .str "mood", type := .other "ENUM" (.str "Mood") }] },
   { name := .str "Cast"
     fields := [{ name := .str "hall", type := .object (.str "Hall") }] },
   { name := .str "Scene"
     fields := [{ name := .str "kind", type := .nonNull (.other "UNION" (.str "Kind")) }] }]

/-- The skipped fields come first, and the cast is dropped a pass before the act. -/
theorem generateAll_logs_warnings_of_ensemble :
    ∃ stay s₁ s₂ sheets drops,
      from_ {} (generateAll .survivors ensemble []) = (.ok stay, s₁) ∧
      from_ { collector := some {} } (generateAll .survivors ensemble []) = (.ok stay, s₂) ∧
      s₁.log.map (·.message) =
        ["Field 'mood' on 'Act' skipped because 'ENUM' is unsupported.",
          "Field 'kind' on 'Scene' skipped because 'UNION' is unsupported.",
          "Sheet 'Cast' dropped because it references unknown sheet(s): Hall.",
          "Sheet 'Act' dropped because it references unknown sheet(s): Cast."] ∧
      s₂.log = s₁.log ∧
      s₂.collector.map (fun c => (c.items.filter (·.severity == .warning)).map (·.message)) =
        some (s₁.log.map (·.message)) ∧
      Integrity.Checks .survivors (Integrity.slugs sheets) sheets stay drops ∧
      (ensemble.flatMap (·.skipNotices) ++ drops.map Integrity.Drop.diagnostic).map (·.message) =
        s₁.log.map (·.message) := by
  have hmessages : (from_ {} (generateAll .survivors ensemble [])).2.log.map (·.message) =
      ["Field 'mood' on 'Act' skipped because 'ENUM' is unsupported.",
        "Field 'kind' on 'Scene' skipped because 'UNION' is unsupported.",
        "Sheet 'Cast' dropped because it references unknown sheet(s): Hall.",
        "Sheet 'Act' dropped because it references unknown sheet(s): Cast."] := by
    decide +kernel
  have hok : (from_ {} (generateAll .survivors ensemble [])).1.toOption.isSome = true := by
    decide +kernel
  have htypes : ∀ o ∈ ensemble, ∀ f ∈ o.fields, f.HasType := by
    simp [ensemble, SourceField.HasType, TypeRef.core]
  obtain ⟨outcome, records, added, hrun, -, hadded, -, horder⟩ :=
    generateAll_logs_warnings .survivors ensemble []
  rw [hrun {}] at hmessages hok
  obtain ⟨stay, hstay⟩ := Option.isSome_iff_exists.1 hok
  have houtcome : outcome = .ok stay := eq_ok_of_toOption hstay
  obtain ⟨sheets, drops, -, hchecks, hwarnings⟩ := horder stay houtcome htypes
  rw [houtcome] at hrun
  rw [hwarnings] at hadded
  refine ⟨stay, _, _, sheets, drops, hrun {}, hrun { collector := some {} }, hmessages, rfl, ?_,
    hchecks, hadded.symm⟩
  simp [hwarnings, hadded]

end Sheet

end SchemaSheets
