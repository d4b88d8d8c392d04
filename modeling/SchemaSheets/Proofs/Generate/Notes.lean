import SchemaSheets.Generate.Integrity
import SchemaSheets.Proofs.Session.Notes

/-!
# Notes on source objects

While the sheets are made, a note is either a warning on a skipped field or a
remark on an added identity field.  `candidates_uniform` says so of all runs,
those that fail included.
-/

namespace SchemaSheets

open Run

namespace Note

/-- The note is on a skipped field or on an added identity field. -/
def OnSource : Note → Prop
  | warned channel d =>
    channel = .fields ∧ d.severity = .warning ∧ d.code = .unsupportedFieldKind
  | collected d => d.severity = .info ∧ d.code = .idFieldAdded

theorem OnSource.mirrored {n : Note} (h : n.OnSource) : n.Mirrored := by
  cases n with
  | warned channel d => exact h.2.1
  | collected d =>
    have hinfo : d.severity = .info := h.1
    simp [Mirrored, hinfo]

theorem OnSource.code_ne {n : Note} (h : n.OnSource) : n.diagnostic.code ≠ .danglingReference := by
  cases n with
  | warned channel d =>
    have hcode : d.code = .unsupportedFieldKind := h.2.2
    simp [diagnostic, hcode]
  | collected d =>
    have hcode : d.code = .idFieldAdded := h.2
    simp [diagnostic, hcode]

end Note

theorem Field.generate_uniform (f : SourceField) (sheet : Value) :
    Uniform Note.OnSource (generate f sheet) := by
  refine (uniform_lift (ofType f f.type)).bind fun out => ?_
  cases out with
  | column c => exact uniform_pure _
  | unsupported kind => exact (uniform_warn _ ⟨rfl, rfl, rfl⟩).bind fun _ => uniform_pure _

namespace Sheet

theorem addFields_uniform (sheet : Value) (fs : List SourceField) (b : SheetBuilder) :
    Uniform Note.OnSource (addFields sheet fs b) := by
  induction fs generalizing b with
  | nil => exact uniform_pure b
  | cons f rest ih =>
    refine (Field.generate_uniform f sheet).bind fun column => ?_
    cases column with
    | none => exact ih b
    | some c => exact ih (b.field c)

theorem generate_uniform (o : SourceObject) (overrides : List SheetOverride) :
    Uniform Note.OnSource (generate o overrides) := by
  refine (uniform_lift_misuse (SheetBuilder.ofValue o.name)).bind fun b => ?_
  refine (addFields_uniform o.name o.fields _).bind fun b => ?_
  unfold SheetBuilder.ensureId
  cases b.hasId with
  | true => exact uniform_lift_invalid _
  | false => exact (uniform_collect ⟨rfl, rfl⟩).bind fun _ => uniform_lift_invalid _

theorem candidates_uniform (overrides : List SheetOverride) (objects : List SourceObject) :
    Uniform Note.OnSource (candidates overrides objects) := by
  induction objects with
  | nil => exact uniform_pure []
  | cons o rest ih =>
    exact (generate_uniform o overrides).bind fun t => ih.bind fun ts => uniform_pure (t :: ts)

end Sheet

end SchemaSheets
