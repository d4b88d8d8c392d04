import SchemaSheets.Proofs.Generate.Causes
import SchemaSheets.Proofs.Integrity.Comparison

/-!
# No field is lost

Every field of a source object becomes a column of its sheet or is reported.
A field is reported if the type under its non-null wrappers is of a kind that no
column is made from; the other fields become columns in their order, and if none
of them is named `id` the identity field goes in front and is reported too.  So
the columns and the reports of skipped fields are together as many as the fields
and the added identity fields.
-/

namespace SchemaSheets

open Steps

/-! ### Fields that are kept and fields that are reported -/

/-- The kind of a type that no column is made from. -/
def TypeRef.unsupported? : TypeRef → Option String
  | other kind _ => some kind
  | _ => none

namespace SourceField

def isKept (f : SourceField) : Bool := f.type.core.unsupported?.isNone

/-- The report that the field of an object is skipped, if it is. -/
def skipNotice? (object : Value) (f : SourceField) : Option Diagnostic :=
  f.type.core.unsupported?.map (.unsupportedField (Display.plain f.name) (Display.plain object))

/-- The field has a type at all. -/
def HasType (f : SourceField) : Prop := f.type.core ≠ .absent

/-- The field alone becomes the column, under its name and without a report. -/
def Becomes (f : SourceField) (c : Field) : Prop :=
  f.name = .str c.key ∧ ∀ s sheet, Run.from_ s (Field.generate f sheet) = (.ok (some c), s)

theorem Typed.hasType {f : SourceField} (h : f.Typed) : f.HasType := by
  intro habsent
  have hcore := h.type.core
  rw [habsent] at hcore
  exact hcore

end SourceField

namespace SourceObject

def keptFields (o : SourceObject) : List SourceField := o.fields.filter SourceField.isKept

/-- One of the fields that are kept is named like the identity field. -/
def hasId (o : SourceObject) : Bool := o.keptFields.any fun f => decide (f.name = .str idKey)

def skipNotices (o : SourceObject) : List Diagnostic :=
  o.fields.filterMap (SourceField.skipNotice? o.name)

def idNotices (o : SourceObject) : List Diagnostic :=
  if o.hasId then [] else [.idFieldAdded (Display.plain o.name)]

/-- The reports on an object: on its skipped fields in order, then on the identity field. -/
def notices (o : SourceObject) : List Diagnostic := o.skipNotices ++ o.idNotices

theorem length_keptFields (o : SourceObject) :
    o.keptFields.length + o.skipNotices.length = o.fields.length := by
  unfold keptFields skipNotices
  induction o.fields with
  | nil => rfl
  | cons f rest ih =>
    cases hf : f.type.core.unsupported? with
    | none =>
      have hkept : f.isKept = true := by simp [SourceField.isKept, hf]
      have hskip : f.skipNotice? o.name = none := by simp [SourceField.skipNotice?, hf]
      rw [List.filter_cons_of_pos hkept, List.filterMap_cons_none hskip, List.length_cons,
        List.length_cons]
      omega
    | some kind =>
      have hkept : ¬f.isKept = true := by simp [SourceField.isKept, hf]
      obtain ⟨d, hskip⟩ : ∃ d, f.skipNotice? o.name = some d := by
        simp [SourceField.skipNotice?, hf]
      rw [List.filter_cons_of_neg hkept, List.filterMap_cons_some hskip, List.length_cons,
        List.length_cons]
      omega

theorem not_isDrop_of_mem_notices {o : SourceObject} {d : Diagnostic} (h : d ∈ o.notices) :
    ¬d.IsDrop := by
  rcases List.mem_append.1 h with h | h
  · obtain ⟨f, -, hf⟩ := List.mem_filterMap.1 h
    obtain ⟨kind, -, rfl⟩ := Option.map_eq_some_iff.1 hf
    exact fun h => nomatch h
  · unfold idNotices at h
    split at h
    · cases h
    · cases List.mem_singleton.1 h
      exact fun h => nomatch h

/-- The warnings on an object are those on its skipped fields. -/
theorem filter_warning_notices (o : SourceObject) :
    o.notices.filter (·.severity == .warning) = o.skipNotices := by
  have hskip : o.skipNotices.filter (·.severity == .warning) = o.skipNotices := by
    rw [List.filter_eq_self]
    intro d hd
    obtain ⟨f, -, hf⟩ := List.mem_filterMap.1 hd
    obtain ⟨kind, -, rfl⟩ := Option.map_eq_some_iff.1 hf
    rfl
  have hid : o.idNotices.filter (·.severity == .warning) = [] := by
    unfold idNotices
    cases o.hasId <;> rfl
  rw [notices, List.filter_append, hskip, hid, List.append_nil]

theorem filter_warning_all (objects : List SourceObject) :
    (objects.flatMap (·.notices)).filter (·.severity == .warning) =
      objects.flatMap (·.skipNotices) := by
  simp only [List.filter_flatMap, filter_warning_notices]

end SourceObject

/-! ### What becomes of a field -/

namespace Field

variable {f : SourceField} {sheet : Value} {c : Field} {out : Outcome} {p : Option Field × List Note}

@[simp] theorem key_require (c : Field) : c.require.key = c.key := by
  unfold require
  split <;> rfl

def Outcome.unsupported? : Outcome → Option String
  | column _ => none
  | unsupported kind => some kind

theorem key_of_ofCore {t : TypeRef} (h : ofCore f t = .ok (.column c)) : f.name = .str c.key := by
  obtain ⟨-, h⟩ := ofCore_eq_ok_iff.1 h
  cases t with
  | scalar name =>
    obtain ⟨type, -, hcolumn⟩ := h
    exact hcolumn.key
  | object name =>
    obtain ⟨n, -, hcolumn⟩ := h
    exact hcolumn.key
  | list inner => exact h.key
  | _ => cases h

theorem unsupported_of_ofCore {t : TypeRef} (ht : t.core ≠ .absent) (h : ofCore f t.core = .ok out) :
    out.unsupported? = t.core.unsupported? := by
  obtain ⟨-, h⟩ := ofCore_eq_ok_iff.1 h
  cases hcore : t.core with
  | scalar name =>
    rw [hcore] at h
    obtain ⟨type, -, ⟨-, -⟩⟩ := h
    rfl
  | object name =>
    rw [hcore] at h
    obtain ⟨n, -, ⟨-, -⟩⟩ := h
    rfl
  | list inner =>
    rw [hcore] at h
    obtain ⟨-, -⟩ := h
    rfl
  | other kind name =>
    rw [hcore] at h
    cases h
    rfl
  | nonNull inner => exact absurd hcore t.core_ne_nonNull
  | absent => exact absurd hcore ht

theorem key_of_ofType {t : TypeRef} (h : ofType f t = .ok (.column c)) : f.name = .str c.key := by
  obtain ⟨bare, hbare, hc⟩ := ofType_eq_ok_iff.1 h
  cases bare with
  | column c' =>
    rw [key_of_ofCore hbare]
    split at hc
    · cases hc
      rw [key_require]
    · cases hc
      rfl
  | unsupported kind => split at hc <;> cases hc

theorem unsupported_of_ofType {t : TypeRef} (ht : t.core ≠ .absent) (h : ofType f t = .ok out) :
    out.unsupported? = t.core.unsupported? := by
  obtain ⟨bare, hbare, rfl⟩ := ofType_eq_ok_iff.1 h
  rw [← unsupported_of_ofCore ht hbare]
  cases t.isNonNull <;> cases bare <;> rfl

/-- A field with a type is either kept and becomes its column, or skipped and reported. -/
theorem account_kept_or_skipped (hf : f.HasType) (h : account sheet f = .ok p) :
    (f.isKept = true ∧ f.skipNotice? sheet = none ∧ ∃ c, f.Becomes c ∧ p = (some c, [])) ∨
      (f.isKept = false ∧ ∃ d, f.skipNotice? sheet = some d ∧ p = (none, [.warned .fields d])) := by
  obtain ⟨out, hout, rfl⟩ := account_eq_ok_iff.1 h
  have hkind := unsupported_of_ofType hf hout
  cases out with
  | column c =>
    refine .inl ⟨?_, ?_, c, ⟨key_of_ofType hout, fun s sheet => ?_⟩, rfl⟩
    · rw [SourceField.isKept, ← hkind]
      rfl
    · rw [SourceField.skipNotice?, ← hkind]
      rfl
    · have haccount : account sheet f = .ok (some c, []) :=
        account_eq_ok_iff.2 ⟨_, hout, rfl⟩
      simpa using (generate_keeps f sheet).from_eq_ok_iff.2 ⟨[], haccount, rfl⟩
  | unsupported kind =>
    refine .inr ⟨?_, _, ?_, rfl⟩
    · rw [SourceField.isKept, ← hkind]
      rfl
    · rw [SourceField.skipNotice?, ← hkind]
      rfl

variable {fs : List SourceField} {parts : List (Option Field × List Note)}

theorem columns_of_accounts (hfs : ∀ f ∈ fs, f.HasType)
    (h : fs.mapM (account sheet) = .ok parts) :
    List.Forall₂ SourceField.Becomes (fs.filter SourceField.isKept) (parts.filterMap Prod.fst) := by
  rw [mapM_eq_ok_iff] at h
  induction h with
  | nil => exact .nil
  | @cons f p rest parts hp _ ih =>
    have hrest := ih fun g hg => hfs g (.tail f hg)
    rcases account_kept_or_skipped (hfs f (.head rest)) hp with
      ⟨hkept, -, c, hc, rfl⟩ | ⟨hkept, d, -, rfl⟩
    · rw [List.filter_cons_of_pos hkept]
      exact .cons hc hrest
    · rw [List.filter_cons_of_neg (by simp [hkept])]
      exact hrest

theorem notices_of_accounts (hfs : ∀ f ∈ fs, f.HasType)
    (h : fs.mapM (account sheet) = .ok parts) :
    (parts.flatMap Prod.snd).map Note.diagnostic = fs.filterMap (SourceField.skipNotice? sheet) := by
  rw [mapM_eq_ok_iff] at h
  induction h with
  | nil => rfl
  | @cons f p rest parts hp _ ih =>
    have hrest := ih fun g hg => hfs g (.tail f hg)
    rw [List.flatMap_cons, List.map_append, hrest]
    rcases account_kept_or_skipped (hfs f (.head rest)) hp with
      ⟨-, hnotice, c, -, rfl⟩ | ⟨-, d, hnotice, rfl⟩
    · rw [List.filterMap_cons_none hnotice]
      rfl
    · rw [List.filterMap_cons_some hnotice]
      rfl

end Field

/-! ### What becomes of an object -/

namespace Sheet

/-- The sheet has the columns of the object's kept fields in order, after the identity field if that
was missing; with the reports of skipped fields they are as many as they should be. -/
structure AccountsFor (o : SourceObject) (t : Sheet) : Prop where
  name : o.name = .str t.slug
  columns : ∃ columns, List.Forall₂ SourceField.Becomes o.keptFields columns ∧
    t.fields = if o.hasId then columns else idField :: columns
  count : t.fields.length + o.skipNotices.length = o.fields.length + o.idNotices.length

variable {overrides : List SheetOverride} {o : SourceObject} {t : Sheet} {notes : List Note}

theorem any_key_eq_hasId {columns : List Field}
    (h : List.Forall₂ SourceField.Becomes o.keptFields columns) :
    columns.any (·.key == idKey) = o.hasId := by
  unfold SourceObject.hasId
  generalize o.keptFields = fs at h
  induction h with
  | nil => rfl
  | cons hc _ ih =>
    rw [List.any_cons, List.any_cons, ih, hc.1]
    simp [beq_eq_decide]

/-- The sheet in the making that a sheet is built from, with all that is noted on the way. -/
theorem exists_builder_of_account (h : account overrides o = .ok (t, notes)) :
    ∃ parts b, o.fields.mapM (Field.account o.name) = .ok parts ∧
      SheetBuilder.slug b = t.slug ∧ b.fields = parts.filterMap Prod.fst ∧
      t.fields = b.ensureId.2.fields ∧ notes = parts.flatMap Prod.snd ++ b.idNotes := by
  obtain ⟨slug, -, parts, hparts, b, rfl, t', ht, hp⟩ := account_eq_ok_iff.1 h
  obtain ⟨d, -, rfl⟩ := SheetBuilder.build_eq_ok_iff.1 ht
  cases hp
  exact ⟨parts, _, hparts, by simp, by simp [SheetBuilder.ofSlug], rfl, rfl⟩

theorem accountsFor_of_account (ho : ∀ f ∈ o.fields, f.HasType)
    (h : account overrides o = .ok (t, notes)) :
    AccountsFor o t ∧ notes.map Note.diagnostic = o.notices := by
  have hname := name_of_account h
  obtain ⟨parts, b, hparts, hslug, hb, ht, rfl⟩ := exists_builder_of_account h
  have hcolumns := Field.columns_of_accounts ho hparts
  have hid : b.hasId = o.hasId := by
    rw [SheetBuilder.hasId, hb]
    exact any_key_eq_hasId hcolumns
  have hfields : t.fields =
      if o.hasId then parts.filterMap Prod.fst else idField :: parts.filterMap Prod.fst := by
    rw [ht, ← hid, SheetBuilder.ensureId]
    cases b.hasId <;> simp [hb]
  have hidNotices : b.idNotes.map Note.diagnostic = o.idNotices := by
    rw [SheetBuilder.idNotes, SourceObject.idNotices, hid, hname, hslug]
    cases o.hasId <;> rfl
  refine ⟨⟨hname, ⟨_, hcolumns, hfields⟩, ?_⟩, ?_⟩
  · have hkept := o.length_keptFields
    have hlength : o.keptFields.length = (parts.filterMap Prod.fst).length := hcolumns.length_eq
    rw [hfields, SourceObject.idNotices, ← hkept, hlength]
    cases o.hasId with
    | true => simp
    | false =>
      simp only [Bool.false_eq_true, if_false, List.length_cons, List.length_nil]
      omega
  · rw [List.map_append, Field.notices_of_accounts ho hparts, hidNotices]
    rfl

theorem accountsFor_of_fields {objects : List SourceObject} {made : List (Sheet × List Note)}
    (ho : ∀ o ∈ objects, ∀ f ∈ o.fields, f.HasType) (h : objects.mapM (account overrides) = .ok made) :
    List.Forall₂ AccountsFor objects (made.map Prod.fst) ∧
      (made.flatMap Prod.snd).map Note.diagnostic = objects.flatMap (·.notices) := by
  rw [mapM_eq_ok_iff] at h
  induction h with
  | nil => exact ⟨.nil, rfl⟩
  | @cons o p rest made hp _ ih =>
    obtain ⟨hsheets, hnotices⟩ := ih fun q hq => ho q (.tail o hq)
    obtain ⟨hsheet, hnotice⟩ := accountsFor_of_account (ho o (.head rest)) hp
    refine ⟨.cons hsheet hsheets, ?_⟩
    rw [List.flatMap_cons, List.map_append, hnotice, hnotices, List.flatMap_cons]

theorem accountsFor_of_accounts {objects : List SourceObject} {made : List (Sheet × List Note)}
    (ho : ∀ o ∈ objects, o.Typed) (h : objects.mapM (account overrides) = .ok made) :
    List.Forall₂ AccountsFor objects (made.map Prod.fst) ∧
      (made.flatMap Prod.snd).map Note.diagnostic = objects.flatMap (·.notices) :=
  accountsFor_of_fields (fun o h f hf => ((ho o h).fields f hf).hasType) h

/-- From objects whose parts are typed, a run returns, with and without a collector.  Making the
sheets reports just what the objects say, in their order and before all drops, and every sheet
accounts for the fields of its object. -/
theorem generateAll_accounts_for_fields (mode : IntegrityMode) {objects : List SourceObject}
    (h : ∀ o ∈ objects, o.Typed) (overrides : List SheetOverride) :
    ∃ sheets stay drops,
      List.Forall₂ AccountsFor objects sheets ∧ stay.Sublist sheets ∧
      (∀ s, ∃ s', Run.from_ s (candidates overrides objects) = (.ok sheets, s') ∧
        s'.collector = s.collector.map fun c => ⟨c.items ++ objects.flatMap (·.notices)⟩) ∧
      (∀ s, ∃ s', Run.from_ s (generateAll mode objects overrides) = (.ok stay, s') ∧
        s'.collector = s.collector.map fun c =>
          ⟨c.items ++ objects.flatMap (·.notices) ++ drops⟩) ∧
      (∀ d ∈ objects.flatMap (·.notices), ¬d.IsDrop) ∧ ∀ d ∈ drops, d.IsDrop := by
  obtain ⟨made, hmade⟩ : ∃ made, objects.mapM (account overrides) = .ok made :=
    exists_mapM_eq_ok_iff.2 fun o ho => account_succeeds_iff.2 (h o ho).usable
  obtain ⟨hsheets, hnotices⟩ := accountsFor_of_accounts h hmade
  let outcome := Integrity.run mode (Integrity.slugs (made.map Prod.fst)) (made.map Prod.fst)
  refine ⟨made.map Prod.fst, outcome.1, outcome.2.map Integrity.Drop.diagnostic, hsheets,
    Integrity.run_sublist mode _ _, fun s => ⟨s.noted (made.flatMap Prod.snd), ?_, ?_⟩,
    fun s => ?_, ?_, ?_⟩
  · refine (candidates_keeps overrides objects).from_eq_ok_iff.2 ⟨_, ?_, rfl⟩
    rw [hmade]
    rfl
  · rw [Session.collector_noted, hnotices]
  · refine ⟨_, generateAll_eq_ok_iff.2 ⟨made, hmade, rfl, rfl⟩, ?_⟩
    rw [Session.collector_noted, List.map_append, hnotices, List.map_map]
    simp only [List.append_assoc]
    rfl
  · intro d hd
    obtain ⟨o, -, ho⟩ := List.mem_flatMap.1 hd
    exact SourceObject.not_isDrop_of_mem_notices ho
  · intro d hd
    obtain ⟨drop, -, rfl⟩ := List.mem_map.1 hd
    rfl

/-- An object whose own identity field is of a kind that no column is made from, and one with an
identity field that stays where it is. -/
def mixed : List SourceObject :=
  [{ name := .str "Movie"
     fields := [
      { name := .str "id", type := .nonNull (.nonNull (.other "UNION" (.str "Key"))) },
      { name := .str "tags", type := .list (.other "ENUM" (.str "Tag")) },
      { name := .str "kind", type := .other "ENUM" (.str "Kind") }] },
   { name := .str "Person"
     fields := [
      { name := .str "name", type := .scalar (.str "String") },
      { name := .str "id", type := .nonNull (.scalar (.str "ID")) }] }]

theorem generateAll_accounts_for_mixed :
    (∀ o ∈ mixed, o.Typed) ∧
      ∃ sheets stay drops,
        List.Forall₂ AccountsFor mixed sheets ∧ stay.Sublist sheets ∧
        (∃ s', Run.from_ {} (generateAll .survivors mixed []) = (.ok stay, s')) ∧
        ∃ s', Run.from_ { collector := some {} } (generateAll .survivors mixed []) =
            (.ok stay, s') ∧
          s'.collector = some ⟨[.unsupportedField "id" "Movie" "UNION",
            .unsupportedField "kind" "Movie" "ENUM", .idFieldAdded "Movie"] ++ drops⟩ := by
  have htyped : ∀ o ∈ mixed, o.Typed := by
    simp only [mixed, List.forall_mem_cons, List.not_mem_nil, false_implies, implies_true, and_true]
    refine ⟨⟨⟨_, rfl⟩, ⟨_, rfl⟩, ?_⟩, ⟨⟨_, rfl⟩, ⟨_, rfl⟩, ?_⟩⟩ <;>
      simp only [List.forall_mem_cons, List.not_mem_nil, false_implies, implies_true, and_true]
    · exact ⟨⟨⟨_, rfl⟩, ⟨_, rfl⟩, trivial⟩, ⟨⟨_, rfl⟩, ⟨_, rfl⟩, trivial⟩,
        ⟨_, rfl⟩, ⟨_, rfl⟩, trivial⟩
    · exact ⟨⟨⟨_, rfl⟩, ⟨_, rfl⟩, _, rfl⟩, ⟨_, rfl⟩, ⟨_, rfl⟩, _, rfl⟩
  obtain ⟨sheets, stay, drops, hsheets, hstay, -, hruns, -, -⟩ :=
    generateAll_accounts_for_fields .survivors htyped []
  obtain ⟨s₁, hrun₁, -⟩ := hruns {}
  obtain ⟨s₂, hrun₂, hcollector⟩ := hruns { collector := some {} }
  exact ⟨htyped, sheets, stay, drops, hsheets, hstay, ⟨s₁, hrun₁⟩, s₂, hrun₂, hcollector⟩

end Sheet

end SchemaSheets
