import SchemaSheets.Generate.Integrity
import SchemaSheets.Proofs.Generate.Field
import SchemaSheets.Proofs.Integrity.Rounds

/-!
# Accounts of generated sheets

What becomes of a source field, of a source object and of a list of them, with
no session in it.  `Sheet.generateAll_keeps` says that generating all sheets and
checking them keeps to its account.
-/

namespace SchemaSheets

open Run Steps

/-! ### Fields -/

namespace Field

def Outcome.notes (f : SourceField) (sheet : Value) : Outcome → List Note
  | column _ => []
  | unsupported kind =>
    [.warned .fields (.unsupportedField (Display.plain f.name) (Display.plain sheet) kind)]

/-- The column of a source field, or the note that there is none. -/
def account (sheet : Value) (f : SourceField) : Except Failure (Option Field × List Note) :=
  (ofType f f.type).map fun out => (out.column?, out.notes f sheet)

theorem generate_keeps (f : SourceField) (sheet : Value) :
    Keeps (generate f sheet) (account sheet f) := by
  have haccount : account sheet f = Account.andThen ((ofType f f.type).map fun out => (out, []))
      fun out => .ok (out.column?, out.notes f sheet) := by
    rw [account]
    cases ofType f f.type <;> rfl
  rw [haccount]
  refine (keeps_lift (ofType f f.type)).bind fun out => ?_
  cases out with
  | column c => exact keeps_pure (some c)
  | unsupported kind => exact (keeps_warn _ _).bind fun _ => keeps_pure none

theorem account_eq_ok_iff {sheet : Value} {f : SourceField} {p : Option Field × List Note} :
    account sheet f = .ok p ↔
      ∃ out, ofType f f.type = .ok out ∧ (out.column?, out.notes f sheet) = p := map_eq_ok_iff

theorem target_of_account {sheet : Value} {f : SourceField} {p : Option Field × List Note}
    (h : account sheet f = .ok p) : p.1.bind target? = f.type.core.target? := by
  obtain ⟨out, hout, rfl⟩ := account_eq_ok_iff.1 h
  exact target_of_ofType hout

theorem targets_of_accounts {sheet : Value} {fs : List SourceField}
    {parts : List (Option Field × List Note)} (h : fs.mapM (account sheet) = .ok parts) :
    (parts.filterMap Prod.fst).filterMap target? = fs.filterMap fun f => f.type.core.target? := by
  rw [List.filterMap_filterMap]
  rw [mapM_eq_ok_iff] at h
  induction h with
  | nil => rfl
  | cons hf _ ih => rw [List.filterMap_cons, List.filterMap_cons, target_of_account hf, ih]

theorem account_succeeds_iff {sheet : Value} {f : SourceField} :
    (∃ p, account sheet f = .ok p) ↔ f.Usable := by
  rw [← ofType_succeeds_iff]
  constructor
  · rintro ⟨p, h⟩
    obtain ⟨out, hout, -⟩ := account_eq_ok_iff.1 h
    exact ⟨out, hout⟩
  · rintro ⟨out, hout⟩
    exact ⟨_, account_eq_ok_iff.2 ⟨out, hout, rfl⟩⟩

end Field

/-! ### Sheets -/

namespace SheetBuilder

def columns (b : SheetBuilder) (fs : List Field) : SheetBuilder := { b with fields := b.fields ++ fs }

theorem columns_nil (b : SheetBuilder) : b.columns [] = b := by
  simp [columns]

theorem columns_field (b : SheetBuilder) (f : Field) (fs : List Field) :
    (b.field f).columns fs = b.columns (f :: fs) := by
  simp [columns, field]

/-- All that a source object and the overrides give a sheet in the making, with its columns. -/
def fill (b : SheetBuilder) (overrides : List SheetOverride) (o : SourceObject)
    (fs : List Field) : SheetBuilder :=
  ((b.overrides (SheetOverride.find? overrides b.slug)).describe o.description).columns fs

@[simp] theorem slug_fill (b : SheetBuilder) (overrides : List SheetOverride) (o : SourceObject)
    (fs : List Field) : (b.fill overrides o fs).slug = b.slug := by
  simp only [fill, columns, describe]
  cases SheetOverride.find? overrides b.slug <;> rfl

@[simp] theorem fields_fill (b : SheetBuilder) (overrides : List SheetOverride) (o : SourceObject)
    (fs : List Field) : (b.fill overrides o fs).fields = b.fields ++ fs := by
  simp only [fill, columns, describe]
  cases SheetOverride.find? overrides b.slug <;> rfl

@[simp] theorem description_fill (b : SheetBuilder) (overrides : List SheetOverride)
    (o : SourceObject) (fs : List Field) :
    (b.fill overrides o fs).description = o.description.orElse (.str "") := rfl

theorem build_eq_ok_iff {b : SheetBuilder} {t : Sheet} :
    b.build = .ok t ↔ ∃ d, Check.text b.description = .ok d ∧
      { name := b.name, slug := b.slug, description := d, fields := b.fields,
        extras := b.extras.without Sheet.declared } = t := by
  unfold build
  cases Check.text b.description <;> simp [Check.within, Check.named]

@[simp] theorem slug_ensureId (b : SheetBuilder) : b.ensureId.2.slug = b.slug := by
  unfold ensureId
  split <;> rfl

@[simp] theorem description_ensureId (b : SheetBuilder) :
    b.ensureId.2.description = b.description := by
  unfold ensureId
  split <;> rfl

theorem mem_fields_ensureId {b : SheetBuilder} {c : Field} (h : c ∈ b.ensureId.2.fields) :
    c = idField ∨ c ∈ b.fields := by
  unfold ensureId at h
  split at h
  · exact .inr h
  · exact List.mem_cons.1 h

theorem targets_ensureId (b : SheetBuilder) :
    b.ensureId.2.fields.filterMap Field.target? = b.fields.filterMap Field.target? := by
  unfold ensureId
  split
  · rfl
  · rw [List.filterMap_cons_none rfl]

def idNotes (b : SheetBuilder) : List Note :=
  if b.hasId then [] else [.collected (.idFieldAdded b.slug)]

theorem ofValue_eq_ok_iff {v : Value} {b : SheetBuilder} :
    ofValue v = .ok b ↔ ∃ slug, v = .str slug ∧ b = ofSlug slug := by
  unfold ofValue
  split
  · simp [eq_comm]
  · rename_i h
    simp only [reduceCtorEq, false_iff]
    rintro ⟨slug, rfl, -⟩
    exact h slug rfl

/-- The end of the way to a sheet: the identity field and the check of the description. -/
theorem finish_keeps (b : SheetBuilder) :
    Keeps (do
      let (added, b) := b.ensureId
      if added then Run.collect (.idFieldAdded b.slug)
      b.build) ((b.ensureId.2.build.mapError .invalid).map fun t => (t, b.idNotes)) := by
  unfold ensureId idNotes
  cases b.hasId with
  | true => exact keeps_lift_invalid b.build
  | false =>
    simp only [Bool.false_eq_true, if_false, if_true]
    have haccount : ∀ t : Except Check.Invalid Sheet,
        (t.mapError .invalid).map (fun t => (t, [Note.collected (.idFieldAdded b.slug)])) =
          Account.andThen (.ok ((), [.collected (.idFieldAdded b.slug)])) fun _ =>
            (t.mapError .invalid).map fun t => (t, []) := by
      intro t
      cases t <;> rfl
    rw [haccount]
    exact (keeps_collect _).bind fun _ => keeps_lift_invalid _

end SheetBuilder

namespace Sheet

theorem addFields_keeps (sheet : Value) (fs : List SourceField) (b : SheetBuilder) :
    Keeps (addFields sheet fs b) ((fs.mapM (Field.account sheet)).map fun parts =>
      (b.columns (parts.filterMap Prod.fst), parts.flatMap Prod.snd)) := by
  induction fs generalizing b with
  | nil =>
    intro s
    simp [addFields, SheetBuilder.columns_nil]
  | cons f rest ih =>
    have haccount : ((f :: rest).mapM (Field.account sheet)).map (fun parts =>
          (b.columns (parts.filterMap Prod.fst), parts.flatMap Prod.snd)) =
        Account.andThen (Field.account sheet f) fun column =>
          (rest.mapM (Field.account sheet)).map fun parts =>
            (b.columns (column.toList ++ parts.filterMap Prod.fst), parts.flatMap Prod.snd) := by
      rw [List.mapM_cons]
      cases Field.account sheet f with
      | error e => rfl
      | ok p =>
        cases rest.mapM (Field.account sheet) with
        | error e => rfl
        | ok parts =>
          obtain ⟨column, notes⟩ := p
          cases column <;> rfl
    rw [haccount]
    refine (Field.generate_keeps f sheet).bind fun column => ?_
    cases column with
    | none => exact ih b
    | some c => simpa [SheetBuilder.columns_field] using ih (b.field c)

/-- The sheet of a source object, and the notes on it: on the fields that no column is made from,
and then on an identity field that had to be added. -/
def account (overrides : List SheetOverride) (o : SourceObject) :
    Except Failure (Sheet × List Note) := do
  let b ← (SheetBuilder.ofValue o.name).mapError .misuse
  let parts ← o.fields.mapM (Field.account o.name)
  let b := b.fill overrides o (parts.filterMap Prod.fst)
  let t ← b.ensureId.2.build.mapError .invalid
  return (t, parts.flatMap Prod.snd ++ b.idNotes)

theorem generate_keeps (o : SourceObject) (overrides : List SheetOverride) :
    Keeps (generate o overrides) (account overrides o) := by
  have haccount : account overrides o =
      Account.andThen (((SheetBuilder.ofValue o.name).mapError .misuse).map fun b => (b, []))
        fun b => Account.andThen
          ((o.fields.mapM (Field.account o.name)).map fun parts =>
            (b.fill overrides o (parts.filterMap Prod.fst), parts.flatMap Prod.snd))
          fun b => (b.ensureId.2.build.mapError .invalid).map fun t => (t, b.idNotes) := by
    rw [account]
    cases SheetBuilder.ofValue o.name with
    | error e => rfl
    | ok b =>
      cases o.fields.mapM (Field.account o.name) with
      | error e => rfl
      | ok parts =>
        cases h : (b.fill overrides o (parts.filterMap Prod.fst)).ensureId.2.build <;>
          simp [h, Account.andThen, bind, Except.bind, Except.map, Except.mapError, pure,
            Except.pure]
  rw [haccount]
  exact (keeps_lift_misuse (SheetBuilder.ofValue o.name)).bind fun b =>
    (addFields_keeps o.name o.fields _).bind SheetBuilder.finish_keeps

theorem account_eq_ok_iff {overrides : List SheetOverride} {o : SourceObject}
    {p : Sheet × List Note} :
    account overrides o = .ok p ↔
      ∃ slug, o.name = .str slug ∧ ∃ parts, o.fields.mapM (Field.account o.name) = .ok parts ∧
        ∃ b, (SheetBuilder.ofSlug slug).fill overrides o (parts.filterMap Prod.fst) = b ∧
          ∃ t, b.ensureId.2.build = .ok t ∧ (t, parts.flatMap Prod.snd ++ b.idNotes) = p := by
  simp only [account, bind_eq_ok_iff, mapError_eq_ok_iff, SheetBuilder.ofValue_eq_ok_iff]
  constructor
  · rintro ⟨_, ⟨slug, hslug, rfl⟩, parts, hparts, t, ht, hp⟩
    exact ⟨slug, hslug, parts, hparts, _, rfl, t, ht, Except.ok.inj hp⟩
  · rintro ⟨slug, hslug, parts, hparts, _, rfl, t, ht, hp⟩
    exact ⟨_, ⟨slug, hslug, rfl⟩, parts, hparts, t, ht, congrArg Except.ok hp⟩

end Sheet

/-! ### Source objects -/

namespace SourceObject

/-- There is a sheet of the object. -/
def Usable (o : SourceObject) : Prop :=
  (∃ slug, o.name = .str slug) ∧ o.description.Describes ∧ ∀ f ∈ o.fields, f.Usable

/-- All that is read of the object is a text where a text belongs. -/
structure Typed (o : SourceObject) : Prop where
  name : ∃ slug, o.name = .str slug
  description : ∃ d, o.description = .str d
  fields : ∀ f ∈ o.fields, f.Typed

theorem Typed.usable {o : SourceObject} (h : o.Typed) : o.Usable := by
  obtain ⟨d, hd⟩ := h.description
  exact ⟨h.name, hd ▸ Value.describes_str d, fun f hf => (h.fields f hf).usable⟩

/-- The names that the object's fields point to, in field order. -/
def targets (o : SourceObject) : List String := o.fields.filterMap fun f => f.type.core.target?

end SourceObject

namespace Sheet

variable {overrides : List SheetOverride} {o : SourceObject} {t : Sheet} {notes : List Note}

theorem account_succeeds_iff : (∃ p, account overrides o = .ok p) ↔ o.Usable := by
  have hfields : (∃ parts, o.fields.mapM (Field.account o.name) = .ok parts) ↔
      ∀ f ∈ o.fields, f.Usable := by
    simp only [exists_mapM_eq_ok_iff, Field.account_succeeds_iff]
  simp only [account_eq_ok_iff, SourceObject.Usable, ← hfields]
  constructor
  · rintro ⟨p, slug, hslug, parts, hparts, b, rfl, t, ht, -⟩
    obtain ⟨d, hd, -⟩ := SheetBuilder.build_eq_ok_iff.1 ht
    refine ⟨⟨slug, hslug⟩, ⟨d, ?_⟩, parts, hparts⟩
    simpa using hd
  · rintro ⟨⟨slug, hslug⟩, ⟨d, hd⟩, parts, hparts⟩
    refine ⟨_, slug, hslug, parts, hparts, _, rfl, _, SheetBuilder.build_eq_ok_iff.2 ⟨d, ?_, rfl⟩, rfl⟩
    simpa using hd

theorem name_of_account (h : account overrides o = .ok (t, notes)) : o.name = .str t.slug := by
  obtain ⟨slug, hslug, parts, -, b, rfl, t', ht, hp⟩ := account_eq_ok_iff.1 h
  obtain ⟨d, -, rfl⟩ := SheetBuilder.build_eq_ok_iff.1 ht
  cases hp
  simpa [SheetBuilder.ofSlug] using hslug

/-- The columns of a sheet are those of its object's fields, and maybe the identity field. -/
theorem fields_of_account (h : account overrides o = .ok (t, notes)) :
    ∃ parts b, o.fields.mapM (Field.account o.name) = .ok parts ∧
      t.fields = (SheetBuilder.ensureId b).2.fields ∧ b.fields = parts.filterMap Prod.fst := by
  obtain ⟨slug, -, parts, hparts, b, rfl, t', ht, hp⟩ := account_eq_ok_iff.1 h
  obtain ⟨d, -, rfl⟩ := SheetBuilder.build_eq_ok_iff.1 ht
  cases hp
  exact ⟨parts, _, hparts, rfl, by simp [SheetBuilder.ofSlug]⟩

theorem targets_of_account (h : account overrides o = .ok (t, notes)) : t.targets = o.targets := by
  obtain ⟨parts, b, hparts, ht, hb⟩ := fields_of_account h
  rw [targets, ht, SheetBuilder.targets_ensureId, hb, Field.targets_of_accounts hparts]
  rfl

theorem id_mem_of_account (h : account overrides o = .ok (t, notes)) :
    ∃ c ∈ t.fields, c.key = idKey := by
  obtain ⟨parts, b, -, ht, -⟩ := fields_of_account h
  have hid := b.hasId_ensureId
  rw [SheetBuilder.hasId, ← ht] at hid
  simpa using hid

theorem looksUpId_of_account (h : account overrides o = .ok (t, notes)) {c : Field}
    (hc : c ∈ t.fields) : c.LooksUpId := by
  obtain ⟨parts, b, hparts, ht, hb⟩ := fields_of_account h
  rw [ht] at hc
  rcases SheetBuilder.mem_fields_ensureId hc with rfl | hc
  · intro hr
    cases hr
  · rw [hb, List.mem_filterMap] at hc
    obtain ⟨⟨column, notes⟩, hp, hcolumn⟩ := hc
    obtain ⟨f, -, hf⟩ := (mem_mapM_iff hparts).1 hp
    obtain ⟨out, hout, he⟩ := Field.account_eq_ok_iff.1 hf
    cases out with
    | column c' =>
      cases he
      cases hcolumn
      exact Field.looksUpId_of_ofType hout
    | unsupported kind =>
      cases he
      cases hcolumn

/-! ### All sheets -/

theorem candidates_keeps (overrides : List SheetOverride) (objects : List SourceObject) :
    Keeps (candidates overrides objects) ((objects.mapM (account overrides)).map fun made =>
      (made.map Prod.fst, made.flatMap Prod.snd)) := by
  induction objects with
  | nil => exact keeps_pure []
  | cons o rest ih =>
    have haccount : ((o :: rest).mapM (account overrides)).map (fun made =>
          (made.map Prod.fst, made.flatMap Prod.snd)) =
        Account.andThen (account overrides o) fun t =>
          Account.andThen ((rest.mapM (account overrides)).map fun made =>
            (made.map Prod.fst, made.flatMap Prod.snd)) fun ts => .ok (t :: ts, []) := by
      rw [List.mapM_cons]
      cases account overrides o with
      | error e => rfl
      | ok p =>
        cases rest.mapM (account overrides) with
        | error e => rfl
        | ok made => simp [Account.andThen, bind, Except.bind, Except.map, pure, Except.pure]
    rw [haccount]
    exact (generate_keeps o overrides).bind fun t => ih.bind fun ts => keeps_pure (t :: ts)

/-- All sheets are made first, then checked against the names of the objects. -/
theorem generateAll_keeps (mode : IntegrityMode) (objects : List SourceObject)
    (overrides : List SheetOverride) :
    Keeps (generateAll mode objects overrides) ((objects.mapM (account overrides)).map fun made =>
      let (stay, drops) := Integrity.run mode (objects.filterMap (·.name.text?))
        (made.map Prod.fst)
      (stay, made.flatMap Prod.snd ++ drops.map Integrity.Drop.note)) := by
  have hall := (candidates_keeps overrides objects).bind
    (Integrity.check_keeps mode (objects.filterMap (·.name.text?)))
  unfold generateAll
  cases hmade : objects.mapM (account overrides) <;>
    simpa [hmade, Account.andThen, Except.bind, Except.map] using hall

end Sheet

end SchemaSheets
