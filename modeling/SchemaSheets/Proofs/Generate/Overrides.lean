import SchemaSheets.Proofs.Descriptor.Extras
import SchemaSheets.Proofs.Generate.Survivors
import SchemaSheets.Proofs.Integrity.Comparison

/-!
# What overrides can and cannot change

Overrides give a sheet its properties beside the declared ones and nothing else.
Without these properties a run with overrides is the run without any: the sheets
are made with the same columns, and the check reads the columns and slugs only.
So two runs with different overrides return the same tables and leave the same
session, and the properties of each sheet come from the first override for it.
-/

namespace SchemaSheets

open Steps

/-! ### Sheets without further properties -/

namespace Sheet

def plain (t : Sheet) : Sheet := { t with extras := [] }

/-- The sheets agree in all that a sheet declares. -/
structure SameTable (t u : Sheet) : Prop where
  name : t.name = u.name
  slug : t.slug = u.slug
  description : t.description = u.description
  fields : t.fields = u.fields

theorem sameTable_of_plain_eq {t u : Sheet} (h : t.plain = u.plain) : t.SameTable u where
  name := by simpa [plain] using congrArg Sheet.name h
  slug := by simpa [plain] using congrArg Sheet.slug h
  description := by simpa [plain] using congrArg Sheet.description h
  fields := by simpa [plain] using congrArg Sheet.fields h

theorem sameTable_of_map_plain_eq {ts us : List Sheet} (h : ts.map plain = us.map plain) :
    List.Forall₂ SameTable ts us := by
  have hplain : List.Forall₂ (· = ·) (ts.map plain) (us.map plain) := by
    rw [List.forall₂_eq_eq_eq]
    exact h
  rw [List.forall₂_map_left_iff, List.forall₂_map_right_iff] at hplain
  exact hplain.imp fun _ _ => sameTable_of_plain_eq

end Sheet

/-! ### The check of references -/

namespace Integrity

def Drop.plain (d : Drop) : Drop := { d with sheet := d.sheet.plain }

@[simp] theorem Drop.note_plain (d : Drop) : d.plain.note = d.note := rfl

variable {known : List String} {sheets : List Sheet}

theorem kept_plain (known : List String) (sheets : List Sheet) :
    kept known (sheets.map Sheet.plain) = (kept known sheets).map Sheet.plain := by
  rw [kept, List.filter_map]
  rfl

theorem dropped_plain (known : List String) (sheets : List Sheet) :
    dropped known (sheets.map Sheet.plain) = (dropped known sheets).map Drop.plain := by
  rw [dropped, dropped, List.map_map, List.filter_map, List.filter_map, List.map_map]
  rfl

@[simp] theorem slugs_plain (sheets : List Sheet) : slugs (sheets.map Sheet.plain) = slugs sheets := by
  rw [slugs, List.map_map]
  rfl

theorem rounds_plain (known : List String) (sheets : List Sheet) :
    rounds known (sheets.map Sheet.plain) =
      ((rounds known sheets).1.map Sheet.plain, (rounds known sheets).2.map Drop.plain) := by
  induction known, sheets using rounds_induction with
  | last known sheets h =>
    have hplain : kept known (sheets.map Sheet.plain) = sheets.map Sheet.plain := by
      rw [kept_plain, h]
    rw [rounds_of_all_kept h, rounds_of_all_kept hplain]
    rfl
  | next known sheets h ih =>
    have hplain : kept known (sheets.map Sheet.plain) ≠ sheets.map Sheet.plain := by
      intro heq
      have hlength := congrArg List.length heq
      rw [kept_plain, List.length_map, List.length_map] at hlength
      exact absurd hlength (Nat.ne_of_lt (length_kept_lt h))
    rw [rounds_of_some_dropped h, rounds_of_some_dropped hplain, kept_plain, slugs_plain, ih,
      dropped_plain, List.map_append]

theorem run_plain (mode : IntegrityMode) (known : List String) (sheets : List Sheet) :
    run mode known (sheets.map Sheet.plain) =
      ((run mode known sheets).1.map Sheet.plain, (run mode known sheets).2.map Drop.plain) := by
  match mode with
  | .universe =>
    rw [run, kept_plain, dropped_plain]
    rfl
  | .survivors => exact rounds_plain known sheets

end Integrity

/-! ### Overrides of a slug -/

namespace SheetOverride

/-- The properties that overrides give the sheet of a slug: those of the first override for it
that a sheet does not declare itself. -/
def Gives (overrides : List SheetOverride) (slug : String) (extras : Extras) : Prop :=
  ((∀ o ∈ overrides, o.slug ≠ slug) ∧ extras = []) ∨
    ∃ before o after, overrides = before ++ o :: after ∧ (∀ p ∈ before, p.slug ≠ slug) ∧
      o.slug = slug ∧ extras = o.extras.without Sheet.declared

theorem gives_of_find {overrides : List SheetOverride} (hvalid : ∀ o ∈ overrides, o.Valid)
    (b : SheetBuilder) (hb : b.extras = []) :
    Gives overrides b.slug ((b.overrides (find? overrides b.slug)).extras.without Sheet.declared) := by
  cases hfind : find? overrides b.slug with
  | none =>
    have hnone : ∀ o ∈ overrides, o.slug ≠ b.slug := by
      simpa [find?, List.find?_eq_none] using hfind
    refine .inl ⟨hnone, ?_⟩
    rw [SheetBuilder.overrides, hb]
    rfl
  | some o =>
    obtain ⟨hslug, before, after, hsplit, hbefore⟩ := List.find?_eq_some_iff_append.1 hfind
    have hnodup := (hvalid o (hsplit ▸ List.mem_append_right before (.head after))).nodup
    refine .inr ⟨before, o, after, hsplit, by simpa using hbefore, by simpa using hslug, ?_⟩
    simp only [SheetBuilder.overrides, hb]
    rw [Extras.insertAll_of_nodup (by simpa using hnodup), List.nil_append]

end SheetOverride

/-! ### Sheets in the making -/

namespace SheetBuilder

def plain (b : SheetBuilder) : SheetBuilder := { b with extras := [] }

@[simp] theorem idNotes_plain (b : SheetBuilder) : b.plain.idNotes = b.idNotes := rfl

theorem ensureId_plain (b : SheetBuilder) : b.plain.ensureId.2 = b.ensureId.2.plain := by
  have hid : b.plain.hasId = b.hasId := rfl
  unfold ensureId
  rw [hid]
  split <;> rfl

theorem extras_ensureId (b : SheetBuilder) : b.ensureId.2.extras = b.extras := by
  unfold ensureId
  split <;> rfl

theorem fill_plain (slug : String) (overrides : List SheetOverride) (o : SourceObject)
    (fs : List Field) :
    ((ofSlug slug).fill overrides o fs).plain = (ofSlug slug).fill [] o fs := by
  simp only [fill]
  cases SheetOverride.find? overrides (ofSlug slug).slug <;> rfl

theorem build_plain {b : SheetBuilder} {t : Sheet} (h : b.build = .ok t) :
    b.plain.build = .ok t.plain := by
  obtain ⟨d, hd, rfl⟩ := build_eq_ok_iff.1 h
  exact build_eq_ok_iff.2 ⟨d, hd, rfl⟩

end SheetBuilder

namespace Sheet

variable {mode : IntegrityMode} {objects : List SourceObject} {overrides : List SheetOverride}
  {o : SourceObject} {t : Sheet} {notes : List Note} {stay : List Sheet} {s s' : Session}
  {made : List (Sheet × List Note)}

theorem account_plain (h : account overrides o = .ok (t, notes)) :
    account [] o = .ok (t.plain, notes) := by
  obtain ⟨slug, hslug, parts, hparts, b, hb, t', ht, hp⟩ := account_eq_ok_iff.1 h
  cases hp
  refine account_eq_ok_iff.2 ⟨slug, hslug, parts, hparts, b.plain, ?_, t.plain, ?_, rfl⟩
  · rw [← hb, SheetBuilder.fill_plain]
  · rw [SheetBuilder.ensureId_plain]
    exact SheetBuilder.build_plain ht

theorem gives_of_account (hvalid : ∀ o ∈ overrides, o.Valid)
    (h : account overrides o = .ok (t, notes)) : SheetOverride.Gives overrides t.slug t.extras := by
  obtain ⟨slug, -, parts, -, b, rfl, t', ht, hp⟩ := account_eq_ok_iff.1 h
  cases hp
  obtain ⟨d, -, rfl⟩ := SheetBuilder.build_eq_ok_iff.1 ht
  have hgives := SheetOverride.gives_of_find hvalid (.ofSlug slug) rfl
  rw [SheetBuilder.slug_ensureId, SheetBuilder.slug_fill, SheetBuilder.extras_ensureId]
  exact hgives

theorem accounts_plain (h : objects.mapM (account overrides) = .ok made) :
    objects.mapM (account []) = .ok (made.map fun p => (p.1.plain, p.2)) := by
  rw [mapM_eq_ok_iff] at h ⊢
  rw [List.forall₂_map_right_iff]
  exact h.imp fun _ _ => account_plain

/-- A run with overrides is the run without any, but for the further properties of the sheets. -/
theorem generateAll_plain
    (h : Run.from_ s (generateAll mode objects overrides) = (.ok stay, s')) :
    Run.from_ s (generateAll mode objects []) = (.ok (stay.map plain), s') := by
  obtain ⟨made, hmade, rfl, rfl⟩ := generateAll_eq_ok_iff.1 h
  refine generateAll_eq_ok_iff.2 ⟨_, accounts_plain hmade, ?_⟩
  have hsheets : (made.map fun p => (p.1.plain, p.2)).map Prod.fst =
      (made.map Prod.fst).map plain := by simp [Function.comp_def]
  have hnotes : (made.map fun p => (p.1.plain, p.2)).flatMap Prod.snd =
      made.flatMap Prod.snd := by simp [List.flatMap_map]
  have hdrops : ∀ drops : List Integrity.Drop,
      (drops.map Integrity.Drop.plain).map Integrity.Drop.note = drops.map Integrity.Drop.note :=
    fun drops => List.map_map
  simp only [hsheets, hnotes, hdrops, Integrity.slugs_plain, Integrity.run_plain, and_self]

/-- Whether a run returns, its tables and the session that it leaves do not depend on the overrides,
and the further properties of a sheet are those that the first override for it gives. -/
theorem generateAll_ignores_overrides (mode : IntegrityMode) (objects : List SourceObject)
    {overrides : List SheetOverride} (hvalid : ∀ o ∈ overrides, o.Valid)
    (overrides' : List SheetOverride) (s : Session) :
    ((∃ stay s', Run.from_ s (generateAll mode objects overrides) = (.ok stay, s')) ↔
      ∀ o ∈ objects, o.Usable) ∧
    ∀ stay s', Run.from_ s (generateAll mode objects overrides) = (.ok stay, s') →
      (∃ stay', Run.from_ s (generateAll mode objects overrides') = (.ok stay', s') ∧
        List.Forall₂ SameTable stay stay') ∧
      ∀ t ∈ stay, SheetOverride.Gives overrides t.slug t.extras := by
  refine ⟨generateAll_succeeds_iff, fun stay s' h => ⟨?_, fun t ht => ?_⟩⟩
  · obtain ⟨stay', s'', h'⟩ : ∃ stay' s'',
        Run.from_ s (generateAll mode objects overrides') = (.ok stay', s'') :=
      generateAll_succeeds_iff.2 (generateAll_succeeds_iff.1 ⟨stay, s', h⟩)
    have hplain := (generateAll_plain h).symm.trans (generateAll_plain h')
    obtain ⟨hstay, rfl⟩ : stay.map plain = stay'.map plain ∧ s' = s'' := by
      simpa using hplain
    exact ⟨stay', h', sameTable_of_map_plain_eq hstay⟩
  · obtain ⟨made, hmade, rfl, -⟩ := generateAll_eq_ok_iff.1 h
    obtain ⟨⟨u, notes⟩, hp, rfl⟩ := List.mem_map.1 ((Integrity.run_sublist mode _ _).subset ht)
    obtain ⟨o, -, ho⟩ := (mem_mapM_iff hmade).1 hp
    exact gives_of_account hvalid ho

/-- An override with properties that a sheet declares itself, and a later one for the same slug. -/
def rivals : List SheetOverride :=
  [{ slug := "A", name := some "Renamed",
     extras := [("color", .str "red"), ("description", .str "theirs"), ("fields", .list [])] },
   { slug := "A", extras := [("color", .str "blue"), ("size", .int 3)] }]

theorem valid_of_mem_rivals : ∀ o ∈ rivals, o.Valid := by
  simp only [rivals, List.forall_mem_cons, List.not_mem_nil, false_implies, implies_true, and_true]
  exact ⟨⟨.record [("slug", .str "A"), ("name", .str "Renamed"), ("color", .str "red"),
      ("description", .str "theirs"), ("fields", .list [])], rfl⟩,
    ⟨.record [("slug", .str "A"), ("color", .str "blue"), ("size", .int 3)], rfl⟩⟩

theorem generateAll_ignores_rivals :
    (∀ o ∈ rivals, o.Valid) ∧ ∃ s',
      Run.from_ {} (generateAll .survivors [linked "A" ["B"], linked "B" ["A"]] rivals) =
        (.ok [{ linkedSheet "A" "B" with extras := [("color", .str "red")] },
          linkedSheet "B" "A"], s') ∧
      (∃ stay', Run.from_ {} (generateAll .survivors [linked "A" ["B"], linked "B" ["A"]] []) =
          (.ok stay', s') ∧
        List.Forall₂ SameTable [{ linkedSheet "A" "B" with extras := [("color", .str "red")] },
          linkedSheet "B" "A"] stay') ∧
      SheetOverride.Gives rivals "A" [("color", .str "red")] := by
  obtain ⟨-, hruns⟩ := generateAll_ignores_overrides .survivors
    [linked "A" ["B"], linked "B" ["A"]] valid_of_mem_rivals [] {}
  obtain ⟨hsame, hgives⟩ := hruns _ _ rfl
  exact ⟨valid_of_mem_rivals, _, rfl, hsame, hgives _ (.head _)⟩

end Sheet

end SchemaSheets
