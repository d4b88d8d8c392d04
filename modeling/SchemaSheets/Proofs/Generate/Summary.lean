import SchemaSheets.Generate.Workbook
import SchemaSheets.Proofs.Generate.Conservation
import SchemaSheets.Proofs.Generate.Document
import SchemaSheets.Proofs.Session.Steady
import SchemaSheets.Proofs.Source.Depth
import Mathlib.Data.List.Perm.Subperm

/-!
# The two accounts of dropped sheets

What was dropped from a workbook shows in two ways.  The diagnostics name each
sheet when it is dropped, round by round; the result compares the names of all
objects with the slugs of the workbook's sheets.  When the names of the objects
are distinct, both name the same sheets (`slugs_dropped_perm`), and the figures
of the summary follow from them: every object has a sheet or a drop, and every
warning is on a drop or on a field that was skipped.
-/

namespace SchemaSheets

open Steps

/-! ### Slugs that stay and slugs that go -/

/-- A part of a list without repetitions is picked out by its members. -/
theorem filter_mem_of_sublist {names part : List String} (h : part.Sublist names)
    (hnames : names.Nodup) : names.filter (· ∈ part) = part := by
  have hself : part.filter (· ∈ part) = part := List.filter_eq_self.2 (by simp)
  have hle : part.Sublist (names.filter (· ∈ part)) := by
    have hfilter := h.filter (· ∈ part)
    rwa [hself] at hfilter
  have hsubset : names.filter (· ∈ part) ⊆ part := by
    intro n hn
    simpa using (List.mem_filter.1 hn).2
  have hlength : (names.filter (· ∈ part)).length ≤ part.length :=
    (List.Nodup.subperm (hnames.filter _) hsubset).length_le
  exact (hle.eq_of_length_le hlength).symm

namespace Integrity

variable {sheets : List Sheet}

/-- The sheets that stay and those that are dropped have, together, the slugs of all sheets. -/
theorem slugs_run_perm (mode : IntegrityMode) (known : List String) (sheets : List Sheet) :
    (slugs (run mode known sheets).1 ++ (run mode known sheets).2.map (·.sheet.slug)).Perm
      (slugs sheets) := by
  obtain ⟨stays, drops, h, -⟩ := run_splits mode known id sheets
  rw [List.map_id] at h
  have hstays : (run mode known sheets).1 = stays := by simpa using h.kept_eq
  have hdrops : (run mode known sheets).2.map (·.sheet.slug) = slugs (drops.map Prod.fst) := by
    rw [h.dropped_eq]
    simp [slugs, Function.comp_def]
  rw [hstays, hdrops, slugs, slugs, ← List.map_append]
  exact h.perm.map _

/-- Of distinct slugs, those that are not left are the slugs of the drops. -/
theorem slugs_dropped_perm (mode : IntegrityMode) (known : List String)
    (hslugs : (slugs sheets).Nodup) :
    ((slugs sheets).filter (· ∉ slugs (run mode known sheets).1)).Perm
      ((run mode known sheets).2.map (·.sheet.slug)) := by
  have hperm := slugs_run_perm mode known sheets
  have hboth := hperm.nodup_iff.2 hslugs
  obtain ⟨-, -, hapart⟩ := List.nodup_append.1 hboth
  have hstay : (slugs (run mode known sheets).1).filter
      (· ∉ slugs (run mode known sheets).1) = [] := by
    simp
  have hgo : ((run mode known sheets).2.map (·.sheet.slug)).filter
      (· ∉ slugs (run mode known sheets).1) = (run mode known sheets).2.map (·.sheet.slug) := by
    rw [List.filter_eq_self]
    intro n hn
    have hout : n ∉ slugs (run mode known sheets).1 := fun hin => hapart n hin n hn rfl
    simpa using hout
  have hfilter := hperm.symm.filter (· ∉ slugs (run mode known sheets).1)
  rwa [List.filter_append, hstay, hgo, List.nil_append] at hfilter

/-- Of distinct slugs, those that are left are the ones beside the others. -/
theorem slugs_kept_eq (mode : IntegrityMode) (known : List String)
    (hslugs : (slugs sheets).Nodup) :
    slugs (run mode known sheets).1 = (slugs sheets).filter
      (· ∉ (slugs sheets).filter (· ∉ slugs (run mode known sheets).1)) := by
  have hsublist := (run_sublist mode known sheets).map Sheet.slug
  rw [← slugs, ← slugs] at hsublist
  rw [List.filter_congr (q := (· ∈ slugs (run mode known sheets).1))]
  · exact (filter_mem_of_sublist hsublist hslugs).symm
  · intro n hn
    simp [hn]

end Integrity

/-! ### Fields of a document -/

namespace TypeRef

/-- Whatever a value spells, there is a type under its non-null wrappers. -/
theorem core_ne_absent_of_read {t : TypeRef} {levels : Nat} {data : Value}
    (h : read levels data = .ok t) : t.core ≠ .absent := by
  induction levels generalizing data t with
  | zero => cases h
  | succ levels ih =>
    have hlevel := level_read levels data
    rw [h] at hlevel
    cases hlevel with
    | named hbare hthere =>
      cases t with
      | nonNull inner => cases hbare
      | _ => exact hthere
    | wrapped hwrap hinner =>
      obtain ⟨u, hu, rfl⟩ := map_eq_ok_iff.1 hinner
      have hcore : u.core ≠ .absent := ih hu
      rcases hwrap with rfl | rfl
      · exact hcore
      · exact nofun

end TypeRef

theorem SourceField.hasType_of_ofValue {data : Value} {f : SourceField} (h : ofValue data = .ok f) :
    f.HasType := by
  unfold ofValue at h
  split at h
  · split at h
    · obtain ⟨t, ht, hf⟩ := bind_eq_ok_iff.1 h
      cases hf
      exact TypeRef.core_ne_absent_of_read ht
    · cases h
  · cases h

theorem Introspection.hasType_of_objects {document : Value} {objects : List SourceObject}
    (h : Introspection.objects document = .ok objects) :
    ∀ o ∈ objects, ∀ f ∈ o.fields, f.HasType := by
  intro o ho f hf
  obtain ⟨entries, -, hentries⟩ := objects_eq_ok_iff.1 h
  obtain ⟨data, -, -, hdata⟩ := (mem_forDomainObjects_iff hentries).1 ho
  obtain ⟨items, -, hitems⟩ := SourceObject.ofValue_eq_ok_iff.1 hdata
  obtain ⟨item, -, hitem⟩ := (mem_mapM_iff hitems).1 hf
  exact SourceField.hasType_of_ofValue hitem

/-! ### What a run leaves in its result -/

namespace Workbook

variable {mode : IntegrityMode} {p : WorkbookPlan} {given document : Value} {s s' : Session}
  {g : GeneratedWorkbook}

/-- A run that returns has made a sheet of every object; its result holds the sheets that stay and
all that was said on the way. -/
theorem from_ofDocument_eq_ok (h : Run.from_ s (ofDocument mode p given document) = (.ok g, s')) :
    ∃ objects overrides made, Introspection.objects document = .ok objects ∧
      objects.mapM (Sheet.account overrides) = .ok made ∧
      g.objectNames = Integrity.slugs (made.map Prod.fst) ∧
      g.workbook.sheets = (Integrity.run mode g.objectNames (made.map Prod.fst)).1 ∧
      g.diagnostics.items = (made.flatMap Prod.snd).map Note.diagnostic ++
        (Integrity.run mode g.objectNames (made.map Prod.fst)).2.map Integrity.Drop.diagnostic := by
  unfold ofDocument at h
  rw [Run.from_bind, Run.from_lift] at h
  cases hobjects : Introspection.objects document with
  | error e =>
    rw [hobjects] at h
    cases h
  | ok objects =>
    rw [hobjects] at h
    simp only [Run.from_bind, Run.from_inform] at h
    split at h
    · rename_i found s₁ hrun
      cases h
      have hkeeps := (Run.keeps_lift (chosenOverrides p given)).bind
        (Sheet.generateAll_keeps mode objects)
      rw [Account.andThen_lift] at hkeeps
      obtain ⟨stay, notes, haccount, rfl⟩ := hkeeps.from_collecting_eq_ok hrun
      obtain ⟨overrides, -, haccounts⟩ := bind_eq_ok_iff.1 haccount
      obtain ⟨made, hmade, houtcome⟩ := map_eq_ok_iff.1 haccounts
      let outcome := Integrity.run mode (objects.filterMap (·.name.text?)) (made.map Prod.fst)
      have hstay : outcome.1 = stay := congrArg Prod.fst houtcome
      have hnotes : made.flatMap Prod.snd ++ outcome.2.map Integrity.Drop.note = notes :=
        congrArg Prod.snd houtcome
      have hitems : notes.map Note.diagnostic = (made.flatMap Prod.snd).map Note.diagnostic ++
          outcome.2.map Integrity.Drop.diagnostic := by
        rw [← hnotes, List.map_append, List.map_map]
        rfl
      exact ⟨objects, overrides, made, rfl, hmade, Sheet.names_eq_slugs hmade, hstay.symm, hitems⟩
    · cases h

end Workbook

/-! ### Warnings on fields -/

namespace SourceObject

/-- The fields that no column is made from. -/
def skippedFields (o : SourceObject) : List SourceField := o.fields.filter fun f => !f.isKept

theorem length_skipNotices (o : SourceObject) : o.skipNotices.length = o.skippedFields.length := by
  have hreports := o.length_keptFields
  have hfields : o.fields.length = o.keptFields.length + o.skippedFields.length :=
    List.length_eq_length_filter_add SourceField.isKept
  omega

theorem countP_warning_all (objects : List SourceObject) :
    (objects.flatMap (·.notices)).countP (·.severity == .warning) =
      (objects.flatMap (·.skippedFields)).length := by
  rw [List.countP_eq_length_filter, filter_warning_all]
  simp only [List.length_flatMap, length_skipNotices]

end SourceObject

/-! ### The figures of a run -/

namespace Diagnostics

variable {c : Diagnostics} {objects : List SourceObject} {drops : List Integrity.Drop}

/-- Nothing that is said of an object is about a dropped sheet. -/
theorem byCode_danglingReference
    (h : c.items = objects.flatMap (·.notices) ++ drops.map Integrity.Drop.diagnostic) :
    c.byCode .danglingReference = drops.map Integrity.Drop.diagnostic := by
  have hnotices : (objects.flatMap (·.notices)).filter (·.code == .danglingReference) = [] := by
    rw [List.filter_eq_nil_iff]
    intro d hd
    obtain ⟨o, -, ho⟩ := List.mem_flatMap.1 hd
    have hcode : d.code ≠ .danglingReference := SourceObject.not_isDrop_of_mem_notices ho
    simpa using hcode
  have hdrops : (drops.map Integrity.Drop.diagnostic).filter (·.code == .danglingReference) =
      drops.map Integrity.Drop.diagnostic := by
    rw [List.filter_eq_self]
    intro d hd
    obtain ⟨drop, -, rfl⟩ := List.mem_map.1 hd
    rfl
  rw [byCode, h, List.filter_append, hnotices, hdrops, List.nil_append]

theorem warningCount_eq
    (h : c.items = objects.flatMap (·.notices) ++ drops.map Integrity.Drop.diagnostic) :
    c.warningCount = drops.length + (objects.flatMap (·.skippedFields)).length := by
  have hdrops : (drops.map Integrity.Drop.diagnostic).countP (·.severity == .warning) =
      drops.length := by
    rw [← List.length_map Integrity.Drop.diagnostic, List.countP_eq_length]
    intro d hd
    obtain ⟨drop, -, rfl⟩ := List.mem_map.1 hd
    rfl
  rw [warningCount, count, h, List.countP_append, SourceObject.countP_warning_all, hdrops,
    Nat.add_comm]

end Diagnostics

namespace GeneratedWorkbook

theorem droppedSheets_eq (g : GeneratedWorkbook) :
    g.droppedSheets = g.objectNames.filter (· ∉ Integrity.slugs g.workbook.sheets) := by
  unfold droppedSheets Integrity.slugs
  refine List.filter_congr fun n _ => ?_
  rw [List.contains_eq_mem, decide_not]

end GeneratedWorkbook

namespace Sheet

theorem map_name_of_accounts {overrides : List SheetOverride} {objects : List SourceObject}
    {made : List (Sheet × List Note)} (h : objects.mapM (account overrides) = .ok made) :
    objects.map (·.name) = (Integrity.slugs (made.map Prod.fst)).map .str := by
  rw [mapM_eq_ok_iff] at h
  induction h with
  | nil => rfl
  | cons ho _ ih =>
    rw [List.map_cons, ih, name_of_account ho]
    rfl

end Sheet

theorem Run.exists_from_of_toOption {α : Type} {run : Run α} {s : Session} {a : α}
    (h : (Run.from_ s run).1.toOption = some a) : ∃ s', Run.from_ s run = (.ok a, s') :=
  ⟨(Run.from_ s run).2, Prod.ext (eq_ok_of_toOption h) rfl⟩

namespace Workbook

variable {network : Http.Network} {mode : IntegrityMode} {p : WorkbookPlan} {given document : Value}
  {objects : List SourceObject} {s s₁ s' : Session} {g : GeneratedWorkbook}

/-- When the objects of a document have distinct names, a run that returns names the dropped sheets
in its result as in its diagnostics, in document order, and its figures add up: an object has a
sheet or a drop, and a warning is on a drop or on a skipped field. -/
theorem generate_accounts_agree [Capacity]
    (hdocument : Run.from_ s (Introspection.ofValue network p.source) = (.ok document, s₁))
    (hobjects : Introspection.objects document = .ok objects)
    (hdistinct : (objects.map (·.name)).Nodup)
    (h : Run.from_ s (generate network mode p given) = (.ok g, s')) :
    objects.map (·.name) = g.objectNames.map .str ∧
      g.droppedSheets.Perm ((g.diagnostics.byCode .danglingReference).map (·.path)) ∧
      g.droppedSheets.Sublist g.objectNames ∧
      g.workbook.sheets.map (·.slug) = g.objectNames.filter (· ∉ g.droppedSheets) ∧
      g.summary.member "object_count" =
        .ok (.natural (g.workbook.sheets.length + g.droppedSheets.length)) ∧
      g.summary.member "sheet_count" = .ok (.natural g.workbook.sheets.length) ∧
      g.summary.member "dropped_sheets" = .ok (.list (g.droppedSheets.map .str)) ∧
      g.summary.member "warning_count" = .ok (.natural (g.droppedSheets.length +
        (objects.flatMap (·.skippedFields)).length)) := by
  unfold generate at h
  rw [Run.from_bind, hdocument] at h
  obtain ⟨objects', overrides, made, hobjects', hmade, hnames, hsheets, hitems⟩ :=
    from_ofDocument_eq_ok h
  cases hobjects.symm.trans hobjects'
  have hmap := Sheet.map_name_of_accounts hmade
  rw [hmap] at hdistinct
  have hslugs : (Integrity.slugs (made.map Prod.fst)).Nodup := hdistinct.of_map
  have hnotices := (Sheet.accountsFor_of_fields (Introspection.hasType_of_objects hobjects) hmade).2
  rw [hnotices] at hitems
  have hdropped := g.droppedSheets_eq
  have hgone := Integrity.slugs_dropped_perm mode g.objectNames hslugs
  rw [← hnames, ← hsheets, ← hdropped] at hgone
  have hpaths : (g.diagnostics.byCode .danglingReference).map (·.path) =
      (Integrity.run mode g.objectNames (made.map Prod.fst)).2.map (·.sheet.slug) := by
    rw [Diagnostics.byCode_danglingReference hitems, List.map_map]
    rfl
  have hslugsKept : g.workbook.sheets.map (·.slug) = g.objectNames.filter (· ∉ g.droppedSheets) := by
    have hkept := Integrity.slugs_kept_eq mode g.objectNames hslugs
    rwa [← hnames, ← hsheets, ← hdropped] at hkept
  have hdrops : g.droppedSheets.length =
      (Integrity.run mode g.objectNames (made.map Prod.fst)).2.length := by
    rw [hgone.length_eq, List.length_map]
  have hobjectCount : g.objectNames.length =
      g.workbook.sheets.length + g.droppedSheets.length := by
    have hlength := (Integrity.slugs_run_perm mode g.objectNames (made.map Prod.fst)).length_eq
    rw [← hnames, ← hsheets, List.length_append, List.length_map, Integrity.slugs,
      List.length_map] at hlength
    omega
  have hwarningCount : g.diagnostics.warningCount =
      g.droppedSheets.length + (objects.flatMap (·.skippedFields)).length := by
    rw [Diagnostics.warningCount_eq hitems, hdrops]
  refine ⟨hnames ▸ hmap, hpaths ▸ hgone, ?_, hslugsKept, ?_, rfl, rfl, ?_⟩
  · rw [hdropped]
    exact List.filter_sublist
  · rw [← hobjectCount]
    rfl
  · rw [← hwarningCount]
    rfl

/-- An act that points to the root, a cast that points to the act and has a field of an enumeration,
and a hall. -/
def stageText : String := "type Query { a: Act } type Act { q: Query } " ++
  "type Cast { act: Act kind: Kind } type Hall { id: Int } enum Kind { X }"

def stagePlan : WorkbookPlan := { source := .str stageText }

def offline : Http.Network := fun _ => .failed "ConnectError" ""

/-- The act goes first and takes the cast with it, so that two rounds drop a sheet each. -/
theorem generate_accounts_agree_on_stage :
    ∃ document objects g s₁ s',
      Run.from_ {} (Introspection.ofValue offline stagePlan.source) = (.ok document, s₁) ∧
      Introspection.objects document = .ok objects ∧
      (objects.map (·.name)).Nodup ∧
      Run.from_ {} (generate offline .survivors stagePlan .null) = (.ok g, s') ∧
      g.droppedSheets = ["Act", "Cast"] ∧
      g.droppedSheets.Perm ((g.diagnostics.byCode .danglingReference).map (·.path)) ∧
      g.workbook.sheets.map (·.slug) = ["Hall"] ∧
      g.summary.member "object_count" = .ok (.natural 3) ∧
      g.summary.member "warning_count" = .ok (.natural 3) := by
  have hread : ((Run.from_ {} (Introspection.ofValue offline stagePlan.source)).1.toOption.bind
      fun document => (Introspection.objects document).toOption).any (fun objects =>
        decide (objects.map (·.name)).Nodup &&
          (objects.flatMap (·.skippedFields)).length == 1) = true := by decide +kernel
  have hmade : (Run.from_ {} (generate offline .survivors stagePlan .null)).1.toOption.any (fun g =>
      g.objectNames == ["Act", "Cast", "Hall"] && g.droppedSheets == ["Act", "Cast"] &&
        g.workbook.sheets.length == 1) = true := by decide +kernel
  obtain ⟨objects, hfound, hread⟩ := (Option.any_eq_true _ _).1 hread
  obtain ⟨document, hdoc, hobjs⟩ := Option.bind_eq_some_iff.1 hfound
  obtain ⟨g, hg, hmade⟩ := (Option.any_eq_true _ _).1 hmade
  have hobjects : Introspection.objects document = .ok objects := eq_ok_of_toOption hobjs
  obtain ⟨s₁, hdocument⟩ := Run.exists_from_of_toOption hdoc
  obtain ⟨s', hrun⟩ := Run.exists_from_of_toOption hg
  simp only [Bool.and_eq_true, decide_eq_true_eq, beq_iff_eq] at hread hmade
  obtain ⟨hdistinct, hskipped⟩ := hread
  obtain ⟨⟨hnames, hdropped⟩, hsheets⟩ := hmade
  obtain ⟨-, hperm, -, hslugs, hobjectCount, -, -, hwarningCount⟩ :=
    generate_accounts_agree hdocument hobjects hdistinct hrun
  rw [hnames, hdropped] at hslugs
  rw [hsheets, hdropped] at hobjectCount
  rw [hdropped, hskipped] at hwarningCount
  exact ⟨document, objects, g, s₁, s', hdocument, hobjects, hdistinct, hrun, hdropped, hperm,
    hslugs, hobjectCount, hwarningCount⟩

end Workbook

end SchemaSheets
