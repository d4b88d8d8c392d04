import SchemaSheets.Descriptor.Workbook
import SchemaSheets.Proofs.Descriptor.Extras
import SchemaSheets.Proofs.Value.Portable

/-!
# Descriptors written and read back

A descriptor is written as a record and read from it by the check of its model.
A missing reference and null properties are not written, all else is.  So what is
read back is the descriptor itself, as long as its properties are portable and
none of them is null.
-/

namespace SchemaSheets

open Steps

namespace Check

variable {α : Type} {check : Value → Checked α} {es : Entries} {name : String} {v : Value} {a : α}

/-! ### Checks that succeed -/

theorem entries_eq_ok_iff {model : String} : entries model v = .ok es ↔ v = .map es := by
  cases v <;> simp [entries, fail]

theorem required_of_get? (hv : es.get? name = some v) (ha : check v = .ok a) :
    required es name check = .ok a := by
  rw [required, hv]
  exact within_eq_ok_iff.2 ha

theorem optional_of_get? (fallback : α) (hv : es.get? name = some v) (ha : check v = .ok a) :
    optional es name fallback check = .ok a := by
  rw [optional, hv]
  exact within_eq_ok_iff.2 ha

theorem nullable_of_ne_null (hv : v ≠ .null) (ha : check v = .ok a) :
    nullable check v = .ok (some a) := by
  unfold nullable
  split
  · exact absurd rfl hv
  · rw [ha]

theorem choice_of_lookup {choices : List (String × α)} {s : String}
    (h : choices.lookup s = some a) : choice choices (.str s) = .ok a := by
  simp [choice, Value.text?, h]

/-! ### Lists -/

theorem itemsFrom_eq_ok_iff {items : List Value} {as : List α} (i : Nat) :
    itemsFrom check i items = .ok as ↔ List.Forall₂ (fun v a => check v = .ok a) items as := by
  induction items generalizing i as with
  | nil => simp [itemsFrom, eq_comm]
  | cons v rest ih =>
    rw [itemsFrom, List.forall₂_cons_left_iff]
    constructor
    · intro h
      split at h
      · rename_i a as' hboth
        cases h
        obtain ⟨hv, hrest⟩ := both_eq_ok_iff.1 hboth
        exact ⟨a, as', within_eq_ok_iff.1 hv, (ih (i + 1)).1 hrest, rfl⟩
      · cases h
    · rintro ⟨a, as', hv, hrest, rfl⟩
      rw [hv, (ih (i + 1)).2 hrest]
      rfl

theorem list_map {as : List α} {write : α → Value} (h : ∀ a ∈ as, check (write a) = .ok a) :
    list check (.list (as.map write)) = .ok as := by
  refine (itemsFrom_eq_ok_iff 0).2 ?_
  rw [List.forall₂_map_left_iff, List.forall₂_same]
  exact h

/-- Items that are read back one by one are read back as a list. -/
theorem exists_list_of_mapM {as : List α} {write : α → Except Misuse Value}
    (h : ∀ a ∈ as, ∃ v, write a = .ok v ∧ check v = .ok a) :
    ∃ vs, as.mapM write = .ok vs ∧ list check (.list vs) = .ok as := by
  obtain ⟨vs, hvs⟩ := exists_mapM_eq_ok_iff.2 fun a ha => (h a ha).imp fun v hv => hv.1
  refine ⟨vs, hvs, (itemsFrom_eq_ok_iff 0).2 ?_⟩
  have hwritten : List.Forall₂ (fun a v => a ∈ as ∧ write a = .ok v) as vs :=
    (List.forall₂_and_left as vs).2 ⟨fun a ha => ha, mapM_eq_ok_iff.1 hvs⟩
  refine (hwritten.imp fun a v hav => ?_).flip
  obtain ⟨u, hu, hread⟩ := h a hav.1
  cases hu.symm.trans hav.2
  exact hread

theorem exists_check_of_list {as : List α} (h : list check v = .ok as) (ha : a ∈ as) :
    ∃ u, check u = .ok a := by
  have hitems : ∃ items, itemsFrom check 0 items = .ok as := by
    unfold list at h
    split at h
    · exact ⟨_, h⟩
    · exact ⟨_, h⟩
    · cases h
  obtain ⟨items, hitems⟩ := hitems
  have hread : List.Forall₂ (fun a v => (∃ u, check u = .ok a) ∧ check v = .ok a) as items :=
    ((itemsFrom_eq_ok_iff 0).1 hitems).flip.imp fun _ v hv => ⟨⟨v, hv⟩, hv⟩
  exact ((List.forall₂_and_left as items).1 hread).1 a ha

theorem exists_check_of_optional {as : List α} (h : optional es name [] (list check) = .ok as)
    (ha : a ∈ as) : ∃ u, check u = .ok a := by
  unfold optional at h
  split at h
  · exact exists_check_of_list (within_eq_ok_iff.1 h) ha
  · cases h
    cases ha

end Check

/-! ### Properties beside the declared ones -/

namespace Extras

variable {declared : List String} {extras : Extras}

/-- The properties are portable, and none of them is null. -/
def Lasting (extras : Extras) : Prop := ∀ p ∈ extras, p.2.IsPortable ∧ p.2 ≠ .null

theorem Lasting.toEntries_eq (h : extras.Lasting) : extras.toEntries false = .ok extras.record := by
  have hkept : (extras.filter fun p => p.2 != .null) = extras :=
    List.filter_eq_self.2 fun p hp => by simpa using (h p hp).2
  have hsteps : extras.toEntries false = (extras.filter fun p => p.2 != .null).mapM
      fun p => (do return (.str p.1, ← p.2.portable)) := rfl
  have hwritten : List.Forall₂ (fun p e => (do return (.str p.1, ← p.2.portable)) =
      (Except.ok e : Except Misuse (Scalar × Value))) extras extras.record := by
    rw [record, List.forall₂_map_right_iff, List.forall₂_same]
    intro p hp
    rw [(h p hp).1.portable_eq]
    rfl
  rw [hsteps, hkept]
  exact mapM_eq_ok_iff.2 hwritten

theorem Apart.without_record (h : extras.Apart declared) :
    Entries.without declared extras.record = extras.record := by
  refine List.filter_eq_self.2 fun e he => ?_
  obtain ⟨p, hp, rfl⟩ := List.mem_map.1 he
  have hname : p.1 ∉ declared := h.undeclared p.1 (List.mem_map_of_mem hp)
  simpa using fun n hn => (ne_of_mem_of_not_mem hn hname).symm

/-- The undeclared entries behind declared ones are the properties. -/
theorem Apart.extras_eq (h : extras.Apart declared) {own : Entries}
    (hown : Entries.without declared own = []) :
    Check.extras declared (own ++ extras.record) = .ok extras := by
  have hwithout : Entries.without declared (own ++ extras.record) = extras.record := by
    rw [Entries.without, List.filter_append]
    change Entries.without declared own ++ Entries.without declared extras.record = _
    rw [hown, h.without_record]
    rfl
  have hall : insertAll [] extras = extras := insertAll_of_nodup (by simpa using h.distinct)
  rw [Check.extras, hwithout, Check.extrasFrom_eq_ok_iff.2 rfl]
  exact congrArg Except.ok hall

end Extras

/-! ### Fields -/

theorem Constraint.check_toValue (c : Constraint) : Constraint.check c.toValue = .ok c := by
  cases c
  rfl

theorem Reference.check_toValue (r : Reference) : Reference.check r.toValue = .ok r := by
  obtain ⟨target, key, relationship⟩ := r
  cases relationship
  rfl

namespace Field

theorem check_eq_ok_iff {v : Value} {f : Field} :
    check v = .ok f ↔ ∃ es, v = .map es ∧
      Check.required es "key" Check.text = .ok f.key ∧
      Check.required es "label" Check.text = .ok f.label ∧
      Check.optional es "description" "" Check.text = .ok f.description ∧
      Check.required es "type" (Check.choice FieldType.names) = .ok f.type ∧
      Check.optional es "constraints" [] (Check.list Constraint.check) = .ok f.constraints ∧
      Check.optional es "multi" false Check.truth = .ok f.multi ∧
      Check.optional es "config" none (Check.nullable Reference.check) = .ok f.reference := by
  simp only [check, bind_eq_ok_iff, Check.entries_eq_ok_iff]
  refine exists_congr fun es => and_congr_right fun _ => ?_
  constructor
  · rintro ⟨⟨key, label, description, type, constraints, multi, reference⟩, hparts, he⟩
    cases he
    simpa only [Check.both_eq_ok_iff] using hparts
  · intro h
    refine ⟨(f.key, f.label, f.description, f.type, f.constraints, f.multi, f.reference), ?_, rfl⟩
    simpa only [Check.both_eq_ok_iff] using h

theorem check_toValue (f : Field) : check (f.toValue false) = .ok f := by
  have htype : Check.choice FieldType.names (.str f.type.name) = .ok f.type :=
    Check.choice_of_lookup (FieldType.lookup_name f.type)
  have hconstraints : Check.list Constraint.check (.list (f.constraints.map Constraint.toValue)) =
      .ok f.constraints := Check.list_map fun c _ => Constraint.check_toValue c
  refine check_eq_ok_iff.2 ⟨_, rfl, Check.required_of_get? rfl rfl,
    Check.required_of_get? rfl rfl, Check.optional_of_get? "" rfl rfl,
    Check.required_of_get? rfl htype, Check.optional_of_get? [] rfl hconstraints,
    Check.optional_of_get? false rfl rfl, ?_⟩
  -- a reference that is not there is not written, and its entry is then missed by the check
  obtain ⟨key, label, description, type, constraints, multi, reference⟩ := f
  cases reference with
  | none => rfl
  | some r =>
    have hreference : Check.nullable Reference.check r.toValue = .ok (some r) :=
      Check.nullable_of_ne_null nofun (Reference.check_toValue r)
    exact Check.optional_of_get? none rfl hreference

end Field

/-! ### Sheets -/

namespace Sheet

variable {s : Sheet}

theorem check_eq_ok_iff {v : Value} :
    check v = .ok s ↔ ∃ es, v = .map es ∧
      Check.required es "name" Check.text = .ok s.name ∧
      Check.required es "slug" Check.text = .ok s.slug ∧
      Check.optional es "description" "" Check.text = .ok s.description ∧
      Check.optional es "fields" [] (Check.list Field.check) = .ok s.fields ∧
      Check.extras declared es = .ok s.extras := by
  simp only [check, bind_eq_ok_iff, Check.entries_eq_ok_iff]
  refine exists_congr fun es => and_congr_right fun _ => ?_
  constructor
  · rintro ⟨⟨name, slug, description, fields, extras⟩, hparts, he⟩
    cases he
    simpa only [Check.both_eq_ok_iff] using hparts
  · intro h
    refine ⟨(s.name, s.slug, s.description, s.fields, s.extras), ?_, rfl⟩
    simpa only [Check.both_eq_ok_iff] using h

/-- A record that passes the check gives the sheet. -/
def Valid (s : Sheet) : Prop := ∃ v, check v = .ok s

theorem Valid.apart (h : s.Valid) : s.extras.Apart declared := by
  obtain ⟨v, hv⟩ := h
  obtain ⟨es, -, -, -, -, -, hextras⟩ := check_eq_ok_iff.1 hv
  exact Check.apart_of_extras hextras

theorem Valid.check_toValue (h : s.Valid) (hlasting : s.extras.Lasting) :
    ∃ v, s.toValue false = .ok v ∧ check v = .ok s := by
  have hfields : Check.list Field.check (.list (s.fields.map (Field.toValue false))) =
      .ok s.fields := Check.list_map fun f _ => Field.check_toValue f
  refine ⟨_, bind_eq_ok_iff.2 ⟨_, hlasting.toEntries_eq, rfl⟩, ?_⟩
  exact check_eq_ok_iff.2 ⟨_, rfl, Check.required_of_get? rfl rfl, Check.required_of_get? rfl rfl,
    Check.optional_of_get? "" rfl rfl, Check.optional_of_get? [] rfl hfields, h.apart.extras_eq rfl⟩

end Sheet

/-! ### Workbooks -/

namespace Workbook

variable {w : Workbook}

theorem check_eq_ok_iff {v : Value} :
    check v = .ok w ↔ ∃ es, v = .map es ∧
      Check.optional es "name" defaultWorkbookName Check.text = .ok w.name ∧
      Check.optional es "sheets" [] (Check.list Sheet.check) = .ok w.sheets ∧
      Check.extras declared es = .ok w.extras := by
  simp only [check, bind_eq_ok_iff, Check.entries_eq_ok_iff]
  refine exists_congr fun es => and_congr_right fun _ => ?_
  constructor
  · rintro ⟨⟨name, sheets, extras⟩, hparts, he⟩
    cases he
    simpa only [Check.both_eq_ok_iff] using hparts
  · intro h
    refine ⟨(w.name, w.sheets, w.extras), ?_, rfl⟩
    simpa only [Check.both_eq_ok_iff] using h

/-- A record that passes the check gives the workbook. -/
def Valid (w : Workbook) : Prop := ∃ v, check v = .ok w

/-- The properties of the workbook and of its sheets are portable, and none of them is null. -/
def Lasting (w : Workbook) : Prop := w.extras.Lasting ∧ ∀ s ∈ w.sheets, s.extras.Lasting

theorem Valid.apart (h : w.Valid) : w.extras.Apart declared := by
  obtain ⟨v, hv⟩ := h
  obtain ⟨es, -, -, -, hextras⟩ := check_eq_ok_iff.1 hv
  exact Check.apart_of_extras hextras

theorem Valid.sheet (h : w.Valid) {s : Sheet} (hs : s ∈ w.sheets) : s.Valid := by
  obtain ⟨v, hv⟩ := h
  obtain ⟨es, -, -, hsheets, -⟩ := check_eq_ok_iff.1 hv
  exact Check.exists_check_of_optional hsheets hs

theorem Valid.check_toValue (h : w.Valid) (hlasting : w.Lasting) :
    ∃ v, w.toValue false = .ok v ∧ check v = .ok w := by
  obtain ⟨vs, hvs, hsheets⟩ := Check.exists_list_of_mapM fun s hs =>
    (h.sheet hs).check_toValue (hlasting.2 s hs)
  refine ⟨_, bind_eq_ok_iff.2 ⟨vs, hvs, bind_eq_ok_iff.2 ⟨_, hlasting.1.toEntries_eq, rfl⟩⟩, ?_⟩
  exact check_eq_ok_iff.2 ⟨_, rfl, Check.optional_of_get? _ rfl rfl,
    Check.optional_of_get? [] rfl hsheets, h.apart.extras_eq rfl⟩

end Workbook

/-! ### Spaces -/

namespace Space

variable {s : Space}

theorem check_eq_ok_iff {v : Value} :
    check v = .ok s ↔ ∃ es, v = .map es ∧
      Check.optional es "workbooks" [] (Check.list Workbook.check) = .ok s.workbooks ∧
      Check.extras declared es = .ok s.extras := by
  simp only [check, bind_eq_ok_iff, Check.entries_eq_ok_iff]
  refine exists_congr fun es => and_congr_right fun _ => ?_
  constructor
  · rintro ⟨⟨workbooks, extras⟩, hparts, he⟩
    cases he
    simpa only [Check.both_eq_ok_iff] using hparts
  · intro h
    refine ⟨(s.workbooks, s.extras), ?_, rfl⟩
    simpa only [Check.both_eq_ok_iff] using h

/-- A record that passes the check gives the space. -/
def Valid (s : Space) : Prop := ∃ v, check v = .ok s

/-- The properties of the space and of all below it are portable, and none of them is null. -/
def Lasting (s : Space) : Prop := s.extras.Lasting ∧ ∀ w ∈ s.workbooks, w.Lasting

theorem Valid.apart (h : s.Valid) : s.extras.Apart declared := by
  obtain ⟨v, hv⟩ := h
  obtain ⟨es, -, -, hextras⟩ := check_eq_ok_iff.1 hv
  exact Check.apart_of_extras hextras

theorem Valid.workbook (h : s.Valid) {w : Workbook} (hw : w ∈ s.workbooks) : w.Valid := by
  obtain ⟨v, hv⟩ := h
  obtain ⟨es, -, hworkbooks, -⟩ := check_eq_ok_iff.1 hv
  exact Check.exists_check_of_optional hworkbooks hw

theorem Valid.check_toValue (h : s.Valid) (hlasting : s.Lasting) :
    ∃ v, s.toValue false = .ok v ∧ check v = .ok s := by
  obtain ⟨vs, hvs, hworkbooks⟩ := Check.exists_list_of_mapM fun w hw =>
    (h.workbook hw).check_toValue (hlasting.2 w hw)
  refine ⟨_, bind_eq_ok_iff.2 ⟨vs, hvs, bind_eq_ok_iff.2 ⟨_, hlasting.1.toEntries_eq, rfl⟩⟩, ?_⟩
  have hown : Entries.without declared [(.str "workbooks", .list vs)] = [] := rfl
  exact check_eq_ok_iff.2 ⟨_, rfl, Check.optional_of_get? [] rfl hworkbooks, h.apart.extras_eq hown⟩

end Space

/-- Writing loses nothing: the record of a workbook or a space passes the check of its model and
gives the very workbook or space, each property at its place. -/
theorem written_workbooks_and_spaces_read_back :
    (∀ w : Workbook, w.Valid → w.Lasting →
      ∃ v, w.toValue false = .ok v ∧ Workbook.check v = .ok w) ∧
    ∀ s : Space, s.Valid → s.Lasting → ∃ v, s.toValue false = .ok v ∧ Space.check v = .ok s :=
  ⟨fun _ hvalid hlasting => hvalid.check_toValue hlasting,
    fun _ hvalid hlasting => hvalid.check_toValue hlasting⟩

/-- A workbook with a reference, a constraint, and nulls inside of its properties. -/
def filmWorkbook : Workbook where
  name := "Films"
  sheets := [{
    name := "Movie"
    slug := "Movie"
    fields := [
      { key := "id", label := "Id", type := .number, constraints := [.required] },
      { key := "director", label := "Director", type := .reference,
        reference := some { target := "Person" } }]
    extras := [("actions", .list [.null, .bool true]), ("color", .str "red")] }]
  extras := [("labels", .list []), ("settings", .map [(.str "owner", .null), (.str "size", .int 2)])]

/-- A space with this workbook. -/
def filmSpace : Space where
  workbooks := [filmWorkbook]
  extras := [("metadata", .map [(.str "sidebar", .list [.null])])]

theorem filmWorkbook_and_filmSpace_read_back :
    (filmWorkbook.Valid ∧ filmWorkbook.Lasting ∧
      ∃ v, filmWorkbook.toValue false = .ok v ∧ Workbook.check v = .ok filmWorkbook) ∧
    filmSpace.Valid ∧ filmSpace.Lasting ∧
      ∃ v, filmSpace.toValue false = .ok v ∧ Space.check v = .ok filmSpace := by
  have hvalid : filmWorkbook.Valid := by
    obtain ⟨v, -, hv⟩ : ∃ v, filmWorkbook.toValue false = .ok v ∧
        Workbook.check v = .ok filmWorkbook := ⟨_, rfl, rfl⟩
    exact ⟨v, hv⟩
  have hspace : filmSpace.Valid := by
    obtain ⟨v, -, hv⟩ : ∃ v, filmSpace.toValue false = .ok v ∧ Space.check v = .ok filmSpace :=
      ⟨_, rfl, rfl⟩
    exact ⟨v, hv⟩
  have hnull : (Value.list [.null]).IsPortable := .list (List.forall_mem_singleton.2 .null)
  have hactions : (Value.list [.null, .bool true]).IsPortable :=
    .list (List.forall_mem_cons.2 ⟨.null, List.forall_mem_singleton.2 (.bool true)⟩)
  have hsettings : (Value.map [(.str "owner", .null), (.str "size", .int 2)]).IsPortable :=
    .map (List.forall_mem_cons.2 ⟨⟨_, rfl⟩, List.forall_mem_singleton.2 ⟨_, rfl⟩⟩) (by decide)
      (List.forall_mem_cons.2 ⟨.null, List.forall_mem_singleton.2 (.int 2)⟩)
  have hmetadata : (Value.map [(.str "sidebar", .list [.null])]).IsPortable :=
    .map (List.forall_mem_singleton.2 ⟨_, rfl⟩) (by decide) (List.forall_mem_singleton.2 hnull)
  have hlasting : filmWorkbook.Lasting := by
    refine ⟨List.forall_mem_cons.2 ⟨⟨.list nofun, nofun⟩, ?_⟩, List.forall_mem_singleton.2 ?_⟩
    · exact List.forall_mem_singleton.2 ⟨hsettings, nofun⟩
    · exact List.forall_mem_cons.2
        ⟨⟨hactions, nofun⟩, List.forall_mem_singleton.2 ⟨.str "red", nofun⟩⟩
  have hall : filmSpace.Lasting :=
    ⟨List.forall_mem_singleton.2 ⟨hmetadata, nofun⟩, List.forall_mem_singleton.2 hlasting⟩
  exact ⟨⟨hvalid, hlasting, written_workbooks_and_spaces_read_back.1 _ hvalid hlasting⟩,
    hspace, hall, written_workbooks_and_spaces_read_back.2 _ hspace hall⟩

end SchemaSheets
