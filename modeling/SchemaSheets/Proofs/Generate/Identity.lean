import SchemaSheets.Proofs.Generate.Conservation

/-!
# The identity field

The fields of a sheet have distinct keys if those of its object have distinct
names, and just one of them is the identity field.  It is the object's own where
a column is made from that one, in the place it has there, and else a number in
front of all columns.
-/

namespace SchemaSheets

open Steps

variable {o : SourceObject} {t : Sheet} {fs : List SourceField} {columns : List Field}
  {overrides : List SheetOverride} {s : Session}

/-! ### Keys of columns -/

theorem names_of_becomes (h : List.Forall₂ SourceField.Becomes fs columns) :
    (columns.map Field.key).map Value.str = fs.map (·.name) := by
  induction h with
  | nil => rfl
  | cons hc _ ih => rw [List.map_cons, List.map_cons, List.map_cons, ih, hc.1]

theorem SourceObject.nodup_keptFields (h : o.fieldNames.Nodup) :
    (o.keptFields.map (·.name)).Nodup :=
  (List.filter_sublist.map _).nodup h

theorem nodup_keys_of_becomes (hnames : (fs.map (·.name)).Nodup)
    (h : List.Forall₂ SourceField.Becomes fs columns) : (columns.map Field.key).Nodup := by
  have hmap := names_of_becomes h
  rw [← hmap] at hnames
  exact hnames.of_map _

theorem mem_id_iff (h : List.Forall₂ SourceField.Becomes o.keptFields columns) :
    idKey ∈ columns.map Field.key ↔ o.hasId = true := by
  rw [← Sheet.any_key_eq_hasId h]
  simp

/-! ### Sheets -/

namespace Sheet

theorem AccountsFor.nodup_keys (h : AccountsFor o t) (hnames : o.fieldNames.Nodup) :
    (t.fields.map Field.key).Nodup := by
  obtain ⟨columns, hcolumns, hfields⟩ := h.columns
  have hnodup : (columns.map Field.key).Nodup :=
    nodup_keys_of_becomes (SourceObject.nodup_keptFields hnames) hcolumns
  rw [hfields]
  cases hid : o.hasId with
  | true => exact hnodup
  | false =>
    have hnone : idField.key ∉ columns.map Field.key := by
      intro hmem
      have hhas : o.hasId = true := (mem_id_iff hcolumns).1 hmem
      rw [hid] at hhas
      contradiction
    exact List.nodup_cons.2 ⟨hnone, hnodup⟩

theorem AccountsFor.id_mem (h : AccountsFor o t) : idKey ∈ t.fields.map Field.key := by
  obtain ⟨columns, hcolumns, hfields⟩ := h.columns
  rw [hfields]
  cases hid : o.hasId with
  | true => exact (mem_id_iff hcolumns).2 hid
  | false => exact .head _

theorem AccountsFor.id_in_front (h : AccountsFor o t)
    (hnone : ∀ f ∈ o.keptFields, f.name ≠ .str idKey) : t.fields.head? = some idField := by
  obtain ⟨columns, -, hfields⟩ := h.columns
  have hid : o.hasId = false := by simpa [SourceObject.hasId] using hnone
  rw [hfields, hid]
  rfl

/-- With an identity field of its own, the object's kept fields and the columns stand in the same
places. -/
theorem AccountsFor.own_id (h : AccountsFor o t) {i : Nat} {f : SourceField}
    (hf : o.keptFields[i]? = some f) (hname : f.name = .str idKey) :
    ∃ c, t.fields[i]? = some c ∧ f.Becomes c := by
  obtain ⟨columns, hcolumns, hfields⟩ := h.columns
  have hid : o.hasId = true := by
    have hmem : f ∈ o.keptFields := List.mem_of_getElem? hf
    simpa [SourceObject.hasId] using ⟨f, hmem, hname⟩
  rw [hfields, hid]
  exact exists_getElem?_of_forall₂ hcolumns hf

theorem generateWith_eq {given : Value} (h : SheetOverride.listOfValue given = .ok overrides)
    (hname : ∃ slug, o.name = .str slug) (s : Session) :
    Run.from_ s (generateWith o given) = Run.from_ s (generate o overrides) := by
  obtain ⟨slug, hslug⟩ := hname
  have hbuilder : SheetBuilder.ofValue o.name = .ok (.ofSlug slug) := by
    rw [hslug]
    rfl
  rw [generateWith, hbuilder, h]
  rfl

/-- From an object whose parts are typed and whose fields have distinct names, a sheet is made
whatever the overrides are.  Its fields have distinct keys, of which one is that of the identity
field.  If no kept field of the object is one, it is a number in front, free of demands; and else it
is the column of that field in the same place. -/
theorem generate_one_identity (ho : o.Typed) (hnames : o.fieldNames.Nodup)
    (overrides : List SheetOverride) (s : Session) :
    ∃ t s', Run.from_ s (generate o overrides) = (.ok t, s') ∧
      (∀ given, SheetOverride.listOfValue given = .ok overrides →
        Run.from_ s (generateWith o given) = (.ok t, s')) ∧
      (t.fields.map Field.key).Nodup ∧ (t.fields.map Field.key).count "id" = 1 ∧
      ((∀ f ∈ o.keptFields, f.name ≠ .str "id") → ∃ c, t.fields.head? = some c ∧ c.key = "id" ∧
        c.type = .number ∧ c.constraints = [] ∧ c.multi = false ∧ c.reference = none) ∧
      ∀ (i : Nat) (f : SourceField), o.keptFields[i]? = some f → f.name = .str "id" →
        ∃ c, t.fields[i]? = some c ∧ c.key = "id" ∧ f.Becomes c := by
  obtain ⟨⟨t, notes⟩, haccount⟩ : ∃ p, account overrides o = .ok p :=
    account_succeeds_iff.2 ho.usable
  have hfor : AccountsFor o t :=
    (accountsFor_of_account (fun f hf => (ho.fields f hf).hasType) haccount).1
  have hrun : Run.from_ s (generate o overrides) = (.ok t, s.noted notes) :=
    (generate_keeps o overrides).from_eq_ok_iff.2 ⟨notes, haccount, rfl⟩
  have hnodup := hfor.nodup_keys hnames
  refine ⟨t, s.noted notes, hrun, fun given hgiven => ?_, hnodup, ?_, fun hnone => ?_,
    fun i f hf hname => ?_⟩
  · rw [generateWith_eq hgiven ho.name, hrun]
  · exact List.count_eq_one_of_mem hnodup hfor.id_mem
  · exact ⟨idField, hfor.id_in_front hnone, rfl, rfl, rfl, rfl, rfl⟩
  · obtain ⟨c, hc, hbecomes⟩ := hfor.own_id hf hname
    have hkey : Value.str c.key = .str "id" := hbecomes.1.symm.trans hname
    exact ⟨c, hc, by simpa using hkey, hbecomes⟩

/-- An override that brings a name, a description and fields of its own. -/
def competing (slug : String) : SheetOverride where
  slug
  name := some "Renamed"
  extras := [("description", .str "theirs"),
    ("fields", .list [.record [("key", .str "id")], .record [("key", .str "id")]])]

/-- No column is made from its own identity field. -/
def reel : SourceObject where
  name := .str "Reel"
  fields := [
    { name := .str "minutes", type := .scalar (.str "Int") },
    { name := .str "id", type := .nonNull (.nonNull (.other "UNION" (.str "Key"))) }]

/-- Its own identity field is the last of three, and the second of which a column is made. -/
def screening : SourceObject where
  name := .str "Screening"
  fields := [
    { name := .str "kind", type := .other "ENUM" (.str "Kind") },
    { name := .str "film", type := .object (.str "Film") },
    { name := .str "id", type := .nonNull (.scalar (.str "ID")) }]

theorem generate_one_identity_of_reel_and_screening :
    (reel.Typed ∧ reel.fieldNames.Nodup ∧ ∃ t s',
      Run.from_ {} (generate reel [competing "Reel"]) = (.ok t, s') ∧
      (t.fields.map Field.key).Nodup ∧ (t.fields.map Field.key).count "id" = 1 ∧
      ∃ c, t.fields.head? = some c ∧ c.key = "id" ∧ c.type = .number) ∧
    screening.Typed ∧ screening.fieldNames.Nodup ∧ ∃ t s',
      Run.from_ {} (generate screening [competing "Screening"]) = (.ok t, s') ∧
      (t.fields.map Field.key).Nodup ∧ (t.fields.map Field.key).count "id" = 1 ∧
      ∃ c, t.fields[1]? = some c ∧ c.key = "id" := by
  have hreel : reel.Typed := by
    refine ⟨⟨_, rfl⟩, ⟨_, rfl⟩, ?_⟩
    simp only [reel, List.forall_mem_cons, List.not_mem_nil, false_implies, implies_true, and_true]
    exact ⟨⟨⟨_, rfl⟩, ⟨_, rfl⟩, _, rfl⟩, ⟨_, rfl⟩, ⟨_, rfl⟩, trivial⟩
  have hscreening : screening.Typed := by
    refine ⟨⟨_, rfl⟩, ⟨_, rfl⟩, ?_⟩
    simp only [screening, List.forall_mem_cons, List.not_mem_nil, false_implies, implies_true,
      and_true]
    exact ⟨⟨⟨_, rfl⟩, ⟨_, rfl⟩, trivial⟩, ⟨⟨_, rfl⟩, ⟨_, rfl⟩, _, rfl⟩, ⟨_, rfl⟩, ⟨_, rfl⟩, _, rfl⟩
  have hreelNames : reel.fieldNames.Nodup := by simp [reel, SourceObject.fieldNames]
  have hscreeningNames : screening.fieldNames.Nodup := by simp [screening, SourceObject.fieldNames]
  obtain ⟨t, s, hrun, -, hnodup, hone, hfront, -⟩ :=
    generate_one_identity hreel hreelNames [competing "Reel"] {}
  obtain ⟨t', s', hrun', -, hnodup', hone', -, hown⟩ :=
    generate_one_identity hscreening hscreeningNames [competing "Screening"] {}
  have hnone : ∀ f ∈ reel.keptFields, f.name ≠ .str "id" := by
    intro f hf
    obtain rfl : f = { name := .str "minutes", type := .scalar (.str "Int") } :=
      List.mem_singleton.1 hf
    simp
  obtain ⟨c, hc, hkey, hnumber, -⟩ := hfront hnone
  obtain ⟨c', hc', hkey', -⟩ := hown 1 _ rfl rfl
  exact ⟨⟨hreel, hreelNames, t, s, hrun, hnodup, hone, c, hc, hkey, hnumber⟩,
    hscreening, hscreeningNames, t', s', hrun', hnodup', hone', c', hc', hkey'⟩

end Sheet

end SchemaSheets
