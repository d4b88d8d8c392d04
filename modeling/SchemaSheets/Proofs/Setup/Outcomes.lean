import SchemaSheets.Proofs.Setup.Plans

/-!
# Outcomes of setups

What a text leads to that takes no source from a file.  A setup is made in
stages: the text is read, the shape of the document is found, a plan is made of
each entry, and the properties of the space are checked.  Each stage fails in
ways of its own, so the failure tells the stage.
-/

namespace SchemaSheets

open Steps

/-- The failure of a setup that is about no entry in particular. -/
def Failure.OfShape (e : Failure) : Prop := ∃ f, e = .setup f ∧ f.entry? = none

/-- The keys are texts, or bytes that encode one. -/
def Entries.TextKeyed (es : Entries) : Prop := ∀ e ∈ es, ∃ s, Check.text (.scalar e.1) = .ok s

theorem Check.textKeyed_succeeds_iff {es : Entries} :
    (∃ found, Check.textKeyed (.map es) = .ok found) ↔ es.TextKeyed := by
  have hkeys : (∃ found, Check.textKeyed.keysFrom es = .ok found) ↔ es.TextKeyed := by
    induction es with
    | nil => simp [Check.textKeyed.keysFrom, Entries.TextKeyed]
    | cons e rest ih =>
      obtain ⟨k, v⟩ := e
      rw [Entries.TextKeyed, List.forall_mem_cons]
      change _ ↔ _ ∧ Entries.TextKeyed rest
      rw [← ih]
      simp only [Check.textKeyed.keysFrom]
      cases Check.text (.scalar k) <;> cases Check.textKeyed.keysFrom rest <;>
        simp [Check.within, Check.both]
  rw [← hkeys]
  simp only [Check.textKeyed]
  cases Check.textKeyed.keysFrom es <;> simp

namespace Setup

variable {files : Files} {base : Path} {root defaults space : Entries}
  {entries : List Value} {i : Nat}

/-! ### The shape of a document -/

/-- The entries for workbooks, the defaults and the properties of the space. -/
structure Shape (root : Entries) (entries : List Value) (defaults space : Entries) : Prop where
  entries : root.get? "workbooks" = some (.list entries) ∨
    root.get? "workbooks" = none ∧ (root.has "source" = true ∨ root.has "source_file" = true) ∧
      entries = [.map (root.without ["defaults", "space"])]
  defaults : (root.get "defaults").orElse (.map []) = .map defaults
  space : (root.get "space").orElse (.map []) = .map space

theorem workbookEntries_eq_ok_iff :
    workbookEntries root = .ok entries ↔
      root.get? "workbooks" = some (.list entries) ∨
        root.get? "workbooks" = none ∧ (root.has "source" = true ∨ root.has "source_file" = true) ∧
          entries = [.map (root.without ["defaults", "space"])] := by
  unfold workbookEntries
  cases hlisted : root.get? "workbooks" with
  | some v => cases v <;> simp
  | none =>
    cases root.has "source" <;> cases root.has "source_file" <;> simp [eq_comm]

theorem sharedEntries_eq_ok_iff {name : String} :
    sharedEntries root name = .ok defaults ↔
      (root.get name).orElse (.map []) = .map defaults := by
  unfold sharedEntries
  split <;> simp_all

theorem shapeOf_eq_ok_iff :
    shapeOf root = .ok (entries, defaults, space) ↔ Shape root entries defaults space := by
  simp only [shapeOf, bind_eq_ok_iff, workbookEntries_eq_ok_iff, sharedEntries_eq_ok_iff]
  constructor
  · rintro ⟨_, hentries, _, hdefaults, _, hspace, he⟩
    cases he
    exact ⟨hentries, hdefaults, hspace⟩
  · rintro ⟨hentries, hdefaults, hspace⟩
    exact ⟨_, hentries, _, hdefaults, _, hspace, rfl⟩

theorem shapeOf_failsOnly (root : Entries) : FailsOnly Failure.OfShape (shapeOf root) := by
  have hentries : FailsOnly Failure.OfShape (workbookEntries root) := by
    unfold workbookEntries
    split
    · exact failsOnly_ok _
    · exact failsOnly_error ⟨_, rfl, rfl⟩
    · split
      · exact failsOnly_ok _
      · exact failsOnly_error ⟨_, rfl, rfl⟩
  have hshared : ∀ name, FailsOnly Failure.OfShape (sharedEntries root name) := by
    intro name
    unfold sharedEntries
    split
    · exact failsOnly_ok _
    · exact failsOnly_error ⟨_, rfl, rfl⟩
  exact hentries.bind fun _ => (hshared _).bind fun _ => (hshared _).bind fun _ => failsOnly_ok _

theorem Shape.unique {entries' : List Value} {defaults' space' : Entries}
    (h : Shape root entries defaults space) (h' : Shape root entries' defaults' space') :
    entries = entries' ∧ defaults = defaults' ∧ space = space' := by
  have he := (shapeOf_eq_ok_iff.2 h).symm.trans (shapeOf_eq_ok_iff.2 h')
  simpa using he

/-- No entry and no defaults name a file. -/
structure WithoutFiles (root : Entries) : Prop where
  alone : root.has "source_file" = false
  shared : ∀ d : Entries, root.get "defaults" = .map d → d.has "source_file" = false
  listed : ∀ (vs : List Value) (own : Entries), root.get? "workbooks" = some (.list vs) →
    .map own ∈ vs → own.has "source_file" = false

mutual
/-- No collection in the value holds itself. -/
def isTree : Value → Bool
  | .scalar (.again _) => false
  | .list vs => areTrees vs
  | .map es => haveTrees es
  | _ => true

def areTrees : List Value → Bool
  | [] => true
  | v :: vs => isTree v && areTrees vs

def haveTrees : Entries → Bool
  | [] => true
  | (_, v) :: es => isTree v && haveTrees es
end

/-- The document takes no source from a file, and no collection in it holds itself; of one that does
a value only shows that it stands there again, which is too little to merge it. -/
structure Plain (root : Entries) : Prop where
  files : WithoutFiles root
  tree : isTree (.map root) = true

theorem Shape.namesNoFile (hs : Shape root entries defaults space) (hf : WithoutFiles root) :
    ∀ v ∈ entries, NamesNoFile defaults v := by
  have hdefaults : defaults.has "source_file" = false := by
    have hd := hs.defaults
    rw [Value.orElse] at hd
    split at hd
    · exact hf.shared defaults hd
    · cases hd
      rfl
  rintro v hv own rfl
  rw [Entries.has_merge, hdefaults, Bool.false_or]
  rcases hs.entries with hlist | ⟨-, -, rfl⟩
  · exact hf.listed entries own hlist hv
  · cases List.mem_singleton.1 hv
    exact Entries.not_has_without _ hf.alone

/-! ### The stages of a setup -/

theorem ofDocument_eq (files : Files) (base : Path) (root : Entries) :
    ofDocument files base (.map root) = shapeOf root >>= fun shape =>
      plansFrom files base shape.2.1 0 shape.1 >>= finish shape.2.2 := rfl

theorem finish_succeeds_iff {plans : List WorkbookPlan} :
    (∃ setup, finish space plans = .ok setup) ↔ space.TextKeyed := by
  rw [← Check.textKeyed_succeeds_iff, finish]
  cases Check.textKeyed (.map space) <;> simp [Check.within, Check.named]

theorem finish_failsOnly (space : Entries) (plans : List WorkbookPlan) :
    FailsOnly Failure.OfValue (finish space plans) := by
  unfold finish
  split
  · exact failsOnly_ok _
  · exact failsOnly_error trivial

theorem ofDocument_succeeds_iff (hf : WithoutFiles root) :
    (∃ setup, ofDocument files base (.map root) = .ok setup) ↔ ∃ entries defaults space,
      Shape root entries defaults space ∧ (∀ v ∈ entries, Planned defaults v) ∧
        space.TextKeyed := by
  rw [ofDocument_eq]
  simp only [bind_eq_ok_iff]
  constructor
  · rintro ⟨setup, ⟨entries, defaults, space⟩, hshape, plans, hplans, hfinish⟩
    have hs := shapeOf_eq_ok_iff.1 hshape
    have hplanned := (plansFrom_succeeds_iff files base 0 (hs.namesNoFile hf)).1 ⟨plans, hplans⟩
    exact ⟨entries, defaults, space, hs, hplanned, finish_succeeds_iff.1 ⟨setup, hfinish⟩⟩
  · rintro ⟨entries, defaults, space, hs, hplanned, hspace⟩
    obtain ⟨plans, hplans⟩ := (plansFrom_succeeds_iff files base 0 (hs.namesNoFile hf)).2 hplanned
    obtain ⟨setup, hfinish⟩ := finish_succeeds_iff.2 hspace
    exact ⟨setup, _, shapeOf_eq_ok_iff.2 hs, plans, hplans, hfinish⟩

theorem ofDocument_of_shape (hs : Shape root entries defaults space) {e : SetupFailure} :
    ofDocument files base (.map root) = .error (.setup e) ↔
      plansFrom files base defaults 0 entries = .error (.setup e) := by
  rw [ofDocument_eq, shapeOf_eq_ok_iff.2 hs]
  change (plansFrom files base defaults 0 entries >>= finish space) = _ ↔ _
  rw [bind_eq_error_iff, or_iff_left]
  rintro ⟨plans, -, hfinish⟩
  exact finish_failsOnly space plans _ hfinish

theorem ofDocument_of_no_shape (files : Files) (base : Path)
    (hs : ∀ entries defaults space, ¬Shape root entries defaults space) :
    ∃ e, ofDocument files base (.map root) = .error (.setup e) ∧ e.entry? = none := by
  rw [ofDocument_eq]
  cases hshape : shapeOf root with
  | ok shape => exact absurd (shapeOf_eq_ok_iff.1 hshape) (hs _ _ _)
  | error e =>
    obtain ⟨f, rfl, hf⟩ := shapeOf_failsOnly root e hshape
    exact ⟨f, rfl, hf⟩

theorem ofDocument_shape_iff (hf : WithoutFiles root) :
    (∃ e, ofDocument files base (.map root) = .error (.setup e) ∧ e.entry? = none) ↔
      ∀ entries defaults space, ¬Shape root entries defaults space := by
  refine ⟨?_, ofDocument_of_no_shape files base⟩
  rintro ⟨e, he, hnone⟩ entries defaults space hs
  rw [ofDocument_of_shape hs] at he
  rcases plansFrom_failsOnly files base 0 (hs.namesNoFile hf) _ he with ⟨f, i, hfe, hi⟩ | hvalue
  · cases hfe
    cases hnone.symm.trans hi
  · exact hvalue

theorem ofDocument_stops_iff (hf : WithoutFiles root) :
    (∃ e, ofDocument files base (.map root) = .error (.setup e) ∧ e.entry? = some i) ↔
      ∃ entries defaults space own, Shape root entries defaults space ∧
        StopsAt defaults entries i (.map own) := by
  constructor
  · rintro ⟨e, he, hi⟩
    by_cases hs : ∃ entries defaults space, Shape root entries defaults space
    · obtain ⟨entries, defaults, space, hs⟩ := hs
      rw [ofDocument_of_shape hs] at he
      rw [← Nat.zero_add i] at hi
      obtain ⟨own, hstops⟩ := (plansFrom_setup_iff files base 0 i (hs.namesNoFile hf)).1 ⟨e, he, hi⟩
      exact ⟨entries, defaults, space, own, hs, hstops⟩
    · obtain ⟨e', he', hnone⟩ := ofDocument_of_no_shape files base
        fun entries defaults space hshape => hs ⟨entries, defaults, space, hshape⟩
      cases he.symm.trans he'
      cases hnone.symm.trans hi
  · rintro ⟨entries, defaults, space, own, hs, hstops⟩
    obtain ⟨e, he, hi⟩ :=
      (plansFrom_setup_iff files base 0 i (hs.namesNoFile hf)).2 ⟨own, hstops⟩
    rw [Nat.zero_add] at hi
    exact ⟨e, (ofDocument_of_shape hs).2 he, hi⟩

theorem ofDocument_failsOnly (hf : WithoutFiles root) :
    FailsOnly (fun e => (∃ f, e = .setup f) ∨ e.OfValue) (ofDocument files base (.map root)) := by
  intro e he
  rw [ofDocument_eq, bind_eq_error_iff] at he
  rcases he with hshape | ⟨⟨entries, defaults, space⟩, hshape, hplans⟩
  · obtain ⟨f, rfl, -⟩ := shapeOf_failsOnly root e hshape
    exact .inl ⟨f, rfl⟩
  · rcases bind_eq_error_iff.1 hplans with hplans | ⟨plans, -, hfinish⟩
    · have hs := shapeOf_eq_ok_iff.1 hshape
      rcases plansFrom_failsOnly files base 0 (hs.namesNoFile hf) e hplans with
        ⟨f, i, rfl, -⟩ | hvalue
      · exact .inl ⟨f, rfl⟩
      · exact .inr hvalue
    · exact .inr (finish_failsOnly space plans e hfinish)

/-! ### From a text to a setup -/

section

variable [Capacity]

theorem read_failsOnly (format : Format) (name text : String) :
    FailsOnly (fun e => e.OfShape ∨ e.OfValue) (format.read name text) := by
  unfold Format.read
  split
  · split
    · exact failsOnly_ok _
    · exact failsOnly_error (.inr trivial)
    · exact failsOnly_error (.inr trivial)
    · exact failsOnly_error (.inl ⟨_, rfl, rfl⟩)
  · split
    · exact failsOnly_ok _
    · exact failsOnly_error (.inr trivial)
    · exact failsOnly_error (.inl ⟨_, rfl, rfl⟩)

/-- The directory that a setup's files lie relative to. -/
def directory (files : Files) (base : String) : Path :=
  if base == "" then { anchor := .home files.home } else Path.ofText base

theorem ofText_eq (files : Files) (base format text : String) :
    ofText files base format text =
      (Format.forReading format).read format text >>= ofDocument files (directory files base) := rfl

/-- The text is a document whose root is a mapping. -/
def Reads (format text : String) (root : Entries) : Prop :=
  (Format.forReading format).read format text = .ok (.map root)

variable {format text baseName : String}

theorem Reads.unique {root' : Entries} (h : Reads format text root)
    (h' : Reads format text root') : root = root' := by
  simpa using h.symm.trans h'

theorem ofText_of_reads (files : Files) (baseName : String) (h : Reads format text root) :
    ofText files baseName format text = ofDocument files (directory files baseName) (.map root) := by
  rw [ofText_eq, h]
  rfl

/-- Unless the text is a mapping, it is refused as it is read or right after. -/
theorem reads_or_refused (files : Files) (baseName format text : String) :
    (∃ root, Reads format text root) ∨
      (∀ root, ¬Reads format text root) ∧
        ∃ e, ofText files baseName format text = .error e ∧
          ((Format.forReading format).read format text = .error e ∨
            (∃ document, (Format.forReading format).read format text = .ok document) ∧
              e = .setup .notMapping) := by
  rw [ofText_eq]
  unfold Reads
  cases (Format.forReading format).read format text with
  | error e => exact .inr ⟨nofun, e, rfl, .inl rfl⟩
  | ok document =>
    cases document with
    | map root => exact .inl ⟨root, rfl⟩
    | _ => exact .inr ⟨nofun, .setup .notMapping, rfl, .inr ⟨⟨_, rfl⟩, rfl⟩⟩

theorem ofText_succeeds_iff (h : ∀ root, Reads format text root → Plain root) :
    (∃ setup, ofText files baseName format text = .ok setup) ↔
      ∃ root entries defaults space, Reads format text root ∧
        Shape root entries defaults space ∧ (∀ v ∈ entries, Planned defaults v) ∧
          space.TextKeyed := by
  rcases reads_or_refused files baseName format text with ⟨r, hr⟩ | ⟨hno, e, he, -⟩
  · rw [ofText_of_reads files baseName hr, ofDocument_succeeds_iff (h r hr).files]
    constructor
    · rintro ⟨entries, defaults, space, hrest⟩
      exact ⟨r, entries, defaults, space, hr, hrest⟩
    · rintro ⟨r', entries, defaults, space, hr', hrest⟩
      obtain rfl := hr.unique hr'
      exact ⟨entries, defaults, space, hrest⟩
  · rw [he]
    exact iff_of_false nofun fun ⟨r, _, _, _, hr, _⟩ => hno r hr

theorem ofText_stops_iff (h : ∀ root, Reads format text root → Plain root) :
    (∃ e, ofText files baseName format text = .error (.setup e) ∧ e.entry? = some i) ↔
      ∃ root entries defaults space own, Reads format text root ∧
        Shape root entries defaults space ∧ StopsAt defaults entries i (.map own) := by
  rcases reads_or_refused files baseName format text with ⟨r, hr⟩ | ⟨hno, e, he, hwhy⟩
  · rw [ofText_of_reads files baseName hr, ofDocument_stops_iff (h r hr).files]
    constructor
    · rintro ⟨entries, defaults, space, own, hrest⟩
      exact ⟨r, entries, defaults, space, own, hr, hrest⟩
    · rintro ⟨r', entries, defaults, space, own, hr', hrest⟩
      obtain rfl := hr.unique hr'
      exact ⟨entries, defaults, space, own, hrest⟩
  · refine iff_of_false ?_ fun ⟨r, _, _, _, _, hr, _⟩ => hno r hr
    rintro ⟨f, hf, hi⟩
    cases he.symm.trans hf
    rcases hwhy with hread | ⟨-, hmapping⟩
    · rcases read_failsOnly _ format text _ hread with ⟨f', hf', hnone⟩ | hvalue
      · cases hf'
        cases hnone.symm.trans hi
      · exact hvalue
    · cases hmapping
      cases hi

theorem ofText_shape_iff (h : ∀ root, Reads format text root → Plain root) :
    (∃ e, ofText files baseName format text = .error (.setup e) ∧ e.entry? = none) ↔
      (∃ e, (Format.forReading format).read format text = .error (.setup e)) ∨
        ∃ document, (Format.forReading format).read format text = .ok document ∧
          ∀ root entries defaults space, document = .map root →
            ¬Shape root entries defaults space := by
  rcases reads_or_refused files baseName format text with ⟨r, hr⟩ | ⟨hno, e, he, hwhy⟩
  · rw [ofText_of_reads files baseName hr, ofDocument_shape_iff (h r hr).files, hr]
    constructor
    · intro hshape
      refine .inr ⟨_, rfl, fun r' entries defaults space hr' => ?_⟩
      cases hr'
      exact hshape entries defaults space
    · rintro (⟨e, he⟩ | ⟨d', hd', hshape⟩) entries defaults space
      · cases he
      · cases hd'
        exact hshape r entries defaults space rfl
  · rw [he]
    rcases hwhy with hread | ⟨⟨d, hread⟩, rfl⟩
    · -- what the reader reports of the setup is never about an entry
      rw [hread]
      constructor
      · rintro ⟨f, hf, -⟩
        cases hf
        exact .inl ⟨f, rfl⟩
      · rintro (⟨f, hf⟩ | ⟨d, hd, -⟩)
        · cases hf
          rcases read_failsOnly _ format text _ hread with ⟨f', hf', hnone⟩ | hvalue
          · cases hf'
            exact ⟨f, rfl, hnone⟩
          · exact hvalue.elim
        · cases hd
    · refine iff_of_true ⟨.notMapping, rfl, rfl⟩ (.inr ⟨d, hread, fun r _ _ _ hr => ?_⟩)
      rw [hr] at hread
      exact absurd hread (hno r)

theorem ofText_failsOnly (h : ∀ root, Reads format text root → Plain root) :
    FailsOnly (fun e => (∃ f, e = .setup f) ∨ e.OfValue) (ofText files baseName format text) := by
  rcases reads_or_refused files baseName format text with ⟨r, hr⟩ | ⟨-, e, he, hwhy⟩
  · rw [ofText_of_reads files baseName hr]
    exact ofDocument_failsOnly (h r hr).files
  · rw [he]
    refine failsOnly_error ?_
    rcases hwhy with hread | ⟨-, rfl⟩
    · exact (read_failsOnly _ format text e hread).imp_left fun ⟨f, hf, _⟩ => ⟨f, hf⟩
    · exact .inl ⟨.notMapping, rfl⟩

theorem reads_json (h : Json.read text = .ok (.map root)) : Reads "json" text root := by
  have hformat : Format.forReading "json" = .json := by decide +kernel
  rw [Reads, hformat, Format.read, h]

end

/-- Two entries, the second one without a source. -/
def secondWithoutSource : String :=
  "\x7b\"workbooks\": [\x7b\"source\": \"x\"\x7d, \x7b\"name\": \"y\"\x7d]\x7d"

/-- One entry, which is a number. -/
def numberEntry : String := "\x7b\"workbooks\": [1]\x7d"

end Setup

end SchemaSheets
