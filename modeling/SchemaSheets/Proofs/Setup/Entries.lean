import SchemaSheets.Proofs.Descriptor.Extras
import SchemaSheets.Proofs.Setup.Outcomes

/-!
# Setups entry by entry

In a document whose entries are mappings and take no source from a file, every
entry stands for itself: the defaults under it give its plan or they do not.
There is a setup if every entry has its plan, and else the failure is about the
first entry without one.
-/

namespace SchemaSheets

namespace Check

variable {found : Extras}

theorem keysFrom_record (found : Extras) : textKeyed.keysFrom found.record = .ok found := by
  induction found with
  | nil => rfl
  | cons p rest ih =>
    have hkeys : textKeyed.keysFrom (Extras.record (p :: rest)) =
        (textKeyed.keysFrom (Extras.record rest)).map (p :: ·) := by
      change textKeyed.keysFrom ((.str p.1, p.2) :: Extras.record rest) = _
      rw [textKeyed.keysFrom]
      cases textKeyed.keysFrom (Extras.record rest) <;> rfl
    rw [hkeys, ih]
    rfl

theorem textKeyed_record (h : found.names.Nodup) : textKeyed (.map found.record) = .ok found := by
  have hall : Extras.insertAll [] found = found := Extras.insertAll_of_nodup h
  rw [textKeyed, keysFrom_record]
  exact congrArg Except.ok hall

end Check

namespace Setup

variable {files : Files} {base : Path} {root defaults own : Entries}
  {owns : List Entries} {space : Extras} {plan : WorkbookPlan} {i : Nat}

/-- The defaults under the entry have a source, and they pass as a plan. -/
def Complete (defaults own : Entries) : Prop :=
  (Entries.merge defaults own).has "source" = true ∧
    ∃ plan, WorkbookPlan.ofValue (.map (Entries.merge defaults own)) = .ok plan

theorem plans_map_iff : Plans defaults (.map own) plan ↔
    (Entries.merge defaults own).has "source" = true ∧
      WorkbookPlan.ofValue (.map (Entries.merge defaults own)) = .ok plan := by
  simp [Plans]

theorem planned_map_iff : Planned defaults (.map own) ↔ Complete defaults own := by
  simp [Planned, plans_map_iff, Complete]

theorem namesNoFile_map (hdefaults : defaults.has "source_file" = false)
    (h : own.has "source_file" = false) : NamesNoFile defaults (.map own) := by
  intro _ he
  cases he
  rw [Entries.has_merge, hdefaults, h]
  rfl

theorem finish_record (hspace : space.names.Nodup) (plans : List WorkbookPlan) :
    finish space.record plans = .ok { plans, space } := by
  rw [finish, Check.textKeyed_record hspace]
  simp [Check.within, Check.named]

theorem complete_of_stopsAt (h : StopsAt defaults (owns.map .map) i (.map own)) :
    owns[i]? = some own ∧ ¬Complete defaults own ∧
      ∀ j own', j < i → owns[j]? = some own' → Complete defaults own' := by
  have hown : owns[i]? = some own := by simpa using h.1
  refine ⟨hown, fun hc => h.2.1 (planned_map_iff.2 hc), fun j own' hj hown' => ?_⟩
  have hentry : (owns.map Value.map)[j]? = some (.map own') := by simpa using hown'
  exact planned_map_iff.1 (h.planned_of_lt hj hentry)

/-- There is a plan of every entry, or the first entry without one is at fault. -/
theorem ofDocument_cases (files : Files) (base : Path)
    (hs : Shape root (owns.map .map) defaults space.record) (hspace : space.names.Nodup)
    (hdefaults : defaults.has "source_file" = false)
    (howns : ∀ own ∈ owns, own.has "source_file" = false) :
    (∃ plans, List.Forall₂ (fun own => Plans defaults (.map own)) owns plans ∧
      ofDocument files base (.map root) = .ok { plans, space }) ∨
    ∃ e i own, StopsAt defaults (owns.map .map) i (.map own) ∧ e.entry? = some i ∧
      ofDocument files base (.map root) = .error (.setup e) := by
  have hfree : ∀ v ∈ owns.map Value.map, NamesNoFile defaults v :=
    List.forall_mem_map.2 fun own hown => namesNoFile_map hdefaults (howns own hown)
  have hload : ofDocument files base (.map root) =
      plansFrom files base defaults 0 (owns.map .map) >>= finish space.record := by
    rw [ofDocument_eq, shapeOf_eq_ok_iff.2 hs]
    rfl
  rw [hload]
  rcases plansFrom_cases files base 0 hfree with
    ⟨plans, hplans, hall⟩ | ⟨i, own, e, hstops, he, hall⟩ | ⟨i, v, m, hstops, hmap, -⟩
  · refine .inl ⟨plans, List.forall₂_map_left_iff.1 hplans, ?_⟩
    rw [hall]
    exact finish_record hspace plans
  · rw [Nat.zero_add] at he
    exact .inr ⟨e, i, own, hstops, he, by rw [hall]; rfl⟩
  · -- every entry is a mapping
    obtain ⟨own, -, rfl⟩ := List.mem_map.1 (List.mem_of_getElem? hstops.1)
    cases hmap

/-- If the entries of a document are mappings that take no source from a file, and the properties of
the space have distinct texts as names, there is a setup exactly if every entry is complete.  The
setup has one plan for each entry in order, which is that of the defaults under this entry, and the
properties of the space as they are.  Otherwise the failure names the first incomplete entry. -/
theorem ofDocument_entry_by_entry (files : Files) (base : Path)
    (hs : Shape root (owns.map .map) defaults space.record) (hspace : space.names.Nodup)
    (hdefaults : defaults.has "source_file" = false)
    (howns : ∀ own ∈ owns, own.has "source_file" = false) :
    ((∃ setup, ofDocument files base (.map root) = .ok setup) ↔
      ∀ own ∈ owns, Complete defaults own) ∧
    (∀ setup, ofDocument files base (.map root) = .ok setup →
      List.Forall₂ (fun own plan =>
        WorkbookPlan.ofValue (.map (Entries.merge defaults own)) = .ok plan) owns setup.plans ∧
      setup.space = space) ∧
    ∀ e, ofDocument files base (.map root) = .error e → ∃ f i own, e = .setup f ∧ f.Names i ∧
      owns[i]? = some own ∧ ¬Complete defaults own ∧
        ∀ j own', j < i → owns[j]? = some own' → Complete defaults own' := by
  rcases ofDocument_cases files base hs hspace hdefaults howns with
    ⟨plans, hplans, hload⟩ | ⟨f, i, own, hstops, hf, hload⟩
  · have hall : ∀ own ∈ owns, Complete defaults own := by
      have hvs := forall_planned (List.forall₂_map_left_iff.2 hplans)
      exact fun own hown => planned_map_iff.1 (hvs _ (List.mem_map_of_mem hown))
    rw [hload]
    refine ⟨iff_of_true ⟨_, rfl⟩ hall, fun setup h => ?_, nofun⟩
    cases h
    exact ⟨hplans.imp fun own plan hplan => (plans_map_iff.1 hplan).2, rfl⟩
  · obtain ⟨hown, hnone, hbefore⟩ := complete_of_stopsAt hstops
    rw [hload]
    refine ⟨iff_of_false nofun fun hall => hnone (hall own (List.mem_of_getElem? hown)), nofun,
      fun e h => ?_⟩
    cases h
    exact ⟨f, i, own, rfl, SetupFailure.names_iff.2 hf, hown, hnone, hbefore⟩

/-- A source and a name for all entries. -/
def films : Entries := [(.str "source", .str "x"), (.str "name", .str "Films")]

/-- The root of a document with these defaults. -/
def underFilms (owns : List Entries) : Entries :=
  [(.str "defaults", .map films), (.str "workbooks", .list (owns.map .map)),
    (.str "space", .record [("owner", .str "ops")])]

theorem shape_underFilms (owns : List Entries) :
    Shape (underFilms owns) (owns.map .map) films (Extras.record [("owner", .str "ops")]) :=
  ⟨.inl rfl, rfl, rfl⟩

def naming (names : List Value) : Value :=
  .map (underFilms (names.map fun name => [(.str "name", name)]))

theorem not_has_file_of_mem_naming {names : List Value} :
    ∀ own ∈ names.map fun name => [(Scalar.str "name", name)],
      Entries.has own "source_file" = false := by
  intro own hown
  obtain ⟨name, -, rfl⟩ := List.mem_map.1 hown
  rfl

/-- A name that is null is none, and a name that is a number is refused. -/
theorem ofDocument_entry_by_entry_of_names :
    (∃ setup, ofDocument { home := "work" } (.ofText "dir") (naming [.str "Old", .null]) =
        .ok setup ∧
      setup.plans.length = 2 ∧ setup.space = [("owner", .str "ops")]) ∧
    ∃ f, ofDocument { home := "work" } (.ofText "dir") (naming [.null, .int 3, .int 4]) =
        .error (.setup f) ∧
      f.Names 1 ∧ ¬Complete films [(.str "name", .int 3)] := by
  have hlaws := fun names : List Value =>
    ofDocument_entry_by_entry { home := "work" } (.ofText "dir")
      (shape_underFilms (names.map fun name => [(.str "name", name)])) (List.nodup_singleton _) rfl
      not_has_file_of_mem_naming
  obtain ⟨hsucceeds, hsetup, -⟩ := hlaws [.str "Old", .null]
  have hcomplete : ∀ own ∈ [Value.str "Old", .null].map fun name => [(Scalar.str "name", name)],
      Complete films own := by
    simp only [List.map_cons, List.map_nil, List.forall_mem_cons, List.not_mem_nil, false_implies,
      implies_true, and_true]
    exact ⟨⟨rfl, _, rfl⟩, rfl, _, rfl⟩
  obtain ⟨setup, hload⟩ := hsucceeds.2 hcomplete
  obtain ⟨hplans, hspace⟩ := hsetup setup hload
  obtain ⟨-, -, hfails⟩ := hlaws [.null, .int 3, .int 4]
  obtain ⟨f, i, own, hf, hnames, hown, hnone, -⟩ := hfails _ rfl
  cases hf
  obtain rfl : 1 = i := Option.some.inj (SetupFailure.names_iff.1 hnames)
  cases hown
  exact ⟨⟨setup, hload, hplans.length_eq.symm, hspace⟩, _, rfl, hnames, hnone⟩

end Setup

end SchemaSheets
