import SchemaSheets.Setup.Loading
import SchemaSheets.Proofs.Steps
import SchemaSheets.Proofs.Value.Merge

/-!
# Plans of setup entries

What becomes of one entry when no source is taken from a file: there is a plan,
or the entry is a mapping without one and the failure names its position, or it
is no mapping and cannot even be merged with the defaults.  A sequence of
entries stops at its first entry without a plan.
-/

namespace SchemaSheets

open Steps

/-- The position of the entry that a failure is about. -/
def SetupFailure.entry? : SetupFailure → Option Nat
  | twoSources i | sourceFileMissing i _ | noSource i | invalidEntry i _ => some i
  | _ => none

/-- The failure is about the entry, and its message begins with the entry's place. -/
def SetupFailure.Names (e : SetupFailure) (i : Nat) : Prop :=
  e.entry? = some i ∧ ∃ detail, e.message = entryPath i ++ detail

theorem SetupFailure.names_iff {e : SetupFailure} {i : Nat} : e.Names i ↔ e.entry? = some i := by
  refine and_iff_left_of_imp fun h => ?_
  cases e <;> cases h <;> simp only [message, String.append_assoc] <;> exact ⟨_, rfl⟩

namespace Setup

variable {files : Files} {base : Path} {defaults own : Entries} {u v : Value} {vs : List Value}
  {plan : WorkbookPlan} {n i : Nat}

/-- The defaults under an entry, which is a mapping, give a plan. -/
def Plans (defaults : Entries) (v : Value) (plan : WorkbookPlan) : Prop :=
  ∃ own, v = .map own ∧ (Entries.merge defaults own).has "source" = true ∧
    WorkbookPlan.ofValue (.map (Entries.merge defaults own)) = .ok plan

def Planned (defaults : Entries) (v : Value) : Prop := ∃ plan, Plans defaults v plan

/-- Neither the entry nor what lies under it names a file. -/
def NamesNoFile (defaults : Entries) (v : Value) : Prop :=
  ∀ own, v = .map own → (Entries.merge defaults own).has "source_file" = false

theorem planOf_map (files : Files) (base : Path) (i : Nat)
    (h : (Entries.merge defaults own).has "source_file" = false) :
    planOf files base defaults i (.map own) =
      if (Entries.merge defaults own).has "source" then
        (WorkbookPlan.ofValue (.map (Entries.merge defaults own))).mapError
          fun report => .setup (.invalidEntry i report)
      else .error (.setup (.noSource i)) := by
  have hmerged : (Value.merge (.map defaults) (.map own)).bind (·.entriesFor "pop") =
      .ok (Entries.merge defaults own) := rfl
  have hsource : withSource files base i (Entries.merge defaults own) =
      .ok (Entries.merge defaults own) := by
    rw [withSource, Entries.get_of_not_has h, Entries.without_of_not_has h]
    rfl
  rw [planOf, hmerged]
  -- two mappings are always merged, and without a file the entry stays as it is
  change (withSource files base i (Entries.merge defaults own) >>= _) = _
  rw [hsource]
  cases hhas : (Entries.merge defaults own).has "source" <;> simp only [bind, Except.bind, hhas] <;>
    rfl

/-- What becomes of one entry. -/
theorem planOf_cases (files : Files) (base : Path) (i : Nat) (h : NamesNoFile defaults v) :
    (∃ plan, Plans defaults v plan ∧ planOf files base defaults i v = .ok plan) ∨
      ¬Planned defaults v ∧
        ((∃ own e, v = .map own ∧ e.entry? = some i ∧
            planOf files base defaults i v = .error (.setup e)) ∨
          v.isMap = false ∧ ∃ m, planOf files base defaults i v = .error (.misuse m)) := by
  cases v with
  | map own =>
    rw [planOf_map files base i (h own rfl)]
    cases hsource : (Entries.merge defaults own).has "source" with
    | false =>
      refine .inr ⟨?_, .inl ⟨own, .noSource i, rfl, rfl, rfl⟩⟩
      rintro ⟨plan, _, he, hhas, -⟩
      cases he
      rw [hsource] at hhas
      cases hhas
    | true =>
      cases hplan : WorkbookPlan.ofValue (.map (Entries.merge defaults own)) with
      | ok plan => exact .inl ⟨plan, ⟨own, rfl, hsource, hplan⟩, rfl⟩
      | error report =>
        refine .inr ⟨?_, .inl ⟨own, .invalidEntry i report, rfl, rfl, rfl⟩⟩
        rintro ⟨plan, _, he, -, hok⟩
        cases he
        rw [hplan] at hok
        cases hok
  | _ =>
    refine .inr ⟨?_, .inr ⟨rfl, _, rfl⟩⟩
    rintro ⟨plan, _, he, -⟩
    cases he

/-! ### Sequences of entries -/

/-- The entry at the position is the first one without a plan. -/
def StopsAt (defaults : Entries) (vs : List Value) (i : Nat) (v : Value) : Prop :=
  vs[i]? = some v ∧ ¬Planned defaults v ∧ ∀ u ∈ vs.take i, Planned defaults u

theorem stopsAt_zero : StopsAt defaults (v :: vs) 0 u ↔ u = v ∧ ¬Planned defaults v := by
  simp only [StopsAt, List.getElem?_cons_zero, Option.some.injEq, List.take_zero, List.not_mem_nil,
    false_implies, implies_true, and_true]
  constructor <;> (rintro ⟨rfl, h⟩; exact ⟨rfl, h⟩)

theorem stopsAt_succ :
    StopsAt defaults (v :: vs) (i + 1) u ↔ Planned defaults v ∧ StopsAt defaults vs i u := by
  simp only [StopsAt, List.getElem?_cons_succ, List.take_succ_cons, List.forall_mem_cons]
  tauto

/-- Plans are made of all entries, or up to the first entry without one. -/
theorem plansFrom_cases (files : Files) (base : Path) (n : Nat)
    (h : ∀ v ∈ vs, NamesNoFile defaults v) :
    (∃ plans, List.Forall₂ (Plans defaults) vs plans ∧
        plansFrom files base defaults n vs = .ok plans) ∨
      (∃ i own e, StopsAt defaults vs i (.map own) ∧ e.entry? = some (n + i) ∧
        plansFrom files base defaults n vs = .error (.setup e)) ∨
      ∃ i v m, StopsAt defaults vs i v ∧ v.isMap = false ∧
        plansFrom files base defaults n vs = .error (.misuse m) := by
  induction vs generalizing n with
  | nil => exact .inl ⟨[], .nil, rfl⟩
  | cons v rest ih =>
    obtain ⟨hv, hrest⟩ := List.forall_mem_cons.1 h
    rcases planOf_cases files base n hv with
      ⟨plan, hplan, hok⟩ | ⟨hnone, ⟨own, e, rfl, he, hfail⟩ | ⟨hmap, m, hfail⟩⟩
    · -- the rest counts from the next position, and stops where it stops
      have hplanned : Planned defaults v := ⟨plan, hplan⟩
      rw [plansFrom, hok]
      rcases ih (n + 1) hrest with
        ⟨plans, hplans, hall⟩ | ⟨i, own, e, hstops, he, hall⟩ | ⟨i, u, m, hstops, hmap, hall⟩
      · exact .inl ⟨plan :: plans, .cons hplan hplans, by rw [hall]; rfl⟩
      · rw [Nat.add_right_comm] at he
        exact .inr (.inl ⟨i + 1, own, e, stopsAt_succ.2 ⟨hplanned, hstops⟩, he, by rw [hall]; rfl⟩)
      · exact .inr (.inr ⟨i + 1, u, m, stopsAt_succ.2 ⟨hplanned, hstops⟩, hmap, by rw [hall]; rfl⟩)
    · exact .inr (.inl ⟨0, own, e, stopsAt_zero.2 ⟨rfl, hnone⟩, he, by rw [plansFrom, hfail]; rfl⟩)
    · exact .inr (.inr ⟨0, v, m, stopsAt_zero.2 ⟨rfl, hnone⟩, hmap, by rw [plansFrom, hfail]; rfl⟩)

theorem StopsAt.not_forall_planned (h : StopsAt defaults vs i v) :
    ¬∀ u ∈ vs, Planned defaults u :=
  fun hall => h.2.1 (hall v (List.mem_of_getElem? h.1))

theorem StopsAt.planned_of_lt {j : Nat} (h : StopsAt defaults vs i v) (hj : j < i)
    (hu : vs[j]? = some u) : Planned defaults u := by
  have hmem : u ∈ vs.take i := by
    refine List.mem_of_getElem? (i := j) ?_
    rw [List.getElem?_take_of_lt hj]
    exact hu
  exact h.2.2 u hmem

theorem StopsAt.le {j : Nat} (h : StopsAt defaults vs i v) (h' : StopsAt defaults vs j u) :
    i ≤ j := by
  by_contra hlt
  exact h'.2.1 (h.planned_of_lt (Nat.lt_of_not_le hlt) h'.1)

theorem StopsAt.unique {j : Nat} (h : StopsAt defaults vs i v) (h' : StopsAt defaults vs j u) :
    i = j ∧ v = u := by
  obtain rfl : i = j := Nat.le_antisymm (h.le h') (h'.le h)
  exact ⟨rfl, Option.some.inj (h.1.symm.trans h'.1)⟩

theorem forall_planned {plans : List WorkbookPlan} (h : List.Forall₂ (Plans defaults) vs plans) :
    ∀ v ∈ vs, Planned defaults v := by
  have hboth : List.Forall₂ (fun v plan => Planned defaults v ∧ Plans defaults v plan) vs plans :=
    h.imp fun _ plan hplan => ⟨⟨plan, hplan⟩, hplan⟩
  exact ((List.forall₂_and_left vs plans).1 hboth).1

theorem plansFrom_succeeds_iff (files : Files) (base : Path) (n : Nat)
    (h : ∀ v ∈ vs, NamesNoFile defaults v) :
    (∃ plans, plansFrom files base defaults n vs = .ok plans) ↔ ∀ v ∈ vs, Planned defaults v := by
  rcases plansFrom_cases files base n h with
    ⟨plans, hplans, hall⟩ | ⟨i, own, e, hstops, -, hall⟩ | ⟨i, u, m, hstops, -, hall⟩ <;> rw [hall]
  · exact iff_of_true ⟨plans, rfl⟩ (forall_planned hplans)
  · exact iff_of_false nofun hstops.not_forall_planned
  · exact iff_of_false nofun hstops.not_forall_planned

/-- The failure is one of the setup exactly if the sequence stops at a mapping. -/
theorem plansFrom_setup_iff (files : Files) (base : Path) (n i : Nat)
    (h : ∀ v ∈ vs, NamesNoFile defaults v) :
    (∃ e, plansFrom files base defaults n vs = .error (.setup e) ∧ e.entry? = some (n + i)) ↔
      ∃ own, StopsAt defaults vs i (.map own) := by
  rcases plansFrom_cases files base n h with
    ⟨plans, hplans, hall⟩ | ⟨j, own, e, hstops, he, hall⟩ | ⟨j, u, m, hstops, hmap, hall⟩ <;>
    rw [hall]
  · exact iff_of_false nofun fun ⟨_, hstops⟩ => hstops.not_forall_planned (forall_planned hplans)
  · constructor
    · rintro ⟨_, he', hi⟩
      cases he'
      obtain rfl : j = i := by simpa [he] using hi
      exact ⟨own, hstops⟩
    · rintro ⟨own', hstops'⟩
      obtain ⟨rfl, -⟩ := hstops.unique hstops'
      exact ⟨e, rfl, he⟩
  · refine iff_of_false nofun fun ⟨own, hstops'⟩ => ?_
    obtain ⟨-, rfl⟩ := hstops.unique hstops'
    cases hmap

theorem plansFrom_failsOnly (files : Files) (base : Path) (n : Nat)
    (h : ∀ v ∈ vs, NamesNoFile defaults v) :
    FailsOnly (fun e => (∃ f i, e = .setup f ∧ f.entry? = some i) ∨ e.OfValue)
      (plansFrom files base defaults n vs) := by
  intro e he
  rcases plansFrom_cases files base n h with
    ⟨plans, -, hall⟩ | ⟨i, own, f, -, hf, hall⟩ | ⟨i, u, m, -, -, hall⟩ <;>
    cases hall.symm.trans he
  · exact .inl ⟨f, n + i, rfl, hf⟩
  · exact .inr trivial

end Setup

end SchemaSheets
