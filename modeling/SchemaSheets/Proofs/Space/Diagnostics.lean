import SchemaSheets.Proofs.Diagnostic.Shelf
import SchemaSheets.Proofs.Generate.Summary
import SchemaSheets.Proofs.Space.Concurrent

/-!
# The diagnostics of a space

A space has the diagnostics of its workbooks, put together in the order of the
setup.  Nothing is lost, said twice or shared on the way: the figures of the
whole are the sums of the figures of its parts, and the collectors that were put
together stay as they were, whatever is added to the whole later.
-/

namespace SchemaSheets

namespace ConfiguredSpace

theorem items_diagnostics (c : ConfiguredSpace) :
    c.diagnostics.items = c.results.flatMap (·.diagnostics.items) := by
  rw [diagnostics, Diagnostics.items_foldl_merge, List.flatMap_map]
  rfl

end ConfiguredSpace

theorem Setup.EndsWith.results_eq [Capacity] {network : Http.Network} {mode : IntegrityMode}
    {s : Setup} {c : ConfiguredSpace} (h : s.EndsWith network mode (.ok c)) :
    s.plans.map (·.alone network mode) = c.results.map .ok := by
  cases h with
  | space hall => exact hall

/-- Collecting is a homomorphism.  A space has all diagnostics of its results, which stand in the
order of the setup, in whatever order the workbooks were made.  Putting collectors together is
associative, with the empty collector as its unit, and adds up lengths, counts and what there is
under each code; and under all codes together there is every entry once.  What is put together, two
collectors or any number of them, has a list of its own: whatever is added to it later, the others
stay as they were. -/
theorem collecting_is_homomorphic [Capacity] :
    (∀ c : ConfiguredSpace, c.diagnostics.items = c.results.flatMap (·.diagnostics.items)) ∧
    (∀ (network : Http.Network) (mode : IntegrityMode) (s : Setup) (session : Session)
        (moves : List Move) (c : ConfiguredSpace),
      (Run.from_ session (Space.configure network mode s)).1 = .ok c ∨
        ((Configuring.start s session).play network mode moves).result? s = some (.ok c) →
      s.plans.map (·.alone network mode) = c.results.map .ok) ∧
    (∀ a b c : Diagnostics, (a.merge b).merge c = a.merge (b.merge c)) ∧
    (∀ a : Diagnostics, a.merge {} = a ∧ Diagnostics.merge {} a = a) ∧
    (∀ a b : Diagnostics, Diagnostics.Joins a b (a.merge b)) ∧
    (∀ c : Diagnostics, c.size = c.count .error + c.warningCount + c.infoCount ∧
      (DiagnosticCode.all.flatMap c.byCode).Perm c.items) ∧
    (∀ (m : Shelf) (i j : Nat) (a b : Diagnostics), m.read i = some a → m.read j = some b →
      ∀ later : List Shelf.Use,
        m.Apart m.size (a.merge b) later ((m.use (.merge i j)).play later) ∧
        ((∀ k d, .add k d ∈ later → m.size ≤ k) →
          ((m.use (.merge i j)).play later).read i = some a ∧
          ((m.use (.merge i j)).play later).read j = some b)) ∧
    ∀ (m : Shelf) (ks : List Nat) (cs : List Diagnostics), ks.map m.read = cs.map some →
      ∀ later : List Shelf.Use,
        m.Apart (m.size + ks.length) (cs.foldl Diagnostics.merge {}) later
          ((m.play (m.gather ks)).play later) := by
  refine ⟨ConfiguredSpace.items_diagnostics, ?_, Diagnostics.merge_assoc,
    fun a => ⟨Diagnostics.merge_empty a, Diagnostics.empty_merge a⟩, Diagnostics.joins_merge,
    fun c => ⟨c.size_eq_counts, c.byCode_perm⟩, ?_, fun m ks cs h => Shelf.apart_gather h⟩
  · intro network mode s session moves c h
    have hends : s.EndsWith network mode (.ok c) := by
      rcases h with h | h
      · exact h ▸ Space.configure_endsWith session
      · exact ((Configuring.sound_start session).play moves).endsWith h
    exact hends.results_eq
  · intro m i j a b hi hj later
    have hapart := Shelf.apart_merge hi hj later
    exact ⟨hapart, fun h => ⟨hapart.unchanged h hi, hapart.unchanged h hj⟩⟩

/-- A workbook with a field of an enumeration, and one whose hall points to the root. -/
def actAndHall : Setup where
  plans := [{ source := .str "type Query { act: Act } type Act { kind: Kind } enum Kind { X }" },
    { source := .str "type Query { hall: Hall } type Hall { q: Query }" }]
  space := []

/-- Three collectors, of which the last two hold one list. -/
def sharedShelf : Shelf where
  lists := [⟨[.idFieldAdded "Act"]⟩, ⟨[.danglingReference "Hall" ["Query"]]⟩]
  collectors := [0, 1, 1]
  held := by decide

/-- Additions to the fourth collector, which is made of the first two, and to one made of it. -/
def lateAdditions : List Shelf.Use :=
  [.add 3 (.idFieldAdded "Cast"), .merge 3 0, .add 4 (.idFieldAdded "Scene")]

theorem collecting_is_homomorphic_of_actAndHall :
    (∃ c, (Run.from_ {} (Space.configure Workbook.offline .universe actAndHall)).1 = .ok c ∧
      actAndHall.plans.map (·.alone Workbook.offline .universe) = c.results.map .ok ∧
      c.results.flatMap (fun g => g.diagnostics.items.map (·.path)) =
        ["Act.kind", "Act", "Hall", "Hall"]) ∧
    (∀ k d, .add k d ∈ lateAdditions → sharedShelf.size ≤ k) ∧
    (∃ after, after = (sharedShelf.use (.merge 0 1)).play lateAdditions ∧
      after.read 0 = some ⟨[.idFieldAdded "Act"]⟩ ∧
      after.read 1 = some ⟨[.danglingReference "Hall" ["Query"]]⟩ ∧
      after.read 3 = some ⟨[.idFieldAdded "Act", .danglingReference "Hall" ["Query"],
        .idFieldAdded "Cast"]⟩) ∧
    ∃ after, after = (sharedShelf.play (sharedShelf.gather [1, 0])).play
        [.add 2 (.idFieldAdded "Cast")] ∧
      after.read 1 = some ⟨[.danglingReference "Hall" ["Query"], .idFieldAdded "Cast"]⟩ ∧
      after.read 5 = some ⟨[.danglingReference "Hall" ["Query"], .idFieldAdded "Act"]⟩ := by
  have hrun : ((Run.from_ {} (Space.configure Workbook.offline .universe actAndHall)).1.toOption.map
      fun c => c.diagnostics.items.map (·.path)) = some ["Act.kind", "Act", "Hall", "Hall"] := by
    decide +kernel
  have hlate : ∀ k d, .add k d ∈ lateAdditions → sharedShelf.size ≤ k := by
    intro k d h
    have hsize : sharedShelf.size = 3 := rfl
    simp only [lateAdditions, List.mem_cons, Shelf.Use.add.injEq, reduceCtorEq, List.not_mem_nil,
      or_false, false_or] at h
    omega
  obtain ⟨hitems, hresults, -, -, -, -, hmerge, hgather⟩ := collecting_is_homomorphic
  obtain ⟨c, hc, hpaths⟩ := Option.map_eq_some_iff.1 hrun
  have hok := Steps.eq_ok_of_toOption hc
  have hplans := hresults Workbook.offline .universe actAndHall {} [] c (.inl hok)
  rw [hitems c, List.map_flatMap] at hpaths
  obtain ⟨hapart, hkept⟩ := hmerge sharedShelf 0 1 _ _ rfl rfl lateAdditions
  obtain ⟨hfirst, hsecond⟩ := hkept hlate
  have hgathered := hgather sharedShelf [1, 0] [⟨[.danglingReference "Hall" ["Query"]]⟩,
    ⟨[.idFieldAdded "Act"]⟩] rfl [.add 2 (.idFieldAdded "Cast")]
  exact ⟨⟨c, hok, hplans, hpaths⟩, hlate, ⟨_, rfl, hfirst, hsecond, hapart.made⟩, _, rfl,
    hgathered.older 1 (by decide), hgathered.made⟩

end SchemaSheets
