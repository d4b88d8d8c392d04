import SchemaSheets.Proofs.Generate.Survivors
import SchemaSheets.Proofs.Integrity.Comparison

/-!
# Runs compared with each other

What changes in the sheets and diagnostics of a run when the mode changes, when
the objects come in another order, and when there are more objects.
-/

namespace SchemaSheets.Sheet

open Steps

variable {mode : IntegrityMode} {objects : List SourceObject} {overrides : List SheetOverride}
  {stay : List Sheet} {s s' : Session}

/-- Objects in a ring, and two objects in a chain that leads out. -/
def ringAndTail : List SourceObject :=
  [linked "A" ["B"], linked "B" ["A"], linked "C" ["D"], linked "D" ["Missing"]]

/-! ### The two modes -/

theorem error_iff_error (mode mode' : IntegrityMode) {e : Failure} :
    Run.from_ s (generateAll mode objects overrides) = (.error e, s') ↔
      Run.from_ s (generateAll mode' objects overrides) = (.error e, s') := by
  rw [from_generateAll, from_generateAll]
  match Run.from_ s (candidates overrides objects) with
  | (.ok sheets, s₁) => simp
  | (.error e', s₁) => simp

/-- A run in the `survivors` mode goes on from where the run in the `universe` mode ends: it keeps
some of the sheets and adds diagnostics.  Both end in the same way exactly if the sheets of the
`universe` mode refer to each other only. -/
theorem survivors_refine_universe (objects : List SourceObject) (overrides : List SheetOverride)
    (s : Session) :
    (∀ mode, (∃ stay s', Run.from_ s (generateAll mode objects overrides) = (.ok stay, s')) ↔
      ∀ o ∈ objects, o.Usable) ∧
    (∀ e s', Run.from_ s (generateAll .survivors objects overrides) = (.error e, s') ↔
      Run.from_ s (generateAll .universe objects overrides) = (.error e, s')) ∧
    ∀ all s₁ stay s₂, Run.from_ s (generateAll .universe objects overrides) = (.ok all, s₁) →
      Run.from_ s (generateAll .survivors objects overrides) = (.ok stay, s₂) →
      stay.Sublist all ∧
      (∃ later : List Diagnostic, s₂.collector = s₁.collector.map fun c => ⟨c.items ++ later⟩) ∧
      (stay = all ∧ s₂.collector = s₁.collector ↔ Integrity.Closed all) := by
  refine ⟨fun mode => generateAll_succeeds_iff, fun e s' => error_iff_error _ _, ?_⟩
  intro all s₁ stay s₂ huniverse hsurvivors
  obtain ⟨made, hmade, rfl, rfl⟩ := generateAll_eq_ok_iff.1 huniverse
  obtain ⟨made', hmade', rfl, rfl⟩ := generateAll_eq_ok_iff.1 hsurvivors
  cases hmade.symm.trans hmade'
  generalize made.map Prod.fst = sheets
  simp only [Integrity.run]
  refine ⟨Integrity.rounds_sublist_kept _ sheets, ?_, ?_, fun hclosed => ?_⟩
  · obtain ⟨later, hlater⟩ := Integrity.dropped_prefix_rounds (Integrity.slugs sheets) sheets
    refine ⟨later.map Integrity.Drop.diagnostic, ?_⟩
    rw [← hlater, List.map_append, ← List.append_assoc, ← Session.noted_noted,
      Session.collector_noted]
    simp [Integrity.Drop.note, Note.diagnostic, Function.comp_def]
  · rintro ⟨hsame, -⟩
    rw [← hsame]
    exact Integrity.closed_rounds_of_subset (List.Subset.refl _)
  · rw [Integrity.rounds_eq_round hclosed]
    exact ⟨rfl, rfl⟩

/-- The last sheet of the chain goes in both modes, the one before it in one of them only. -/
theorem survivors_refine_universe_by_tail :
    ∃ s₁ s₂,
      Run.from_ { collector := some {} } (generateAll .universe ringAndTail []) =
        (.ok [linkedSheet "A" "B", linkedSheet "B" "A", linkedSheet "C" "D"], s₁) ∧
      Run.from_ { collector := some {} } (generateAll .survivors ringAndTail []) =
        (.ok [linkedSheet "A" "B", linkedSheet "B" "A"], s₂) ∧
      (∃ later : List Diagnostic, s₂.collector = s₁.collector.map fun c => ⟨c.items ++ later⟩) ∧
      ¬Integrity.Closed [linkedSheet "A" "B", linkedSheet "B" "A", linkedSheet "C" "D"] := by
  obtain ⟨-, -, hruns⟩ := survivors_refine_universe ringAndTail [] { collector := some {} }
  obtain ⟨-, hlater, hsame⟩ := hruns _ _ _ _ rfl rfl
  refine ⟨_, _, rfl, rfl, hlater, fun hclosed => ?_⟩
  exact absurd (hsame.2 hclosed).1 (by decide)

/-! ### Objects in another order -/

/-- The sheets are those of some of the objects, in the order of the objects. -/
def InOrder (overrides : List SheetOverride) (objects : List SourceObject) (stay : List Sheet) :
    Prop :=
  ∃ sheets, List.Forall₂ (MadeFrom overrides) objects sheets ∧ stay.Sublist sheets

theorem inOrder_of_ok (h : Run.from_ s (generateAll mode objects overrides) = (.ok stay, s')) :
    InOrder overrides objects stay := by
  obtain ⟨made, hmade, rfl, -⟩ := generateAll_eq_ok_iff.1 h
  exact ⟨made.map Prod.fst, forall₂_madeFrom hmade, Integrity.run_sublist mode _ _⟩

/-- Runs on the same objects in different orders return the same sheets and collect the same
diagnostics, each in the order of its objects. -/
theorem generateAll_perm (mode : IntegrityMode) {objects objects' : List SourceObject}
    (h : objects.Perm objects') (overrides : List SheetOverride) (s : Session) :
    ((∃ stay s', Run.from_ s (generateAll mode objects overrides) = (.ok stay, s')) ↔
      ∀ o ∈ objects, o.Usable) ∧
    ∀ stay s₁, Run.from_ s (generateAll mode objects overrides) = (.ok stay, s₁) →
      ∃ stay' s₂, Run.from_ s (generateAll mode objects' overrides) = (.ok stay', s₂) ∧
        stay.Perm stay' ∧ InOrder overrides objects stay ∧ InOrder overrides objects' stay' ∧
        ∃ found found' : List Diagnostic, found.Perm found' ∧
          s₁.collector = s.collector.map (fun c => ⟨c.items ++ found⟩) ∧
          s₂.collector = s.collector.map fun c => ⟨c.items ++ found'⟩ := by
  refine ⟨generateAll_succeeds_iff, fun stay s₁ hrun => ?_⟩
  have horder := inOrder_of_ok hrun
  obtain ⟨made, hmade, rfl, rfl⟩ := generateAll_eq_ok_iff.1 hrun
  obtain ⟨made', hmade', hperm⟩ := exists_mapM_of_perm h hmade
  have hrun' : Run.from_ s (generateAll mode objects' overrides) = _ :=
    generateAll_eq_ok_iff.2 ⟨made', hmade', rfl, rfl⟩
  have hsheets : (made.map Prod.fst).Perm (made'.map Prod.fst) := hperm.map Prod.fst
  obtain ⟨hstay, hdrops⟩ := Integrity.run_perm mode (Integrity.mem_slugs_perm hsheets) hsheets
  refine ⟨_, _, hrun', hstay, horder, inOrder_of_ok hrun', _, _, ?_, rfl, rfl⟩
  exact ((hperm.flatMap_right Prod.snd).append (hdrops.map Integrity.Drop.note)).map Note.diagnostic

theorem generateAll_perm_reverse :
    ringAndTail.Perm ringAndTail.reverse ∧
      ∃ s₁ s₂,
        Run.from_ { collector := some {} } (generateAll .survivors ringAndTail []) =
          (.ok [linkedSheet "A" "B", linkedSheet "B" "A"], s₁) ∧
        Run.from_ { collector := some {} } (generateAll .survivors ringAndTail.reverse []) =
          (.ok [linkedSheet "B" "A", linkedSheet "A" "B"], s₂) ∧
        ∃ found found' : List Diagnostic, found.Perm found' ∧
          s₁.collector = some ⟨found⟩ ∧ s₂.collector = some ⟨found'⟩ := by
  have hperm : ringAndTail.Perm ringAndTail.reverse := (List.reverse_perm ringAndTail).symm
  obtain ⟨-, hruns⟩ := generateAll_perm .survivors hperm [] { collector := some {} }
  obtain ⟨stay', s₂, hrun', -, -, -, found, found', hfound, hs₁, hs₂⟩ := hruns _ _ rfl
  exact ⟨hperm, _, _, rfl, rfl, found, found', hfound, hs₁, by cases hrun'; exact hs₂⟩

/-! ### More objects -/

/-- More objects never cost a sheet: what is returned for some objects is also returned for more of
them, in the same order. -/
theorem generateAll_sublist (mode : IntegrityMode) {objects more : List SourceObject}
    (h : objects.Sublist more) (overrides : List SheetOverride) (s s₀ : Session) :
    ((∃ stay s', Run.from_ s (generateAll mode more overrides) = (.ok stay, s')) ↔
      ∀ o ∈ more, o.Usable) ∧
    ∀ stay' s', Run.from_ s (generateAll mode more overrides) = (.ok stay', s') →
      ∃ stay s₁, Run.from_ s₀ (generateAll mode objects overrides) = (.ok stay, s₁) ∧
        stay.Sublist stay' := by
  refine ⟨generateAll_succeeds_iff, fun stay' s' hrun => ?_⟩
  obtain ⟨made', hmade', rfl, -⟩ := generateAll_eq_ok_iff.1 hrun
  obtain ⟨made, hmade, hsub⟩ := exists_mapM_of_sublist h hmade'
  exact ⟨_, _, generateAll_eq_ok_iff.2 ⟨made, hmade, rfl, rfl⟩,
    Integrity.run_sublist_run mode (hsub.map Prod.fst)⟩

/-- The tail of the chain is missing from the first list, so that its rounds are other ones. -/
theorem generateAll_sublist_without_tail :
    [linked "A" ["B"], linked "B" ["A"], linked "C" ["D"]].Sublist ringAndTail ∧
      ∃ s', Run.from_ {} (generateAll .survivors ringAndTail []) =
          (.ok [linkedSheet "A" "B", linkedSheet "B" "A"], s') ∧
        ∃ stay s₁, Run.from_ {} (generateAll .survivors
          [linked "A" ["B"], linked "B" ["A"], linked "C" ["D"]] []) = (.ok stay, s₁) ∧
          stay.Sublist [linkedSheet "A" "B", linkedSheet "B" "A"] := by
  have hsub : [linked "A" ["B"], linked "B" ["A"], linked "C" ["D"]].Sublist ringAndTail := by
    decide
  obtain ⟨-, hruns⟩ := generateAll_sublist .survivors hsub [] {} {}
  exact ⟨hsub, _, rfl, hruns _ _ rfl⟩

end SchemaSheets.Sheet
