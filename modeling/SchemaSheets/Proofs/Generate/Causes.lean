import SchemaSheets.Proofs.Generate.Notes
import SchemaSheets.Proofs.Generate.Survivors
import SchemaSheets.Proofs.Integrity.Causes

/-!
# Causes of dropped sheets

The diagnostics on dropped sheets come in the order of their causes.  A name
that an entry lists as missing is the name of no object, or else every sheet
made from an object of this name has an entry of its own before it.  Making the
sheets reports no drop, so a run that fails reports none.
-/

namespace SchemaSheets

/-! ### Diagnostics while the sheets are made -/

def Diagnostic.IsDrop (d : Diagnostic) : Prop := d.code = .danglingReference

namespace Sheet

theorem candidates_notes (overrides : List SheetOverride) (objects : List SourceObject) :
    Run.Notes (fun d => ¬d.IsDrop) (candidates overrides objects) :=
  ((candidates_uniform overrides objects).mono fun _ h => h.code_ne).notes

variable {mode : IntegrityMode} {objects : List SourceObject} {overrides : List SheetOverride}
  {made : List (Sheet × List Note)} {s s' : Session}

theorem noted_of_account (hmade : objects.mapM (account overrides) = .ok made) (s : Session) :
    ∃ notes : List Note, s.noted (made.flatMap Prod.snd) = s.noted notes ∧
      ∀ n ∈ notes, ¬n.diagnostic.IsDrop := by
  obtain ⟨notes, hnotes, hdrop⟩ := candidates_notes overrides objects s
  have hrun : Run.from_ s (candidates overrides objects) =
      (.ok (made.map Prod.fst), s.noted (made.flatMap Prod.snd)) := by
    refine (candidates_keeps overrides objects).from_eq_ok_iff.2 ⟨_, ?_, rfl⟩
    rw [hmade]
    rfl
  rw [hrun] at hnotes
  exact ⟨notes, hnotes, hdrop⟩

theorem no_drops_of_error {e : Failure}
    (h : Run.from_ s (generateAll mode objects overrides) = (.error e, s')) :
    ∃ notes : List Note, s' = s.noted notes ∧ ∀ n ∈ notes, ¬n.diagnostic.IsDrop := by
  obtain ⟨notes, hnotes, hdrop⟩ := candidates_notes overrides objects s
  rw [from_generateAll] at h
  cases hrun : Run.from_ s (candidates overrides objects) with
  | mk outcome s₁ =>
    rw [hrun] at h hnotes
    cases outcome with
    | ok sheets => cases h
    | error e' =>
      cases h
      exact ⟨notes, hnotes, hdrop⟩

/-! ### The order of the drops -/

/-- What a drop misses is the name of no object, or there are sheets of this slug and all of them
have drops before it. -/
def CausallyOrdered (objects : List SourceObject) (sheets : List Sheet)
    (drops : List (Fin sheets.length × List String)) : Prop :=
  ∀ before d after, drops = before ++ d :: after → ∀ n ∈ d.2,
    (∀ o ∈ objects, o.name ≠ .str n) ∨
      (∃ i, (sheets.get i).slug = n) ∧ ∀ i, (sheets.get i).slug = n → i ∈ before.map Prod.fst

/-- The drops that a run reports come after all other diagnostics, one for a sheet, in the order of
their causes, and no sheet that stays has a slug that they miss.  A run that fails reports none. -/
theorem generateAll_drops_causally (mode : IntegrityMode) (objects : List SourceObject)
    (overrides : List SheetOverride) (s : Session) :
    ((∃ stay s', Run.from_ s (generateAll mode objects overrides) = (.ok stay, s')) ↔
      ∀ o ∈ objects, o.Usable) ∧
    (∀ e s', Run.from_ s (generateAll mode objects overrides) = (.error e, s') →
      ∃ found : List Diagnostic, (∀ d ∈ found, ¬d.IsDrop) ∧
        s'.collector = s.collector.map fun c => ⟨c.items ++ found⟩) ∧
    ∀ stay s', Run.from_ s (generateAll mode objects overrides) = (.ok stay, s') →
      ∃ (sheets : List Sheet) (found : List Diagnostic)
        (drops : List (Fin sheets.length × List String)),
        List.Forall₂ (MadeFrom overrides) objects sheets ∧
        (∀ d ∈ found, ¬d.IsDrop) ∧
        s'.collector = s.collector.map (fun c => ⟨c.items ++ found ++
          drops.map fun d => .danglingReference (sheets.get d.1).slug d.2⟩) ∧
        (drops.map Prod.fst).Nodup ∧
        CausallyOrdered objects sheets drops ∧
        ∀ d ∈ drops, ∀ n ∈ d.2, ∀ t ∈ stay, t.slug ≠ n := by
  refine ⟨generateAll_succeeds_iff, fun e s' h => ?_, fun stay s' h => ?_⟩
  · obtain ⟨notes, rfl, hdrop⟩ := no_drops_of_error h
    exact ⟨notes.map Note.diagnostic, List.forall_mem_map.2 hdrop, rfl⟩
  · obtain ⟨made, hmade, rfl, rfl⟩ := generateAll_eq_ok_iff.1 h
    obtain ⟨notes, hnotes, hdrop⟩ := noted_of_account hmade s
    have hnames := names_eq_slugs hmade
    have hmadeFrom := forall₂_madeFrom hmade
    generalize made.map Prod.fst = sheets at hnames hmadeFrom ⊢
    obtain ⟨drops, hdrops, hnodup, hcauses⟩ := Integrity.run_causal_positions mode sheets
    refine ⟨sheets, notes.map Note.diagnostic, drops, hmadeFrom, List.forall_mem_map.2 hdrop, ?_,
      hnodup, ?_, ?_⟩
    · rw [← Session.noted_noted, hnotes, Session.noted_noted, hdrops]
      simp [Integrity.Drop.note, Integrity.Drop.diagnostic, Note.diagnostic, Function.comp_def]
    · intro before d after hsplit n hn
      by_cases hk : n ∈ Integrity.slugs sheets
      · obtain ⟨t, ht, hslug⟩ := Integrity.mem_slugs.1 hk
        obtain ⟨i, rfl⟩ := List.mem_iff_get.1 ht
        exact .inr ⟨⟨i, hslug⟩, (hcauses before d after hsplit n hn).2⟩
      · refine .inl fun o ho hname => hk ?_
        rw [← hnames]
        exact mem_names_iff.2 ⟨o, ho, hname⟩
    · intro d hd n hn
      obtain ⟨before, after, hsplit⟩ := List.append_of_mem hd
      exact (hcauses before d after hsplit n hn).1

/-- A sheet that points to two sheets of one slug, which go in different rounds. -/
def cascade : List SourceObject :=
  [linked "C" ["D"], linked "D" ["Missing"], linked "D" ["E"], linked "E" ["Missing"],
    linked "F" ["F"]]

theorem generateAll_drops_causally_in_cascade :
    ∃ s', Run.from_ { collector := some {} } (generateAll .survivors cascade []) =
        (.ok [linkedSheet "F" "F"], s') ∧
      s'.collector.map (fun c => (c.byCode .danglingReference).map (·.path)) =
        some ["D", "E", "D", "C"] ∧
      ∃ (sheets : List Sheet) (found : List Diagnostic)
        (drops : List (Fin sheets.length × List String)),
        List.Forall₂ (MadeFrom []) cascade sheets ∧
        s'.collector = some ⟨found ++
          drops.map fun d => .danglingReference (sheets.get d.1).slug d.2⟩ ∧
        CausallyOrdered cascade sheets drops ∧
        ∀ d ∈ drops, ∀ n ∈ d.2, ∀ t ∈ [linkedSheet "F" "F"], t.slug ≠ n := by
  obtain ⟨-, -, hruns⟩ :=
    generateAll_drops_causally .survivors cascade [] { collector := some {} }
  obtain ⟨sheets, found, drops, hmade, -, hcollector, -, hordered, hstay⟩ := hruns _ _ rfl
  exact ⟨_, rfl, rfl, sheets, found, drops, hmade, hcollector, hordered, hstay⟩

end Sheet

end SchemaSheets
