import SchemaSheets.Proofs.Integrity.Rounds

/-!
# When the survivors refer to each other only

The first round knows the names that it is given, and only a round after it
knows the slugs of the sheets that are left.  So what stays is closed once the
first round has dropped something; otherwise the sheets stay as they came.
-/

namespace SchemaSheets.Integrity

variable {known : List String} {sheets : List Sheet}

theorem closed_rounds_of_some_dropped (h : kept known sheets ≠ sheets) :
    Closed (rounds known sheets).1 := by
  rw [rounds_of_some_dropped h]
  exact closed_rounds_of_subset (List.Subset.refl _)

/-- A check in the `survivors` mode returns a closed list exactly if the sheets were closed to begin
with or one of them points to a name that is not known. -/
theorem check_survivors_closed_iff (known : List String) (sheets : List Sheet) (s : Session) :
    ∃ stay s', Run.from_ s (check .survivors known sheets) = (.ok stay, s') ∧
      (Closed stay ↔ Closed sheets ∨ ∃ t ∈ sheets, ∃ n ∈ t.targets, n ∉ known) := by
  refine ⟨_, _, check_keeps .survivors known sheets s, ?_⟩
  change Closed (rounds known sheets).1 ↔ _
  by_cases h : kept known sheets = sheets
  · have hknown : ¬∃ t ∈ sheets, ∃ n ∈ t.targets, n ∉ known := by
      rintro ⟨t, ht, n, hn, hout⟩
      exact hout (kept_eq_self_iff.1 h t ht n hn)
    rw [rounds_of_all_kept h, or_iff_left hknown]
  · have hout : ∃ t ∈ sheets, ∃ n ∈ t.targets, n ∉ known := by
      by_contra hnone
      push Not at hnone
      exact h (kept_eq_self_iff.2 hnone)
    exact iff_of_true (closed_rounds_of_some_dropped h) (.inr hout)

/-- A sheet with a reference to another one. -/
def pointing : Sheet where
  name := "A"
  slug := "A"
  fields := [{ key := "b", label := "b", type := .reference, reference := some { target := "B" } }]

/-- A sheet that points to a known name stays alone when there is no sheet of this name. -/
theorem check_survivors_keeps_dangling :
    ∃ s', Run.from_ {} (check .survivors ["A", "B"] [pointing]) = (.ok [pointing], s') ∧
      ¬Closed [pointing] := by
  refine ⟨_, rfl, ?_⟩
  intro hclosed
  have hslug : "B" ∈ slugs [pointing] := hclosed pointing (.head _) "B" (.head _)
  simp [pointing] at hslug

end SchemaSheets.Integrity
