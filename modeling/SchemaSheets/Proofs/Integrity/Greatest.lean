import SchemaSheets.Proofs.Integrity.Comparison

/-!
# Passes of the check and the largest part that stays

The check in the `survivors` mode goes over the sheets in passes, and the pass
that drops nothing is the last.  `Passes` says this without any bound on their
number.  Every pass but the last drops a sheet, so there is at most one pass
more than there are drops (`Passes.le_length`).  When the names to begin with
are slugs of sheets, what the passes leave is the largest part of the sheets
that refers to such names and to slugs of its own only.
-/

namespace SchemaSheets.Integrity

/-! ### Passes -/

/-- So many passes over the sheets end with those that stay, after these drops.  Each pass after
the first knows the slugs that the one before it left. -/
inductive Passes : List String → List Sheet → Nat → List Sheet → List Drop → Prop where
  | last {known sheets} (all : (kept known sheets).length = sheets.length) :
      Passes known sheets 1 (kept known sheets) (dropped known sheets)
  | next {known sheets n stay drops} (some : (kept known sheets).length ≠ sheets.length)
      (rest : Passes (slugs (kept known sheets)) (kept known sheets) n stay drops) :
      Passes known sheets (n + 1) stay (dropped known sheets ++ drops)

variable {known : List String} {sheets stay stay' : List Sheet} {drops drops' : List Drop}
  {n n' : Nat}

theorem kept_eq_self_iff_length :
    (kept known sheets).length = sheets.length ↔ kept known sheets = sheets := by
  constructor
  · intro h
    exact (kept_sublist known sheets).eq_of_length h
  · intro h
    rw [h]

theorem length_dropped (known : List String) (sheets : List Sheet) :
    (kept known sheets).length + (dropped known sheets).length = sheets.length := by
  have hdropped : (dropped known sheets).length =
      (sheets.filter fun s => !(missing known s).isEmpty).length := by
    rw [dropped, List.filter_map, List.length_map]
    rfl
  rw [hdropped, kept]
  exact (List.length_eq_length_filter_add fun s => (missing known s).isEmpty).symm

/-- Of each number of passes there is one outcome, and of each outcome one number. -/
theorem Passes.unique (h : Passes known sheets n stay drops)
    (h' : Passes known sheets n' stay' drops') : n = n' ∧ stay = stay' ∧ drops = drops' := by
  induction h generalizing n' stay' drops' with
  | last all =>
    cases h' with
    | last _ => exact ⟨rfl, rfl, rfl⟩
    | next some _ => exact absurd all some
  | next some _ ih =>
    cases h' with
    | last all => exact absurd all some
    | next _ rest' =>
      obtain ⟨hn, hstay, hdrops⟩ := ih rest'
      rw [hn, hstay, hdrops]
      exact ⟨rfl, rfl, rfl⟩

/-- Each pass but the last drops a sheet. -/
theorem Passes.le_length (h : Passes known sheets n stay drops) : n ≤ drops.length + 1 := by
  induction h with
  | last _ => omega
  | @next known sheets _ _ _ some _ ih =>
    have hsum := length_dropped known sheets
    have hdropped : 0 < (dropped known sheets).length := by omega
    rw [List.length_append]
    omega

theorem Passes.length_add (h : Passes known sheets n stay drops) :
    stay.length + drops.length = sheets.length := by
  induction h with
  | @last known sheets _ => exact length_dropped known sheets
  | @next known sheets _ _ _ _ _ ih =>
    have hsum := length_dropped known sheets
    rw [List.length_append]
    omega

/-- The rounds are the outcome of passes. -/
theorem exists_passes (known : List String) (sheets : List Sheet) :
    ∃ n, Passes known sheets n (rounds known sheets).1 (rounds known sheets).2 := by
  induction known, sheets using rounds_induction with
  | last known sheets h =>
    refine ⟨1, ?_⟩
    have hlast := Passes.last (kept_eq_self_iff_length.2 h)
    rw [rounds_of_all_kept h]
    rwa [dropped_eq_nil h, h] at hlast
  | next known sheets h ih =>
    obtain ⟨n, hn⟩ := ih
    refine ⟨n + 1, ?_⟩
    rw [rounds_of_some_dropped h]
    exact .next (fun hlength => h (kept_eq_self_iff_length.1 hlength)) hn

/-! ### The largest part -/

/-- The sheets refer to known names and to slugs of their own only. -/
def Supported (known : List String) (sheets : List Sheet) : Prop :=
  ∀ s ∈ sheets, ∀ n ∈ s.targets, n ∈ known ∧ n ∈ slugs sheets

theorem rounds_targets_known (known : List String) (sheets : List Sheet) :
    ∀ s ∈ (rounds known sheets).1, ∀ n ∈ s.targets, n ∈ known := by
  intro s hs
  have hkept : s ∈ kept known sheets := (rounds_sublist_kept known sheets).subset hs
  exact (mem_kept.1 hkept).2

theorem supported_rounds (hk : known ⊆ slugs sheets) : Supported known (rounds known sheets).1 := by
  intro s hs n hn
  have hknown := rounds_targets_known known sheets s hs n hn
  have hclosed := closed_rounds_of_subset hk s hs n hn
  exact ⟨hknown, hclosed⟩

theorem Supported.sublist_rounds {part : List Sheet} (h : Supported known part)
    (hpart : part.Sublist sheets) : part.Sublist (rounds known sheets).1 := by
  have hknown : ∀ s ∈ part, ∀ n ∈ s.targets, n ∈ known := fun s hs n hn => (h s hs n hn).1
  have hclosed : Closed part := fun s hs n hn => (h s hs n hn).2
  exact Integrity.sublist_rounds hpart hknown hclosed

/-- From names that are slugs of sheets, a check in the `survivors` mode ends after at most one pass
more than it drops sheets.  It returns, in order, the largest part of the sheets that refers to
these names and to slugs of its own only, and it reports all other sheets. -/
theorem check_survivors_greatest (hk : known ⊆ slugs sheets) (s : Session) :
    ∃ (passes : Nat) (stay : List Sheet) (drops : List Drop),
      Run.from_ s (check .survivors known sheets) = (.ok stay, s.noted (drops.map Drop.note)) ∧
      Passes known sheets passes stay drops ∧
      passes ≤ drops.length + 1 ∧
      stay.length + drops.length = sheets.length ∧
      stay.Sublist sheets ∧
      Supported known stay ∧
      ∀ part : List Sheet, part.Sublist sheets → Supported known part → part.Sublist stay := by
  obtain ⟨passes, hpasses⟩ := exists_passes known sheets
  have hcheck := check_keeps .survivors known sheets s
  have hsublist := rounds_sublist known sheets
  have hsupported := supported_rounds hk
  refine ⟨passes, _, _, hcheck, hpasses, hpasses.le_length, hpasses.length_add, hsublist,
    hsupported, ?_⟩
  intro part hpart hsupport
  exact hsupport.sublist_rounds hpart

/-- A sheet with a reference to another one. -/
def referring (slug target : String) : Sheet where
  name := slug
  slug := slug
  fields := [{ key := "r", label := "R", type := .reference, reference := some { target } }]

/-- A chain that leads out, and two equal sheets that refer to their own slug. -/
def chainAndTwins : List Sheet :=
  [referring "A" "B", referring "D" "D", referring "B" "C", referring "D" "D"]

/-- The two sheets of the chain go one after another, so that a third pass is the last. -/
theorem check_survivors_greatest_twins :
    ["A", "B", "D"] ⊆ slugs chainAndTwins ∧
      ∃ s', Run.from_ {} (check .survivors ["A", "B", "D"] chainAndTwins) =
          (.ok [referring "D" "D", referring "D" "D"], s') ∧
        Passes ["A", "B", "D"] chainAndTwins 3 [referring "D" "D", referring "D" "D"]
          [⟨referring "B" "C", ["C"]⟩, ⟨referring "A" "B", ["B"]⟩] ∧
        Supported ["A", "B", "D"] [referring "D" "D", referring "D" "D"] ∧
        ∀ part : List Sheet, part.Sublist chainAndTwins → Supported ["A", "B", "D"] part →
          part.Sublist [referring "D" "D", referring "D" "D"] := by
  have hk : ["A", "B", "D"] ⊆ slugs chainAndTwins := by decide
  have hthree : Passes ["A", "B", "D"] chainAndTwins 3 [referring "D" "D", referring "D" "D"]
      [⟨referring "B" "C", ["C"]⟩, ⟨referring "A" "B", ["B"]⟩] :=
    .next (by decide) (.next (by decide) (.last (by decide)))
  obtain ⟨passes, stay, drops, hrun, hpasses, -, -, -, hsupported, hlargest⟩ :=
    check_survivors_greatest hk {}
  obtain ⟨-, hstay, -⟩ := hpasses.unique hthree
  rw [hstay] at hrun hsupported hlargest
  exact ⟨hk, _, hrun, hthree, hsupported, hlargest⟩

end SchemaSheets.Integrity
