import SchemaSheets.Proofs.Integrity.Rounds

/-!
# Checks compared with each other

How the outcome of a check depends on the mode, on the order of the sheets and
on further sheets.  Checking until nothing is dropped goes on from where one
round ends, and it ends there too if the sheets that are left refer to each
other only.  Sheets in another order have the same outcome in another order,
and a closed part of the sheets stays whatever else is among them.
-/

namespace SchemaSheets.Integrity

variable {known known' : List String} {sheets sheets' : List Sheet}

/-! ### One round and all rounds -/

theorem rounds_sublist_kept (known : List String) (sheets : List Sheet) :
    (rounds known sheets).1.Sublist (kept known sheets) := by
  by_cases h : kept known sheets = sheets
  · rw [rounds_of_all_kept h, h]
  · rw [rounds_of_some_dropped h]
    exact rounds_sublist _ _

theorem dropped_prefix_rounds (known : List String) (sheets : List Sheet) :
    dropped known sheets <+: (rounds known sheets).2 := by
  by_cases h : kept known sheets = sheets
  · rw [dropped_eq_nil h]
    exact List.nil_prefix
  · rw [rounds_of_some_dropped h]
    exact List.prefix_append _ _

theorem rounds_eq_round (h : Closed (kept known sheets)) :
    rounds known sheets = (kept known sheets, dropped known sheets) := by
  by_cases hall : kept known sheets = sheets
  · rw [rounds_of_all_kept hall, dropped_eq_nil hall, hall]
  · have hnext : kept (slugs (kept known sheets)) (kept known sheets) = kept known sheets :=
      kept_eq_self_iff.2 h
    rw [rounds_of_some_dropped hall, rounds_of_all_kept hnext, List.append_nil]

/-! ### Sheets in another order -/

theorem missing_congr (hk : ∀ n, n ∈ known ↔ n ∈ known') : missing known = missing known' := by
  funext s
  simp only [missing, List.contains_eq_mem, hk]

theorem kept_perm (hk : ∀ n, n ∈ known ↔ n ∈ known') (h : sheets.Perm sheets') :
    (kept known sheets).Perm (kept known' sheets') := by
  rw [kept, kept, missing_congr hk]
  exact h.filter _

theorem dropped_perm (hk : ∀ n, n ∈ known ↔ n ∈ known') (h : sheets.Perm sheets') :
    (dropped known sheets).Perm (dropped known' sheets') := by
  rw [dropped, dropped, missing_congr hk]
  exact (h.map _).filter _

theorem mem_slugs_perm (h : sheets.Perm sheets') (n : String) :
    n ∈ slugs sheets ↔ n ∈ slugs sheets' := (h.map _).mem_iff

theorem rounds_perm (hk : ∀ n, n ∈ known ↔ n ∈ known') (h : sheets.Perm sheets') :
    (rounds known sheets).1.Perm (rounds known' sheets').1 ∧
      (rounds known sheets).2.Perm (rounds known' sheets').2 := by
  induction known, sheets using rounds_induction generalizing known' sheets' with
  | last known sheets hall =>
    have hall' : kept known' sheets' = sheets' := by
      refine kept_eq_self_iff.2 fun s hs n hn => (hk n).1 ?_
      exact kept_eq_self_iff.1 hall s (h.mem_iff.2 hs) n hn
    rw [rounds_of_all_kept hall, rounds_of_all_kept hall']
    exact ⟨h, .refl []⟩
  | next known sheets hsome ih =>
    have hkept := kept_perm hk h
    have hsome' : kept known' sheets' ≠ sheets' := by
      intro hall'
      refine hsome ((kept_sublist known sheets).eq_of_length ?_)
      rw [hkept.length_eq, hall', h.length_eq]
    obtain ⟨hstay, hdrops⟩ := ih (mem_slugs_perm hkept) hkept
    rw [rounds_of_some_dropped hsome, rounds_of_some_dropped hsome']
    exact ⟨hstay, (dropped_perm hk h).append hdrops⟩

theorem run_perm (mode : IntegrityMode) (hk : ∀ n, n ∈ known ↔ n ∈ known') (h : sheets.Perm sheets') :
    (run mode known sheets).1.Perm (run mode known' sheets').1 ∧
      (run mode known sheets).2.Perm (run mode known' sheets').2 := by
  match mode with
  | .universe => exact ⟨kept_perm hk h, dropped_perm hk h⟩
  | .survivors => exact rounds_perm hk h

theorem run_sublist (mode : IntegrityMode) (known : List String) (sheets : List Sheet) :
    (run mode known sheets).1.Sublist sheets := by
  match mode with
  | .universe => exact kept_sublist known sheets
  | .survivors => exact rounds_sublist known sheets

/-! ### Further sheets -/

variable {part : List Sheet}

theorem sublist_kept (h : part.Sublist sheets)
    (hpart : ∀ s ∈ part, ∀ n ∈ s.targets, n ∈ known) : part.Sublist (kept known sheets) := by
  have hkept : (kept known part).Sublist (kept known sheets) := h.filter _
  rwa [kept_eq_self_iff.2 hpart] at hkept

theorem slugs_subset (h : part.Sublist sheets) : slugs part ⊆ slugs sheets := (h.map _).subset

/-- A closed part of the sheets outlasts every round, as often and in the order in which its
sheets occur. -/
theorem sublist_rounds (h : part.Sublist sheets)
    (hpart : ∀ s ∈ part, ∀ n ∈ s.targets, n ∈ known) (hclosed : Closed part) :
    part.Sublist (rounds known sheets).1 := by
  induction known, sheets using rounds_induction with
  | last known sheets hall =>
    rw [rounds_of_all_kept hall]
    exact h
  | next known sheets hsome ih =>
    rw [rounds_of_some_dropped hsome]
    have hkept := sublist_kept h hpart
    exact ih hkept fun s hs n hn => slugs_subset hkept (hclosed s hs n hn)

/-- What stays of some sheets, all known by their slugs, stays also among more sheets. -/
theorem run_sublist_run (mode : IntegrityMode) (h : part.Sublist sheets) :
    (run mode (slugs part) part).1.Sublist (run mode (slugs sheets) sheets).1 := by
  match mode with
  | .universe =>
    refine sublist_kept ((kept_sublist _ part).trans h) fun s hs n hn => ?_
    exact slugs_subset h ((mem_kept.1 hs).2 n hn)
  | .survivors =>
    have hstay := rounds_sublist (slugs part) part
    have hclosed : Closed (rounds (slugs part) part).1 :=
      closed_rounds_of_subset (List.Subset.refl _)
    refine sublist_rounds (hstay.trans h) (fun s hs n hn => ?_) hclosed
    exact slugs_subset (hstay.trans h) (hclosed s hs n hn)

end SchemaSheets.Integrity
