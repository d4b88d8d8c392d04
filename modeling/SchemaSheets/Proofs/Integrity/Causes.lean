import SchemaSheets.Proofs.Integrity.Splits

/-!
# Why sheets are dropped

A drop names the targets that were not known in its round.  Such a name was
either unknown from the beginning, or all sheets of this slug went in a round
before.  So at the moment of a drop no sheet is left whose slug it misses:
none that stays, and none that is dropped in the same round or later
(`run_missing_gone`).  With positions for sheets this says that each of them
has a drop of its own further to the front (`run_causal_positions`).
-/

namespace SchemaSheets.Integrity

variable {α : Type} {f : α → Sheet} {known : List String} {sheets : List Sheet}

/-! ### One round -/

theorem mem_dropped {d : Drop} :
    d ∈ dropped known sheets ↔
      d.sheet ∈ sheets ∧ d.missing = missing known d.sheet ∧ d.missing ≠ [] := by
  simp only [dropped, List.mem_filter, List.mem_map]
  constructor
  · rintro ⟨⟨s, hs, rfl⟩, hne⟩
    exact ⟨hs, rfl, by simpa using hne⟩
  · rintro ⟨hs, hm, hne⟩
    refine ⟨⟨d.sheet, hs, ?_⟩, by simpa using hne⟩
    rw [← hm]

theorem not_known_of_mem_dropped {d : Drop} (hd : d ∈ dropped known sheets) {n : String}
    (hn : n ∈ d.missing) : n ∉ known := by
  rw [(mem_dropped.1 hd).2.1, missing] at hn
  simpa using (List.mem_filter.1 hn).2

/-! ### All rounds -/

/-- The sheets that stay and those that are dropped are the sheets that the rounds began with. -/
theorem rounds_append_perm (known : List String) (sheets : List Sheet) :
    ((rounds known sheets).1 ++ (rounds known sheets).2.map Drop.sheet).Perm sheets := by
  obtain ⟨stays, drops, h⟩ := rounds_split known id sheets
  rw [List.map_id] at h
  rw [h.kept_eq, h.dropped_eq]
  simpa [Function.comp_def] using h.perm

theorem rounds_missing_gone (known : List String) (sheets : List Sheet) {before after : List Drop}
    {d : Drop} (h : (rounds known sheets).2 = before ++ d :: after) {n : String}
    (hn : n ∈ d.missing) (hk : n ∈ known) :
    n ∉ slugs ((rounds known sheets).1 ++ (d :: after).map Drop.sheet) := by
  induction known, sheets using rounds_induction generalizing before with
  | last known sheets hall =>
    rw [rounds_of_all_kept hall] at h
    simp at h
  | next known sheets hsome ih =>
    rw [rounds_of_some_dropped hsome] at h ⊢
    -- the drop falls into this round, or into the rounds after it
    have hcases : d ∈ dropped known sheets ∨
        ∃ later, (rounds (slugs (kept known sheets)) (kept known sheets)).2 =
          later ++ d :: after := by
      rcases List.append_eq_append_iff.1 h with ⟨later, -, hlater⟩ | ⟨rest, hfirst, hrest⟩
      · exact .inr ⟨later, hlater⟩
      · rcases List.cons_eq_append_iff.1 hrest with ⟨rfl, hlater⟩ | ⟨rest', rfl, -⟩
        · exact .inr ⟨[], hlater⟩
        · refine .inl ?_
          rw [hfirst]
          simp
    rcases hcases with hd | ⟨later, hlater⟩
    · exact absurd hk (not_known_of_mem_dropped hd hn)
    · by_cases hleft : n ∈ slugs (kept known sheets)
      · exact ih hlater hleft
      · intro hslug
        obtain ⟨s, hs, hname⟩ := mem_slugs.1 hslug
        have hsub : s ∈ (rounds (slugs (kept known sheets)) (kept known sheets)).1 ++
            (rounds (slugs (kept known sheets)) (kept known sheets)).2.map Drop.sheet := by
          rw [hlater, List.map_append]
          rcases List.mem_append.1 hs with hs | hs
          · exact List.mem_append_left _ hs
          · exact List.mem_append_right _ (List.mem_append_right _ hs)
        exact hleft (mem_slugs.2 ⟨s, (rounds_append_perm _ _).mem_iff.1 hsub, hname⟩)

/-! ### The check -/

/-- When a drop misses a name that was known, no sheet with this slug is left. -/
theorem run_missing_gone (mode : IntegrityMode) (known : List String) (sheets : List Sheet)
    {before after : List Drop} {d : Drop} (h : (run mode known sheets).2 = before ++ d :: after)
    {n : String} (hn : n ∈ d.missing) (hk : n ∈ known) :
    n ∉ slugs ((run mode known sheets).1 ++ (d :: after).map Drop.sheet) := by
  match mode with
  | .universe =>
    have hd : d ∈ dropped known sheets := by
      rw [show dropped known sheets = _ from h]
      simp
    exact absurd hk (not_known_of_mem_dropped hd hn)
  | .survivors => exact rounds_missing_gone known sheets h hn hk

theorem run_splits_causally (mode : IntegrityMode) (known : List String) (f : α → Sheet)
    (items : List α) :
    ∃ stays drops, Splits f items (run mode known (items.map f)) stays drops ∧
      ∀ before d after, drops = before ++ d :: after → ∀ n ∈ d.2, n ∈ known →
        (∀ a ∈ stays, (f a).slug ≠ n) ∧
        ∀ a ∈ items, (f a).slug = n → a ∈ before.map Prod.fst := by
  obtain ⟨stays, drops, h, -⟩ := run_splits mode known f items
  refine ⟨stays, drops, h, fun before d after hdrops n hn hk => ?_⟩
  have houtcome : (run mode known (items.map f)).2 =
      before.map (fun d => ⟨f d.1, d.2⟩) ++ ⟨f d.1, d.2⟩ :: after.map fun d => ⟨f d.1, d.2⟩ := by
    rw [h.dropped_eq, hdrops, List.map_append, List.map_cons]
  have hgone := run_missing_gone mode known (items.map f) houtcome hn hk
  have hsheets : (Drop.mk (f d.1) d.2 :: after.map fun d => ⟨f d.1, d.2⟩).map Drop.sheet =
      (d :: after).map fun e => f e.1 := by
    simp [Function.comp_def]
  rw [h.kept_eq, hsheets] at hgone
  have hstays : ∀ a ∈ stays, (f a).slug ≠ n := by
    intro a ha hslug
    exact hgone (mem_slugs.2 ⟨f a, List.mem_append_left _ (List.mem_map_of_mem ha), hslug⟩)
  have hlate : ∀ e ∈ d :: after, (f e.1).slug ≠ n := by
    intro e he hslug
    have hmem : f e.1 ∈ (d :: after).map fun e => f e.1 := List.mem_map.2 ⟨e, he, rfl⟩
    exact hgone (mem_slugs.2 ⟨f e.1, List.mem_append_right _ hmem, hslug⟩)
  refine ⟨hstays, fun a ha hslug => ?_⟩
  rcases List.mem_append.1 (h.perm.mem_iff.2 ha) with hstay | hdrop
  · exact absurd hslug (hstays a hstay)
  · rw [hdrops, List.map_append, List.mem_append] at hdrop
    rcases hdrop with hbefore | hlater
    · exact hbefore
    · obtain ⟨e, he, rfl⟩ := List.mem_map.1 hlater
      exact absurd hslug (hlate e he)

/-- A check against the slugs of the sheets has at most one drop for a position.  What a drop misses
is no slug of a sheet, or the positions with this slug all have drops before it. -/
theorem run_causal_positions (mode : IntegrityMode) (sheets : List Sheet) :
    ∃ drops : List (Fin sheets.length × List String),
      (run mode (slugs sheets) sheets).2 = drops.map (fun d => ⟨sheets.get d.1, d.2⟩) ∧
      (drops.map Prod.fst).Nodup ∧
      ∀ before d after, drops = before ++ d :: after → ∀ n ∈ d.2,
        (∀ t ∈ (run mode (slugs sheets) sheets).1, t.slug ≠ n) ∧
        ∀ i, (sheets.get i).slug = n → i ∈ before.map Prod.fst := by
  obtain ⟨stays, drops, h, hcauses⟩ :=
    run_splits_causally mode (slugs sheets) sheets.get (List.finRange sheets.length)
  rw [List.map_get_finRange] at h
  have hnodup : (drops.map Prod.fst).Nodup := by
    have hall := h.perm.nodup_iff.2 (List.nodup_finRange sheets.length)
    exact (List.nodup_append.1 hall).2.1
  refine ⟨drops, h.dropped_eq, hnodup, fun before d after hdrops n hn => ⟨?_, ?_⟩⟩
  · intro t ht hslug
    rw [h.kept_eq] at ht
    obtain ⟨i, hi, rfl⟩ := List.mem_map.1 ht
    have hk : n ∈ slugs sheets := mem_slugs.2 ⟨sheets.get i, List.get_mem sheets i, hslug⟩
    exact (hcauses before d after hdrops n hn hk).1 i hi hslug
  · intro i hslug
    have hk : n ∈ slugs sheets := mem_slugs.2 ⟨sheets.get i, List.get_mem sheets i, hslug⟩
    exact (hcauses before d after hdrops n hn hk).2 i (List.mem_finRange i) hslug

end SchemaSheets.Integrity
