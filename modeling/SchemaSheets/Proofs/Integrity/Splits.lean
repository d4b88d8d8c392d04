import SchemaSheets.Proofs.Integrity.Rounds
import Mathlib.Data.List.FinRange

/-!
# Sheets that stay and sheets that are dropped

The check splits the sheets in two.  To tell equal sheets apart, the split is
stated of items that sheets belong to; with positions for items it says what
becomes of each sheet of a list.  Every round splits what is left in this way,
and the splits of all rounds together are one (`Splits.trans`).
-/

namespace SchemaSheets.Integrity

variable {α : Type} {f : α → Sheet} {known : List String} {items stays : List α}
  {drops : List (α × List String)}

/-! ### Splits -/

/-- An outcome keeps the sheets of some items, in order, and drops those of the others once each,
with some of the targets of the sheet. -/
structure Splits (f : α → Sheet) (items : List α) (outcome : List Sheet × List Drop)
    (stays : List α) (drops : List (α × List String)) : Prop where
  kept_eq : outcome.1 = stays.map f
  dropped_eq : outcome.2 = drops.map fun d => ⟨f d.1, d.2⟩
  sublist : stays.Sublist items
  perm : (stays ++ drops.map Prod.fst).Perm items
  missing : ∀ d ∈ drops, d.2 ≠ [] ∧ d.2.Sublist (f d.1).targets

theorem Splits.refl (f : α → Sheet) (items : List α) :
    Splits f items (items.map f, []) items [] where
  kept_eq := rfl
  dropped_eq := rfl
  sublist := .refl items
  perm := by simp
  missing := by simp

theorem Splits.trans {mid last : List Sheet} {first later : List Drop} {stays' : List α}
    {drops' : List (α × List String)} (h : Splits f items (mid, first) stays drops)
    (h' : Splits f stays (last, later) stays' drops') :
    Splits f items (last, first ++ later) stays' (drops ++ drops') where
  kept_eq := h'.kept_eq
  dropped_eq := by
    have hfirst : first = _ := h.dropped_eq
    have hlater : later = _ := h'.dropped_eq
    simp [hfirst, hlater]
  sublist := h'.sublist.trans h.sublist
  perm := by
    have hswap : (stays' ++ (drops ++ drops').map Prod.fst).Perm
        ((stays' ++ drops'.map Prod.fst) ++ drops.map Prod.fst) := by
      rw [List.map_append, List.append_assoc]
      exact List.perm_append_comm.append_left stays'
    exact hswap.trans ((h'.perm.append_right _).trans h.perm)
  missing := by
    intro d hd
    rcases List.mem_append.1 hd with hd | hd
    · exact h.missing d hd
    · exact h'.missing d hd

/-! ### One round -/

def isKept (known : List String) (f : α → Sheet) (a : α) : Bool := (missing known (f a)).isEmpty

theorem isKept_iff {a : α} : isKept known f a = true ↔ ∀ n ∈ (f a).targets, n ∈ known := by
  rw [isKept, List.isEmpty_iff, missing_eq_nil_iff]

theorem kept_map : kept known (items.map f) = (items.filter (isKept known f)).map f := by
  rw [kept, List.filter_map]
  rfl

theorem dropped_map :
    dropped known (items.map f) =
      ((items.filter fun a => !isKept known f a).map fun a => (a, missing known (f a))).map
        fun d => ⟨f d.1, d.2⟩ := by
  rw [dropped, List.map_map, List.filter_map, List.map_map]
  rfl

theorem round_splits (known : List String) (f : α → Sheet) (items : List α) :
    Splits f items (kept known (items.map f), dropped known (items.map f))
      (items.filter (isKept known f))
      ((items.filter fun a => !isKept known f a).map fun a => (a, missing known (f a))) where
  kept_eq := kept_map
  dropped_eq := dropped_map
  sublist := List.filter_sublist
  perm := by
    have hfst : ((items.filter fun a => !isKept known f a).map fun a =>
        (a, missing known (f a))).map Prod.fst = items.filter fun a => !isKept known f a := by
      simp [Function.comp_def]
    rw [hfst]
    exact List.filter_append_perm (isKept known f) items
  missing := by
    intro d hd
    obtain ⟨a, ha, rfl⟩ := List.mem_map.1 hd
    refine ⟨?_, missing_sublist known (f a)⟩
    have hkept := (List.mem_filter.1 ha).2
    simpa [isKept] using hkept

/-! ### All rounds -/

theorem rounds_split (known : List String) (f : α → Sheet) (items : List α) :
    ∃ stays drops, Splits f items (rounds known (items.map f)) stays drops := by
  generalize hs : items.map f = sheets
  induction known, sheets using rounds_induction generalizing items with
  | last known sheets h =>
    rw [rounds_of_all_kept h, ← hs]
    exact ⟨items, [], .refl f items⟩
  | next known sheets h ih =>
    subst hs
    obtain ⟨stays, drops, hrest⟩ := ih (items.filter (isKept known f)) kept_map.symm
    rw [rounds_of_some_dropped h]
    exact ⟨stays, _, (round_splits known f items).trans hrest⟩

theorem run_splits (mode : IntegrityMode) (known : List String) (f : α → Sheet) (items : List α) :
    ∃ stays drops, Splits f items (run mode known (items.map f)) stays drops ∧
      (mode = .universe → stays = items.filter (isKept known f) ∧
        ∀ d ∈ drops, d.2 = missing known (f d.1)) := by
  match mode with
  | .universe =>
    refine ⟨_, _, round_splits known f items, fun _ => ⟨rfl, fun d hd => ?_⟩⟩
    obtain ⟨a, -, rfl⟩ := List.mem_map.1 hd
    rfl
  | .survivors =>
    obtain ⟨stays, drops, h⟩ := rounds_split known f items
    exact ⟨stays, drops, h, nofun⟩

/-- The check keeps some of the sheets, in order, and collects one diagnostic for every other
position, after what was collected before.  In the `universe` mode it keeps just the sheets that
point to known slugs only, and the diagnostics name all targets that are not known. -/
theorem check_splits_positions (mode : IntegrityMode) (known : List String) (sheets : List Sheet)
    (s : Session) :
    ∃ (stays : List (Fin sheets.length)) (drops : List (Fin sheets.length × List String))
      (s' : Session),
      Run.from_ s (check mode known sheets) = (.ok (stays.map sheets.get), s') ∧
      s'.collector = s.collector.map (fun c => ⟨c.items ++
        drops.map fun d => .danglingReference (sheets.get d.1).slug d.2⟩) ∧
      stays.Sublist (List.finRange sheets.length) ∧
      (stays ++ drops.map Prod.fst).Perm (List.finRange sheets.length) ∧
      (∀ d ∈ drops, d.2 ≠ [] ∧ d.2.Sublist (sheets.get d.1).targets) ∧
      (mode = .universe →
        (∀ i, i ∈ stays ↔ ∀ n ∈ (sheets.get i).targets, n ∈ known) ∧
        ∀ d ∈ drops, d.2 = (sheets.get d.1).targets.filter (· ∉ known)) := by
  obtain ⟨stays, drops, h, huniverse⟩ :=
    run_splits mode known sheets.get (List.finRange sheets.length)
  rw [List.map_get_finRange] at h
  have hcheck := check_keeps mode known sheets s
  rw [h.kept_eq, h.dropped_eq] at hcheck
  refine ⟨stays, drops, _, hcheck, ?_, h.sublist, h.perm, h.missing, fun hmode => ?_⟩
  · simp [Drop.note, Drop.diagnostic, Note.diagnostic, Function.comp_def]
  · obtain ⟨hstays, hdrops⟩ := huniverse hmode
    refine ⟨fun i => ?_, fun d hd => ?_⟩
    · rw [hstays, List.mem_filter, isKept_iff]
      simp
    · rw [hdrops d hd, missing]
      simp

end SchemaSheets.Integrity
