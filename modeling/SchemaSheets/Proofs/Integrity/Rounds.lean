import SchemaSheets.Generate.Integrity
import SchemaSheets.Proofs.Session.Account
import Mathlib.Data.List.Basic

/-!
# Rounds of the integrity check

A round against known slugs keeps the sheets that miss nothing and drops the
others.  As long as a round drops something, the next one checks what it kept
against the slugs of just these sheets.  `rounds_of_all_kept` and
`rounds_of_some_dropped` are the two ways a round can go, whatever bound the
definition of `rounds` started from, and `rounds_induction` is the induction
they give.  With it: what stays is a sublist of the sheets, and it is the
largest part of them that refers to known slugs and to slugs of its own only.
-/

namespace SchemaSheets.Integrity

variable {known : List String} {sheets : List Sheet}

/-! ### One round -/

theorem missing_sublist (known : List String) (s : Sheet) :
    (missing known s).Sublist s.targets := List.filter_sublist

theorem missing_eq_nil_iff {s : Sheet} :
    missing known s = [] ↔ ∀ n ∈ s.targets, n ∈ known := by
  simp [missing, List.filter_eq_nil_iff]

theorem mem_kept {s : Sheet} :
    s ∈ kept known sheets ↔ s ∈ sheets ∧ ∀ n ∈ s.targets, n ∈ known := by
  simp [kept, List.isEmpty_iff, missing_eq_nil_iff]

theorem kept_sublist (known : List String) (sheets : List Sheet) :
    (kept known sheets).Sublist sheets := List.filter_sublist

theorem kept_eq_self_iff :
    kept known sheets = sheets ↔ ∀ s ∈ sheets, ∀ n ∈ s.targets, n ∈ known := by
  simp [kept, List.filter_eq_self, List.isEmpty_iff, missing_eq_nil_iff]

theorem dropped_eq_nil (h : kept known sheets = sheets) : dropped known sheets = [] := by
  rw [kept_eq_self_iff] at h
  simp only [dropped, List.filter_eq_nil_iff, List.mem_map, forall_exists_index, and_imp]
  intro d s hs hd
  have hm : missing known s = [] := missing_eq_nil_iff.2 (h s hs)
  simp [← hd, hm]

theorem length_kept_lt (h : kept known sheets ≠ sheets) :
    (kept known sheets).length < sheets.length := by
  have hle := length_kept_le known sheets
  have hne : (kept known sheets).length ≠ sheets.length :=
    fun he => h ((kept_sublist known sheets).eq_of_length he)
  omega

@[simp] theorem mem_slugs {n : String} : n ∈ slugs sheets ↔ ∃ s ∈ sheets, s.slug = n := by
  simp [slugs]

/-! ### The next round -/

theorem roundsFrom_nil (fuel : Nat) (known : List String) : roundsFrom fuel known [] = ([], []) := by
  cases fuel with
  | zero => rfl
  | succ fuel => rfl

/-- A bound of at least the number of sheets has no effect. -/
theorem roundsFrom_of_length_le {fuel fuel' : Nat} (h : sheets.length ≤ fuel)
    (h' : sheets.length ≤ fuel') : roundsFrom fuel known sheets = roundsFrom fuel' known sheets := by
  induction fuel generalizing fuel' known sheets with
  | zero =>
    have hnil : sheets = [] := List.eq_nil_of_length_eq_zero (by omega)
    rw [hnil, roundsFrom_nil, roundsFrom_nil]
  | succ fuel ih =>
    cases fuel' with
    | zero =>
      have hnil : sheets = [] := List.eq_nil_of_length_eq_zero (by omega)
      rw [hnil, roundsFrom_nil, roundsFrom_nil]
    | succ fuel' =>
      simp only [roundsFrom]
      split
      · rfl
      · rename_i hne
        have hle := length_kept_le known sheets
        have hrest : roundsFrom fuel (slugs (kept known sheets)) (kept known sheets) =
            roundsFrom fuel' (slugs (kept known sheets)) (kept known sheets) :=
          ih (by omega) (by omega)
        rw [hrest]

theorem rounds_of_all_kept (h : kept known sheets = sheets) :
    rounds known sheets = (sheets, []) := by
  rw [rounds]
  cases hn : sheets.length with
  | zero => simp only [roundsFrom, h, dropped_eq_nil h]
  | succ n => simp only [roundsFrom, h, dropped_eq_nil h, ite_true]

theorem rounds_of_some_dropped (h : kept known sheets ≠ sheets) :
    rounds known sheets =
      ((rounds (slugs (kept known sheets)) (kept known sheets)).1,
        dropped known sheets ++ (rounds (slugs (kept known sheets)) (kept known sheets)).2) := by
  have hlt := length_kept_lt h
  obtain ⟨n, hn⟩ : ∃ n, sheets.length = n + 1 := ⟨sheets.length - 1, by omega⟩
  have hrest : roundsFrom n (slugs (kept known sheets)) (kept known sheets) =
      rounds (slugs (kept known sheets)) (kept known sheets) :=
    roundsFrom_of_length_le (by omega) (Nat.le_refl _)
  rw [rounds, hn]
  simp only [roundsFrom, hrest]
  rw [if_neg (by omega)]

/-- Induction on the rounds: a property holds of the round that keeps all sheets, and it passes
from the rounds on the sheets that are left to the rounds before. -/
theorem rounds_induction {P : List String → List Sheet → Prop}
    (last : ∀ known sheets, kept known sheets = sheets → P known sheets)
    (next : ∀ known sheets, kept known sheets ≠ sheets →
      P (slugs (kept known sheets)) (kept known sheets) → P known sheets)
    (known : List String) (sheets : List Sheet) : P known sheets := by
  induction hn : sheets.length using Nat.strongRecOn generalizing known sheets with
  | ind n ih =>
    by_cases h : kept known sheets = sheets
    · exact last known sheets h
    · have hlt := length_kept_lt h
      exact next known sheets h (ih _ (by omega) _ _ rfl)

/-! ### What stays -/

theorem rounds_sublist (known : List String) (sheets : List Sheet) :
    (rounds known sheets).1.Sublist sheets := by
  induction known, sheets using rounds_induction with
  | last known sheets h =>
    rw [rounds_of_all_kept h]
  | next known sheets h ih =>
    rw [rounds_of_some_dropped h]
    exact ih.trans (kept_sublist known sheets)

/-- Every target of the sheets is the slug of one of them. -/
def Closed (sheets : List Sheet) : Prop := ∀ s ∈ sheets, ∀ n ∈ s.targets, n ∈ slugs sheets

/-- When only slugs are known to begin with, what stays is closed. -/
theorem closed_rounds_of_subset (hk : known ⊆ slugs sheets) : Closed (rounds known sheets).1 := by
  induction known, sheets using rounds_induction with
  | last known sheets h =>
    rw [rounds_of_all_kept h]
    intro s hs n hn
    exact hk (kept_eq_self_iff.1 h s hs n hn)
  | next known sheets h ih =>
    rw [rounds_of_some_dropped h]
    exact ih (List.Subset.refl _)

/-- Sheets that refer to known slugs and to each other only outlast every round. -/
theorem mem_rounds_of_support {R : Sheet → Prop}
    (hR : ∀ s ∈ sheets, R s → ∀ n ∈ s.targets, n ∈ known ∧ ∃ u ∈ sheets, R u ∧ u.slug = n)
    {s : Sheet} (hs : s ∈ sheets) (hRs : R s) : s ∈ (rounds known sheets).1 := by
  induction known, sheets using rounds_induction with
  | last known sheets h =>
    rw [rounds_of_all_kept h]
    exact hs
  | next known sheets h ih =>
    rw [rounds_of_some_dropped h]
    have hkeep : ∀ u ∈ sheets, R u → u ∈ kept known sheets :=
      fun u hu hRu => mem_kept.2 ⟨hu, fun n hn => (hR u hu hRu n hn).1⟩
    refine ih ?_ (hkeep s hs hRs)
    intro u hu hRu n hn
    obtain ⟨-, v, hv, hRv, hslug⟩ := hR u (mem_kept.1 hu).1 hRu n hn
    exact ⟨mem_slugs.2 ⟨v, hkeep v hv hRv, hslug⟩, v, hkeep v hv hRv, hRv, hslug⟩

/-! ### The check -/

def Drop.note (d : Drop) : Note := .warned .sheets d.diagnostic

theorem report_keeps (drops : List Drop) :
    Run.Keeps (report drops) (.ok ((), drops.map Drop.note)) := by
  induction drops with
  | nil => exact Run.keeps_pure ()
  | cons d rest ih => exact (Run.keeps_warn .sheets d.diagnostic).bind fun _ => ih

/-- The check never fails, and its notes are those on the drops. -/
theorem check_keeps (mode : IntegrityMode) (known : List String) (sheets : List Sheet) :
    Run.Keeps (check mode known sheets)
      (.ok ((run mode known sheets).1, (run mode known sheets).2.map Drop.note)) := by
  have hcheck : Run.Keeps (check mode known sheets) _ :=
    (report_keeps (run mode known sheets).2).bind fun _ =>
      Run.keeps_pure (run mode known sheets).1
  simpa [Account.andThen, Except.bind, Except.map] using hcheck

end SchemaSheets.Integrity
