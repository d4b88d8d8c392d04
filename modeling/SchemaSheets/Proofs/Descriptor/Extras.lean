import SchemaSheets.Descriptor.Sheet
import SchemaSheets.Proofs.Steps
import Mathlib.Data.List.Nodup

/-!
# Properties beside the declared ones

Properties have distinct names beside the declared ones once they come out of a
check, and properties of distinct names that are set one after another stay as
they are.
-/

namespace SchemaSheets

open Steps

namespace Extras

/-- The names of the properties, in order. -/
def names (extras : Extras) : List String := extras.map Prod.fst

theorem names_insert_of_mem {name : String} {extras : Extras} (v : Value) (h : name ∈ extras.names) :
    (insert name v extras).names = extras.names := by
  induction extras with
  | nil => cases h
  | cons p rest ih =>
    obtain ⟨n, w⟩ := p
    by_cases hn : n = name
    · simp [insert, names, hn]
    · have hrest : name ∈ names rest := (List.mem_cons.1 h).resolve_left (Ne.symm hn)
      have hnames : names (insert name v rest) = names rest := ih hrest
      simp only [names] at hnames
      simp [insert, names, hn, hnames]

theorem insert_of_not_mem {name : String} {extras : Extras} (v : Value) (h : name ∉ extras.names) :
    insert name v extras = extras ++ [(name, v)] := by
  induction extras with
  | nil => rfl
  | cons p rest ih =>
    obtain ⟨n, w⟩ := p
    simp only [names, List.map_cons, List.mem_cons, not_or] at h
    rw [insert, if_neg (Ne.symm h.1), ih h.2]
    rfl

theorem nodup_insert {extras : Extras} (name : String) (v : Value) (h : extras.names.Nodup) :
    (insert name v extras).names.Nodup := by
  by_cases hname : name ∈ extras.names
  · rw [names_insert_of_mem v hname]
    exact h
  · rw [insert_of_not_mem v hname]
    have hconcat : (extras ++ [(name, v)]).names = extras.names.concat name := by simp [names]
    rw [hconcat]
    exact h.concat hname

theorem nodup_insertAll {extras : Extras} (more : Extras) (h : extras.names.Nodup) :
    (insertAll extras more).names.Nodup := by
  induction more generalizing extras with
  | nil => exact h
  | cons p more ih => exact ih (nodup_insert p.1 p.2 h)

theorem insertAll_of_nodup {extras more : Extras} (h : (extras ++ more).names.Nodup) :
    insertAll extras more = extras ++ more := by
  induction more generalizing extras with
  | nil => exact (List.append_nil extras).symm
  | cons p more ih =>
    have hsplit : extras ++ p :: more = extras ++ [p] ++ more := by simp
    have hp : p.1 ∉ extras.names := by
      intro hmem
      simp only [names, List.map_append, List.map_cons, List.nodup_append] at h
      exact h.2.2 _ hmem _ (.head _) rfl
    have hstep : insertAll extras (p :: more) = insertAll (insert p.1 p.2 extras) more := rfl
    rw [hstep, insert_of_not_mem p.2 hp, hsplit]
    exact ih (hsplit ▸ h)

theorem mem_names_insert {n name : String} {v : Value} {extras : Extras} :
    n ∈ (insert name v extras).names ↔ n = name ∨ n ∈ extras.names := by
  by_cases hname : name ∈ extras.names
  · rw [names_insert_of_mem v hname]
    exact ⟨.inr, fun h => h.elim (fun he => he ▸ hname) id⟩
  · rw [insert_of_not_mem v hname]
    simp [names, or_comm]

theorem mem_names_insertAll {n : String} {extras more : Extras} :
    n ∈ (insertAll extras more).names ↔ n ∈ extras.names ∨ n ∈ more.names := by
  induction more generalizing extras with
  | nil => simp [insertAll, names]
  | cons p more ih =>
    have hstep : insertAll extras (p :: more) = insertAll (insert p.1 p.2 extras) more := rfl
    rw [hstep, ih, mem_names_insert]
    simp [names, or_assoc, or_left_comm]

theorem get?_cons {n name : String} {v : Value} {extras : Extras} :
    get? ((name, v) :: extras) n = if n = name then some v else get? extras n := by
  by_cases hn : n = name
  · simp [get?, hn]
  · have hbeq : (n == name) = false := beq_eq_false_iff_ne.2 hn
    simp [get?, List.lookup_cons, hbeq, hn]

theorem get?_insert {n name : String} {v : Value} {extras : Extras} :
    (insert name v extras).get? n = if n = name then some v else extras.get? n := by
  induction extras with
  | nil => exact get?_cons
  | cons p rest ih =>
    obtain ⟨k, w⟩ := p
    by_cases hk : k = name
    · rw [insert, if_pos hk, get?_cons, get?_cons, hk]
      split <;> rfl
    · rw [insert, if_neg hk, get?_cons, get?_cons, ih]
      by_cases hn : n = k
      · simp [hn, hk]
      · simp [hn]

/-- Of the properties set one after another, the last one of a name counts. -/
theorem get?_insertAll {n : String} {extras more : Extras} :
    (insertAll extras more).get? n = (get? more.reverse n).or (extras.get? n) := by
  induction more generalizing extras with
  | nil => rfl
  | cons p more ih =>
    have hstep : insertAll extras (p :: more) = insertAll (insert p.1 p.2 extras) more := rfl
    have happend : get? (p :: more).reverse n = (get? more.reverse n).or (get? [p] n) := by
      rw [List.reverse_cons]
      exact List.lookup_append
    rw [hstep, ih, get?_insert, happend, get?_cons, Option.or_assoc]
    split <;> rfl

theorem get?_without {n : String} {dropped : List String} {extras : Extras} :
    (extras.without dropped).get? n = if n ∈ dropped then none else extras.get? n := by
  induction extras with
  | nil => simp [without, get?]
  | cons p rest ih =>
    obtain ⟨k, w⟩ := p
    by_cases hk : k ∈ dropped
    · have hout : without dropped ((k, w) :: rest) = without dropped rest := by simp [without, hk]
      rw [hout, ih, get?_cons]
      by_cases hn : n = k
      · rw [if_pos (hn ▸ hk), if_pos (hn ▸ hk)]
      · rw [if_neg hn]
    · have hin : without dropped ((k, w) :: rest) = (k, w) :: without dropped rest := by
        simp [without, hk]
      rw [hin, get?_cons, get?_cons, ih]
      by_cases hn : n = k
      · rw [if_pos hn, if_pos hn, if_neg (hn ▸ hk)]
      · rw [if_neg hn, if_neg hn]

theorem nodup_without {extras : Extras} (dropped : List String) (h : extras.names.Nodup) :
    (extras.without dropped).names.Nodup :=
  h.sublist (List.filter_sublist.map Prod.fst)

/-- The properties as entries under texts. -/
def record (extras : Extras) : Entries := extras.map fun p => (.str p.1, p.2)

/-- The properties have distinct names beside the declared ones. -/
structure Apart (declared : List String) (extras : Extras) : Prop where
  distinct : extras.names.Nodup
  undeclared : ∀ n ∈ extras.names, n ∉ declared

end Extras

namespace Check

theorem nodup_of_extras {declared : List String} {es : Entries} {found : Extras}
    (h : extras declared es = .ok found) : found.names.Nodup := by
  unfold extras at h
  split at h
  · cases h
    exact Extras.nodup_insertAll _ List.nodup_nil
  · cases h

theorem within_eq_ok_iff {α : Type} {step : Step} {x : Checked α} {a : α} :
    within step x = .ok a ↔ x = .ok a := by
  cases x <;> simp [within]

/-- Entries pass as undeclared ones exactly if they are properties under texts. -/
theorem extrasFrom_eq_ok_iff {es : Entries} {found : Extras} :
    extrasFrom es = .ok found ↔ es = found.record := by
  induction es generalizing found with
  | nil => cases found <;> simp [extrasFrom, Extras.record]
  | cons e rest ih =>
    obtain ⟨k, v⟩ := e
    constructor
    · intro h
      rw [extrasFrom] at h
      split at h
      · rename_i name more hboth
        cases h
        obtain ⟨hkey, hrest⟩ := both_eq_ok_iff.1 hboth
        rw [ih.1 hrest]
        cases k with
        | str s =>
          cases hkey
          rfl
        | _ => cases hkey
      · cases h
    · intro h
      cases found with
      | nil => cases h
      | cons p more =>
        cases h
        rw [extrasFrom, ih.2 rfl]
        rfl

/-- What a check finds beside the declared entries is apart from them. -/
theorem apart_of_extras {declared : List String} {es : Entries} {found : Extras}
    (h : extras declared es = .ok found) : found.Apart declared := by
  refine ⟨nodup_of_extras h, ?_⟩
  unfold extras at h
  split at h
  · rename_i own hown
    cases h
    intro n hn hdeclared
    have hmem : n ∈ own.names := by simpa [Extras.names] using Extras.mem_names_insertAll.1 hn
    obtain ⟨p, hp, rfl⟩ := List.mem_map.1 hmem
    have hentry : (.str p.1, p.2) ∈ Entries.without declared es := by
      rw [extrasFrom_eq_ok_iff.1 hown]
      exact List.mem_map_of_mem hp
    have hout : ∀ x ∈ declared, ¬p.1 = x := by simpa using (List.mem_filter.1 hentry).2
    exact hout p.1 hdeclared rfl
  · cases h

end Check

namespace SheetOverride

/-- A record that passes the check gives the override. -/
def Valid (o : SheetOverride) : Prop := ∃ v, check v = .ok o

theorem Valid.nodup {o : SheetOverride} (h : o.Valid) : o.extras.names.Nodup := by
  obtain ⟨v, hv⟩ := h
  obtain ⟨es, -, hparts⟩ := bind_eq_ok_iff.1 hv
  obtain ⟨⟨slug, name, extras⟩, hboth, he⟩ := bind_eq_ok_iff.1 hparts
  cases he
  obtain ⟨-, hrest⟩ := Check.both_eq_ok_iff.1 hboth
  obtain ⟨-, hextras⟩ := Check.both_eq_ok_iff.1 hrest
  exact Check.nodup_of_extras hextras

end SheetOverride

end SchemaSheets
