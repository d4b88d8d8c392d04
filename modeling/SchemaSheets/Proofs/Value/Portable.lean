import SchemaSheets.Value.Portable
import SchemaSheets.Proofs.Steps
import SchemaSheets.Proofs.Value.Merge
import Mathlib.Data.List.Nodup

/-!
# Values that are portable already

Null, truth values, finite numbers, texts, lists of such values and mappings
from distinct texts to such values: bringing one of them into its portable form
changes nothing, neither a value nor an order.
-/

namespace SchemaSheets

open Steps

namespace Entries

variable {entries more : Entries}

theorem insert_of_not_mem {s : String} (v : Value) (h : .str s ∉ entries.keys) :
    insert (.str s) v entries = entries ++ [(.str s, v)] := by
  induction entries with
  | nil => rfl
  | cons e rest ih =>
    obtain ⟨l, w⟩ := e
    simp only [keys, List.map_cons, List.mem_cons, not_or] at h
    have hl : l.sameKey (.str s) = false := by simpa using Ne.symm h.1
    rw [insert, hl, ih h.2]
    rfl

/-- Entries under distinct texts are inserted one behind another. -/
theorem foldl_insert_of_nodup (htext : ∀ e ∈ more, ∃ s, e.1 = .str s)
    (h : (entries ++ more).keys.Nodup) :
    more.foldl (fun acc (k, v) => insert k v acc) entries = entries ++ more := by
  induction more generalizing entries with
  | nil => exact (List.append_nil entries).symm
  | cons e more ih =>
    obtain ⟨k, v⟩ := e
    obtain ⟨⟨s, hs⟩, hrest⟩ := List.forall_mem_cons.1 htext
    cases hs
    have hsplit : entries ++ (.str s, v) :: more = entries ++ [(.str s, v)] ++ more := by simp
    have hnew : .str s ∉ entries.keys := by
      intro hmem
      simp only [keys, List.map_append, List.map_cons, List.nodup_append] at h
      exact h.2.2 _ hmem _ (.head _) rfl
    rw [List.foldl_cons]
    change List.foldl _ (insert (.str s) v entries) more = _
    rw [insert_of_not_mem v hnew, hsplit]
    exact ih hrest (hsplit ▸ h)

theorem ofList_of_nodup (htext : ∀ e ∈ entries, ∃ s, e.1 = .str s) (h : entries.keys.Nodup) :
    ofList entries = entries :=
  foldl_insert_of_nodup htext h

end Entries

namespace Value

/-- A value that every document format can hold. -/
inductive IsPortable : Value → Prop where
  | null : IsPortable .null
  | bool (b : Bool) : IsPortable (.bool b)
  | int (n : Int) : IsPortable (.int n)
  | float {x : Binary64} (finite : x.toFraction?.isSome = true) : IsPortable (.float x)
  | str (s : String) : IsPortable (.str s)
  | list {items : List Value} (parts : ∀ v ∈ items, IsPortable v) : IsPortable (.list items)
  | map {entries : Entries} (texts : ∀ e ∈ entries, ∃ s, e.1 = .str s)
      (distinct : entries.keys.Nodup) (parts : ∀ e ∈ entries, IsPortable e.2) :
      IsPortable (.map entries)

theorem portableItems_of_forall {items : List Value} (h : ∀ v ∈ items, v.portable = .ok v) :
    portableItems items = .ok items := by
  induction items with
  | nil => rfl
  | cons v rest ih =>
    obtain ⟨hv, hrest⟩ := List.forall_mem_cons.1 h
    rw [portableItems, hv, ih hrest]
    rfl

theorem portableEntries_of_forall {entries : Entries} (htext : ∀ e ∈ entries, ∃ s, e.1 = .str s)
    (h : ∀ e ∈ entries, e.2.portable = .ok e.2) : portableEntries entries = .ok entries := by
  induction entries with
  | nil => rfl
  | cons e rest ih =>
    obtain ⟨k, v⟩ := e
    obtain ⟨⟨s, hs⟩, htexts⟩ := List.forall_mem_cons.1 htext
    obtain ⟨hv, hrest⟩ := List.forall_mem_cons.1 h
    cases hs
    have hkey : (Scalar.str s).portableKey = .ok (.str s) := rfl
    rw [portableEntries, hkey, hv, ih htexts hrest]
    rfl

theorem IsPortable.portable_eq {v : Value} (h : v.IsPortable) : v.portable = .ok v := by
  induction h with
  | null => rfl
  | bool b => rfl
  | int n => rfl
  | float finite => rw [portable, Scalar.portable, if_pos finite]; rfl
  | str s => rfl
  | list _ ih => rw [portable, portableItems_of_forall ih]; rfl
  | map texts distinct _ ih =>
    rw [portable, portableEntries_of_forall texts ih]
    change Except.ok (Value.map (Entries.ofList _)) = _
    rw [Entries.ofList_of_nodup texts distinct]

end Value

end SchemaSheets
