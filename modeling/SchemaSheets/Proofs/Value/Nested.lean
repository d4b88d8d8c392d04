import Mathlib.Data.List.Nodup
import SchemaSheets.Proofs.Value.Merge

/-!
# Merged mappings, key by key

A mapping from distinct texts is told by the order of its keys and by what is
found under each of them.  A merge of two such mappings has the lower one's keys
and then the upper one's new keys; under a key of the upper mapping stands its
value laid over what the lower mapping has there, and under any other key what
the lower mapping has.
-/

namespace SchemaSheets

namespace Entries

variable {entries lower upper : Entries} {name : String} {v : Value}

/-- The keys are distinct texts. -/
structure KeyedByTexts (entries : Entries) : Prop where
  texts : ∀ k ∈ entries.keys, ∃ s, k = .str s
  distinct : entries.keys.Nodup

theorem KeyedByTexts.of_cons {k : Scalar} (h : KeyedByTexts ((k, v) :: entries)) :
    (∃ s, k = .str s) ∧ k ∉ entries.keys ∧ KeyedByTexts entries := by
  obtain ⟨htext, htexts⟩ := List.forall_mem_cons.1 h.texts
  obtain ⟨hnew, hdistinct⟩ := List.nodup_cons.1 h.distinct
  exact ⟨htext, hnew, htexts, hdistinct⟩

/-! ### Keys and what stands under them -/

@[simp] theorem keys_nil : keys [] = [] := rfl

@[simp] theorem keys_cons (k : Scalar) (v : Value) (rest : Entries) :
    keys ((k, v) :: rest) = k :: keys rest := rfl

theorem get?_cons (k : Scalar) (v : Value) (entries : Entries) (name : String) :
    get? ((k, v) :: entries) name = if k = .str name then some v else get? entries name := by
  simp only [get?, lookup?, Scalar.sameKey_str_right, decide_eq_true_eq]

theorem get?_eq_none_iff : entries.get? name = none ↔ .str name ∉ entries.keys := by
  induction entries with
  | nil => simp
  | cons e rest ih =>
    obtain ⟨k, v⟩ := e
    rw [get?_cons, keys_cons, List.mem_cons, not_or]
    by_cases hk : k = .str name
    · simp [hk]
    · rw [if_neg hk, ih, and_iff_right (Ne.symm hk)]

theorem mem_of_get? (h : entries.get? name = some v) : (.str name, v) ∈ entries := by
  induction entries with
  | nil => simp at h
  | cons e rest ih =>
    obtain ⟨k, w⟩ := e
    rw [get?_cons] at h
    split at h
    next hk =>
      cases h
      rw [hk]
      exact List.mem_cons_self
    next => exact List.mem_cons_of_mem _ (ih h)

theorem keys_insert (s : String) (v : Value) (entries : Entries) :
    (insert (.str s) v entries).keys =
      if .str s ∈ entries.keys then entries.keys else entries.keys ++ [.str s] := by
  induction entries with
  | nil => rfl
  | cons e rest ih =>
    obtain ⟨k, w⟩ := e
    rw [insert, Scalar.sameKey_str_right]
    by_cases hk : k = .str s
    · simp [hk]
    · have hmem : Scalar.str s ∈ k :: keys rest ↔ Scalar.str s ∈ keys rest := by
        rw [List.mem_cons, or_iff_right (Ne.symm hk)]
      simp only [hk, decide_false, Bool.false_eq_true, if_false, keys_cons, hmem, ih]
      split <;> rfl

/-- Mappings with the same keys in the same order, and the same value under each of them, are the
same. -/
theorem KeyedByTexts.ext {others : Entries} (h : entries.KeyedByTexts)
    (hkeys : entries.keys = others.keys) (hvalues : ∀ name, entries.get? name = others.get? name) :
    entries = others := by
  induction entries generalizing others with
  | nil => exact (List.map_eq_nil_iff.1 hkeys.symm).symm
  | cons e rest ih =>
    cases others with
    | nil => cases hkeys
    | cons e' rest' =>
      obtain ⟨k, v⟩ := e
      obtain ⟨k', v'⟩ := e'
      rw [keys_cons, keys_cons, List.cons.injEq] at hkeys
      obtain ⟨rfl, hkeys⟩ := hkeys
      obtain ⟨⟨s, rfl⟩, hnew, hrest⟩ := h.of_cons
      have hhead := hvalues s
      rw [get?_cons, get?_cons, if_pos rfl, if_pos rfl, Option.some.injEq] at hhead
      have htail : rest = rest' := by
        refine ih hrest hkeys fun name => ?_
        by_cases hs : name = s
        · rw [hs, get?_eq_none_iff.2 hnew, get?_eq_none_iff.2 (hkeys ▸ hnew)]
        · have hname := hvalues name
          have hne : Scalar.str s ≠ .str name := fun he => hs (Scalar.str.inj he).symm
          rwa [get?_cons, get?_cons, if_neg hne, if_neg hne] at hname
      rw [hhead, htail]

/-! ### Merges -/

theorem merge_cons (lower : Entries) (k : Scalar) (v : Value) (rest : Entries) :
    merge lower ((k, v) :: rest) =
      merge (insert k (Value.laidOver (lookup? k lower) v) lower) rest := by
  simp only [merge, Value.entriesLaidOver]

/-- The lower mapping's keys stay in front, and the upper one's new keys follow. -/
theorem keys_merge (lower : Entries) (h : upper.KeyedByTexts) :
    (merge lower upper).keys = lower.keys ++ upper.keys.filter (· ∉ lower.keys) := by
  induction upper generalizing lower with
  | nil => simp
  | cons e rest ih =>
    obtain ⟨k, v⟩ := e
    obtain ⟨⟨s, rfl⟩, hnew, hrest⟩ := h.of_cons
    rw [merge_cons, ih _ hrest, keys_insert, keys_cons]
    by_cases hs : .str s ∈ lower.keys
    · simp [hs]
    · have hfilter : (keys rest).filter (· ∉ lower.keys ++ [.str s]) =
          (keys rest).filter (· ∉ lower.keys) := by
        refine List.filter_congr fun k hk => ?_
        have hne : k ≠ .str s := fun he => hnew (he ▸ hk)
        simp [hne]
      rw [if_neg hs, hfilter, List.filter_cons_of_pos (by simpa using hs), List.append_assoc]
      rfl

theorem get?_merge (lower : Entries) (h : upper.KeyedByTexts) (name : String) :
    (merge lower upper).get? name = match upper.get? name with
      | some v => some (Value.laidOver (lower.get? name) v)
      | none => lower.get? name := by
  induction upper generalizing lower with
  | nil => rw [merge_nil, get?_nil]
  | cons e rest ih =>
    obtain ⟨k, v⟩ := e
    obtain ⟨⟨s, rfl⟩, hnew, hrest⟩ := h.of_cons
    rw [merge_cons, ih _ hrest, get?_insert, get?_cons]
    by_cases hs : Scalar.str s = .str name
    · rw [if_pos hs, if_pos hs, get?_eq_none_iff.2 (hs ▸ hnew)]
      cases hs
      rfl
    · rw [if_neg hs, if_neg hs]

theorem KeyedByTexts.merge (hlower : lower.KeyedByTexts) (hupper : upper.KeyedByTexts) :
    (merge lower upper).KeyedByTexts := by
  constructor
  · intro k hk
    rw [keys_merge lower hupper] at hk
    rcases List.mem_append.1 hk with hk | hk
    · exact hlower.texts k hk
    · exact hupper.texts k (List.mem_of_mem_filter hk)
  · rw [keys_merge lower hupper]
    refine hlower.distinct.append (hupper.distinct.filter _) fun k hk hnew => ?_
    simpa [hk] using List.of_mem_filter hnew

end Entries

namespace Value

/-- All mappings that are reached through mappings alone are keyed by distinct texts. -/
inductive KeyedByTexts : Value → Prop where
  | map {entries : Entries} (own : entries.KeyedByTexts)
      (parts : ∀ e ∈ entries, KeyedByTexts e.2) : KeyedByTexts (.map entries)
  | other {v : Value} (h : v.isMap = false) : KeyedByTexts v

@[simp] theorem keyedByTexts_scalar (s : Scalar) : (Value.scalar s).KeyedByTexts := .other rfl

@[simp] theorem keyedByTexts_list (items : List Value) : (Value.list items).KeyedByTexts :=
  .other rfl

namespace KeyedByTexts

variable {entries : Entries}

theorem own (h : (Value.map entries).KeyedByTexts) : entries.KeyedByTexts := by
  cases h with
  | map own parts => exact own
  | other hmap => cases hmap

theorem of_get? {name : String} {v : Value} (h : (Value.map entries).KeyedByTexts)
    (hv : entries.get? name = some v) : v.KeyedByTexts := by
  cases h with
  | map own parts => exact parts _ (Entries.mem_of_get? hv)
  | other hmap => cases hmap

theorem of_record {fields : List (String × Value)} (distinct : (fields.map (·.1)).Nodup)
    (parts : ∀ f ∈ fields, f.2.KeyedByTexts) : (Value.record fields).KeyedByTexts := by
  have hkeys : Entries.keys (fields.map fun f => (Scalar.str f.1, f.2)) =
      (fields.map (·.1)).map Scalar.str := by
    simp [Entries.keys, Function.comp_def]
  refine .map ⟨fun k hk => ?_, ?_⟩ fun e he => ?_
  · rw [hkeys] at hk
    obtain ⟨s, -, rfl⟩ := List.mem_map.1 hk
    exact ⟨s, rfl⟩
  · rw [hkeys]
    exact distinct.map fun s t h => Scalar.str.inj h
  · obtain ⟨f, hf, rfl⟩ := List.mem_map.1 he
    exact parts f hf

end KeyedByTexts

@[simp] theorem laidOver_none (v : Value) : laidOver none v = v := by
  cases v <;> rfl

theorem laidOver_of_not_map {v : Value} (under : Option Value) (h : v.isMap = false) :
    laidOver under v = v := by
  cases v with
  | map entries => cases h
  | _ => rfl

end Value

namespace Entries

variable {upper : Entries}

theorem merge_empty (h : upper.KeyedByTexts) : merge [] upper = upper := by
  refine (KeyedByTexts.ext h ?_ fun name => ?_).symm
  · rw [keys_merge [] h]
    simp
  · rw [get?_merge [] h]
    cases upper.get? name <;> simp

end Entries

namespace Value

/-- The entries of a mapping that lies under another; nothing else has any. -/
def lowerEntries : Option Value → Entries
  | some (.map entries) => entries
  | _ => []

theorem laidOver_map (under : Option Value) {upper : Entries} (h : upper.KeyedByTexts) :
    laidOver under (.map upper) = .map (Entries.merge (lowerEntries under) upper) := by
  have hempty : Value.map upper = .map (Entries.merge [] upper) := by rw [Entries.merge_empty h]
  cases under with
  | none => exact hempty
  | some v =>
    cases v with
    | map lower => rfl
    | _ => exact hempty

/-! ### Two mappings to merge -/

/-- Properties that workbooks share. -/
def sharedProperties : Value :=
  .record [("labels", .list [.str "film"]),
    ("theme", .record [("colour", .str "red"), ("logo", .str "film.png")]),
    ("owner", .record [("name", .str "studio")])]

/-- Properties that one workbook has for itself. -/
def ownProperties : Value :=
  .record [("theme", .record [("logo", .record [("file", .str "own.png")]), ("width", .int 3)]),
    ("owner", .null), ("title", .str "Films")]

theorem keyedByTexts_sharedProperties : sharedProperties.KeyedByTexts := by
  have htheme : KeyedByTexts (.record [("colour", .str "red"), ("logo", .str "film.png")]) :=
    .of_record (by decide) (by simp)
  have howner : KeyedByTexts (.record [("name", .str "studio")]) :=
    .of_record (by decide) (by simp)
  exact .of_record (by decide) (by simp [htheme, howner])

theorem keyedByTexts_ownProperties : ownProperties.KeyedByTexts := by
  have hlogo : KeyedByTexts (.record [("file", .str "own.png")]) :=
    .of_record (by decide) (by simp)
  have htheme : KeyedByTexts
      (.record [("logo", .record [("file", .str "own.png")]), ("width", .int 3)]) :=
    .of_record (by decide) (by simp [hlogo])
  exact .of_record (by decide) (by simp [htheme])

end Value

end SchemaSheets
