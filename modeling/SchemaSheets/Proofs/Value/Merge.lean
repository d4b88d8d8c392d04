import SchemaSheets.Value.Merge

/-!
# Text keys of merged mappings

Keys of different kinds may name the same entry, but a text names its own entry
only.  So what is found under a text key after an insertion or a merge is told
by that key alone.
-/

namespace SchemaSheets

namespace Scalar

@[simp] theorem sameKey_str_right (k : Scalar) (s : String) :
    k.sameKey (.str s) = decide (k = .str s) := by
  cases k <;> simp [sameKey, integer?]

@[simp] theorem sameKey_str_left (k : Scalar) (s : String) :
    (Scalar.str s).sameKey k = decide (k = .str s) := by
  cases k <;> simp [sameKey, integer?, eq_comm]

end Scalar

namespace Entries

variable {name : String}

/-- An insertion changes what is found under its own key and nothing else. -/
theorem get?_insert (k : Scalar) (v : Value) (entries : Entries) (name : String) :
    get? (insert k v entries) name = if k = .str name then some v else get? entries name := by
  induction entries with
  | nil => simp [get?, insert, lookup?]
  | cons e rest ih =>
    obtain ⟨l, w⟩ := e
    simp only [get?] at ih
    by_cases hk : k = .str name
    · subst hk
      by_cases hl : l = .str name <;> simp [get?, insert, lookup?, hl, ih]
    · by_cases hl : l = .str name
      · subst hl
        simp [get?, insert, lookup?, hk]
      · by_cases hlk : l.sameKey k <;> simp [get?, insert, lookup?, hk, hl, hlk, ih]

theorem has_insert (k : Scalar) (v : Value) (entries : Entries) (name : String) :
    (insert k v entries).has name = (decide (k = .str name) || entries.has name) := by
  simp only [has, get?_insert]
  by_cases hk : k = .str name <;> simp [hk]

theorem has_cons (k : Scalar) (v : Value) (entries : Entries) (name : String) :
    has ((k, v) :: entries) name = (decide (k = .str name) || entries.has name) := by
  simp only [has, get?, lookup?, Scalar.sameKey_str_right]
  by_cases hk : k = .str name <;> simp [hk]

theorem has_eq_false_iff {entries : Entries} :
    entries.has name = false ↔ ∀ e ∈ entries, e.1 ≠ .str name := by
  induction entries with
  | nil => simp [has]
  | cons e rest ih =>
    rw [has_cons, Bool.or_eq_false_iff, ih, List.forall_mem_cons, decide_eq_false_iff_not]

theorem get_of_not_has {entries : Entries} (h : entries.has name = false) :
    entries.get name = .null := by
  have hnone : entries.get? name = none := by simpa [has] using h
  rw [get, hnone, Option.getD_none]

theorem without_of_not_has {entries : Entries} (h : entries.has name = false) :
    entries.without [name] = entries := by
  refine List.filter_eq_self.2 fun e he => ?_
  simpa using has_eq_false_iff.1 h e he

theorem not_has_without {entries : Entries} (names : List String)
    (h : entries.has name = false) : (entries.without names).has name = false :=
  has_eq_false_iff.2 fun e he => has_eq_false_iff.1 h e (List.mem_filter.1 he).1

/-- A merge has the keys of both mappings. -/
theorem has_merge (lower upper : Entries) (name : String) :
    (merge lower upper).has name = (lower.has name || upper.has name) := by
  induction upper generalizing lower with
  | nil => simp [has]
  | cons e rest ih =>
    obtain ⟨k, v⟩ := e
    have hstep : merge lower ((k, v) :: rest) =
        merge (insert k (Value.laidOver (lookup? k lower) v) lower) rest := by
      simp only [merge, Value.entriesLaidOver]
    rw [hstep, ih, has_insert, has_cons, Bool.or_assoc, Bool.or_left_comm]

end Entries

end SchemaSheets
