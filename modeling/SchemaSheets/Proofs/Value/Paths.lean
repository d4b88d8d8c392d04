import SchemaSheets.Proofs.Value.Nested

/-!
# Merged mappings, path by path

A path of texts leads from a mapping through the mappings inside it.  Where it
leads somewhere in the upper mapping of a merge, the result has the upper value
there, laid over what the lower mapping has at the same place.  Where it leads
nowhere in the upper mapping, the result has what the lower mapping has, unless
the upper one cuts the path off with a value that is no mapping.
-/

namespace SchemaSheets

namespace Value

/-- The value that a path of text keys leads to. -/
def at? : List String → Value → Option Value
  | [], v => some v
  | name :: path, .map entries => (Entries.get? entries name).bind (at? path)
  | _ :: _, _ => none

/-- The keys of the mapping at the end of a path; nothing else has any. -/
def keysAt (path : List String) (v : Value) : List Scalar := Entries.keys (lowerEntries (v.at? path))

/-- A path leads to the same value, or for a mapping to some mapping. -/
def Shows (merged : Value) (path : List String) (v : Value) : Prop :=
  (v.isMap = false → merged.at? path = some v) ∧
    (v.isMap = true → ∃ entries, merged.at? path = some (.map entries))

/-- A value that is no mapping stands on the way of a path or at its end. -/
def CutsOff (path : List String) (v : Value) : Prop :=
  ∃ front w, front <+: path ∧ v.at? front = some w ∧ w.isMap = false

variable {path : List String} {under : Option Value} {u v w : Value}

theorem isMap_iff : v.isMap = true ↔ ∃ entries, v = .map entries := by
  cases v <;> simp [isMap]

theorem at?_cons_eq_some_iff {name : String} :
    v.at? (name :: path) = some w ↔ ∃ (entries : Entries) (u : Value), v = .map entries ∧
      entries.get? name = some u ∧ u.at? path = some w := by
  cases v with
  | map entries => simp [at?, Option.bind_eq_some_iff]
  | _ => simp [at?]

theorem CutsOff.of_not_map (h : v.isMap = false) : CutsOff path v :=
  ⟨[], v, List.nil_prefix, rfl, h⟩

theorem CutsOff.cons {name : String} {entries : Entries} (hu : entries.get? name = some u)
    (h : CutsOff path u) : CutsOff (name :: path) (.map entries) := by
  obtain ⟨front, w, hfront, hw, hmap⟩ := h
  refine ⟨name :: front, w, List.cons_prefix_cons.2 ⟨rfl, hfront⟩, ?_, hmap⟩
  exact at?_cons_eq_some_iff.2 ⟨entries, u, rfl, hu, hw⟩

theorem isMap_laidOver (under : Option Value) (v : Value) : (laidOver under v).isMap = v.isMap := by
  cases v with
  | map upper =>
    cases under with
    | none => rfl
    | some u => cases u <;> rfl
  | _ => rfl

/-! ### What paths lead to -/

theorem keyedByTexts_at? (hv : v.KeyedByTexts) (h : v.at? path = some w) : w.KeyedByTexts := by
  induction path generalizing v with
  | nil =>
    cases h
    exact hv
  | cons name path ih =>
    obtain ⟨entries, u, rfl, hu, hw⟩ := at?_cons_eq_some_iff.1 h
    exact ih (hv.of_get? hu) hw

theorem bind_at?_cons (name : String) (path : List String) (under : Option Value) :
    under.bind (at? (name :: path)) = ((lowerEntries under).get? name).bind (at? path) := by
  cases under with
  | none => rfl
  | some u => cases u <;> rfl

/-- Where a path leads somewhere in the upper value, both values meet at its end. -/
theorem at?_laidOver_of_some (under : Option Value) (hv : v.KeyedByTexts) (h : v.at? path = some w) :
    (laidOver under v).at? path = some (laidOver (under.bind (at? path)) w) := by
  induction path generalizing under v with
  | nil =>
    cases h
    cases under <;> rfl
  | cons name path ih =>
    obtain ⟨upper, u, rfl, hu, hw⟩ := at?_cons_eq_some_iff.1 h
    rw [laidOver_map under hv.own, at?, Entries.get?_merge _ hv.own, hu, bind_at?_cons]
    exact ih _ (hv.of_get? hu) hw

/-- Where a path leads nowhere in the upper value, the lower one shows unless the path is cut off. -/
theorem at?_laidOver_of_none (under : Option Value) (hv : v.KeyedByTexts) (h : v.at? path = none) :
    (laidOver under v).at? path = under.bind (at? path) ∨
      (laidOver under v).at? path = none ∧ CutsOff path v := by
  induction path generalizing under v with
  | nil => cases h
  | cons name path ih =>
    cases hmap : v.isMap with
    | false =>
      right
      rw [laidOver_of_not_map under hmap]
      exact ⟨h, .of_not_map hmap⟩
    | true =>
      obtain ⟨upper, rfl⟩ := isMap_iff.1 hmap
      rw [laidOver_map under hv.own, at?, Entries.get?_merge _ hv.own, bind_at?_cons]
      rw [at?] at h
      cases hu : Entries.get? upper name with
      | none => exact .inl rfl
      | some u =>
        rw [hu] at h
        exact (ih _ (hv.of_get? hu) h).imp_right fun hcut => ⟨hcut.1, hcut.2.cons hu⟩

/-! ### What a merge shows -/

variable {lower : Value}

theorem shows_upper (hv : v.KeyedByTexts) (h : v.at? path = some w) :
    (laidOver (some lower) v).Shows path w := by
  have hmeet := at?_laidOver_of_some (some lower) hv h
  constructor
  · intro hmap
    rw [hmeet, laidOver_of_not_map _ hmap]
  · intro hmap
    rw [← isMap_laidOver ((some lower).bind (at? path)), isMap_iff] at hmap
    obtain ⟨entries, hentries⟩ := hmap
    exact ⟨entries, hmeet.trans (congrArg some hentries)⟩

theorem shows_lower (hv : v.KeyedByTexts) (h : lower.at? path = some w) (hcut : ¬CutsOff path v)
    (hmeet : w.isMap = true ∨ ∀ x, v.at? path = some x → x.isMap = false) :
    (laidOver (some lower) v).Shows path w := by
  cases hx : v.at? path with
  | none =>
    have hlower := (at?_laidOver_of_none (some lower) hv hx).resolve_right
      fun hnone => hcut hnone.2
    rw [Option.bind_some, h] at hlower
    refine ⟨fun _ => hlower, fun hmap => ?_⟩
    obtain ⟨entries, rfl⟩ := isMap_iff.1 hmap
    exact ⟨entries, hlower⟩
  | some x =>
    have hmap : x.isMap = true := by
      by_contra hnot
      exact hcut ⟨path, x, List.prefix_rfl, hx, by simpa using hnot⟩
    have hw : w.isMap = true := hmeet.resolve_right fun hall => by simp [hall x hx] at hmap
    exact ⟨fun hnot => by simp [hnot] at hw, fun _ => (shows_upper hv hx).2 hmap⟩

theorem at?_of_laidOver (hv : v.KeyedByTexts) (h : (laidOver (some lower) v).at? path = some w) :
    (∃ u, lower.at? path = some u) ∨ ∃ x, v.at? path = some x := by
  cases hx : v.at? path with
  | some x => exact .inr ⟨x, rfl⟩
  | none =>
    rcases at?_laidOver_of_none (some lower) hv hx with hlower | ⟨hnone, -⟩
    · exact .inl ⟨w, hlower.symm.trans h⟩
    · rw [hnone] at h
      cases h

theorem keysAt_laidOver (hv : v.KeyedByTexts) {entries : Entries}
    (h : (laidOver (some lower) v).at? path = some (.map entries)) :
    entries.keys =
      keysAt path lower ++ (keysAt path v).filter (· ∉ keysAt path lower) := by
  cases hx : v.at? path with
  | none =>
    rcases at?_laidOver_of_none (some lower) hv hx with hlower | ⟨hnone, -⟩
    · rw [Option.bind_some, h] at hlower
      simp [keysAt, hx, ← hlower, lowerEntries]
    · rw [hnone] at h
      cases h
  | some x =>
    rw [at?_laidOver_of_some _ hv hx, Option.some.injEq] at h
    have hmap : x.isMap = true := by
      rw [← isMap_laidOver ((some lower).bind (at? path)), h]
      rfl
    obtain ⟨upper, rfl⟩ := isMap_iff.1 hmap
    have hupper := (keyedByTexts_at? hv hx).own
    rw [laidOver_map _ hupper, Value.map.injEq] at h
    rw [← h, Entries.keys_merge _ hupper, keysAt, keysAt, hx]
    rfl

/-- A merge of mappings always succeeds and loses nothing.  Every path of the upper mapping leads to
the same value as there.  So does every path of the lower one, unless the upper one cuts it off or
has a mapping where the lower one has none.  No path comes from elsewhere, and at every level the
upper mapping's new keys follow the lower one's keys, both in their order. -/
theorem merge_lossless (lower : Entries) {upper : Entries}
    (hupper : (Value.map upper).KeyedByTexts) :
    ∃ merged, merge (.map lower) (.map upper) = .ok merged ∧
      (∀ path v, (Value.map upper).at? path = some v → merged.Shows path v) ∧
      (∀ path v, (Value.map lower).at? path = some v → ¬CutsOff path (.map upper) →
        (v.isMap = true ∨ ∀ w, (Value.map upper).at? path = some w → w.isMap = false) →
          merged.Shows path v) ∧
      (∀ path w, merged.at? path = some w →
        (∃ v, (Value.map lower).at? path = some v) ∨ ∃ v, (Value.map upper).at? path = some v) ∧
      ∀ path entries, merged.at? path = some (.map entries) →
        Entries.keys entries = keysAt path (.map lower) ++
          (keysAt path (.map upper)).filter (· ∉ keysAt path (.map lower)) :=
  ⟨laidOver (some (.map lower)) (.map upper), rfl, fun _ _ => shows_upper hupper,
    fun _ _ => shows_lower hupper, fun _ _ => at?_of_laidOver hupper,
    fun _ _ => keysAt_laidOver hupper⟩

theorem merge_lossless_properties :
    ownProperties.KeyedByTexts ∧ ∃ merged, merge sharedProperties ownProperties = .ok merged ∧
      merged.at? ["theme", "colour"] = some (.str "red") ∧
      merged.at? ["theme", "logo", "file"] = some (.str "own.png") ∧
      merged.at? ["owner"] = some .null ∧
      ∃ theme, merged.at? ["theme"] = some (.map theme) ∧
        Entries.keys theme = [.str "colour", .str "logo", .str "width"] := by
  obtain ⟨merged, hmerged, hupper, hlower, -, hkeys⟩ :=
    merge_lossless (lowerEntries (some sharedProperties)) keyedByTexts_ownProperties
  obtain ⟨theme, htheme⟩ := (hupper ["theme"] _ rfl).2 rfl
  have hcut : ¬CutsOff ["theme", "colour"] ownProperties := by
    rintro ⟨front, w, hfront, hw, hmap⟩
    rcases List.prefix_cons_iff.1 hfront with rfl | ⟨rest, rfl, hrest⟩
    · cases hw
      cases hmap
    · rcases List.prefix_cons_iff.1 hrest with rfl | ⟨_, rfl, -⟩
      · cases hw
        cases hmap
      · cases hw
  have hcolour := (hlower ["theme", "colour"] _ rfl hcut (.inr nofun)).1 rfl
  exact ⟨keyedByTexts_ownProperties, merged, hmerged, hcolour,
    (hupper ["theme", "logo", "file"] _ rfl).1 rfl, (hupper ["owner"] _ rfl).1 rfl, theme, htheme,
    hkeys ["theme"] theme htheme⟩

end Value

end SchemaSheets
