import SchemaSheets.Proofs.Value.Nested

/-!
# Merging a second time

What was laid over a value and what it was laid over are both part of the result
already, so laying the one over the result, or the result over the other,
changes nothing.  An empty mapping changes nothing on either side, nor does a
mapping that is merged with itself.
-/

namespace SchemaSheets

namespace Entries

variable {lower upper : Entries}

/-- Laying over changes nothing if it changes nothing under any key. -/
theorem merge_eq_self (hlower : lower.KeyedByTexts) (hupper : upper.KeyedByTexts)
    (h : ∀ name v, upper.get? name = some v →
      ∃ w, lower.get? name = some w ∧ Value.laidOver (some w) v = w) :
    merge lower upper = lower := by
  refine KeyedByTexts.ext (hlower.merge hupper) ?_ fun name => ?_
  · rw [keys_merge lower hupper, List.append_right_eq_self, List.filter_eq_nil_iff]
    intro k hk
    obtain ⟨s, rfl⟩ := hupper.texts k hk
    obtain ⟨v, hv⟩ := Option.ne_none_iff_exists'.1 fun hnone => get?_eq_none_iff.1 hnone hk
    obtain ⟨w, hw, -⟩ := h s v hv
    have hmem : Scalar.str s ∈ lower.keys := by
      by_contra hnot
      rw [get?_eq_none_iff.2 hnot] at hw
      cases hw
    simpa using hmem
  · rw [get?_merge lower hupper]
    cases hv : upper.get? name with
    | none => rfl
    | some v =>
      obtain ⟨w, hw, hover⟩ := h name v hv
      simp only [hw, hover]

theorem keys_merge_back (hupper : upper.KeyedByTexts) (hmerged : (merge lower upper).KeyedByTexts) :
    (merge lower (merge lower upper)).keys = (merge lower upper).keys := by
  have hold : lower.keys.filter (· ∉ lower.keys) = [] := by simp
  rw [keys_merge lower hmerged, keys_merge lower hupper, List.filter_append, hold, List.nil_append,
    List.filter_filter]
  simp

end Entries

namespace Value

variable {v : Value} {under : Option Value}

theorem keyedByTexts_lowerEntries (h : ∀ u ∈ under, u.KeyedByTexts) :
    (Value.map (lowerEntries under)).KeyedByTexts := by
  have hempty : (Value.map []).KeyedByTexts := .map ⟨by simp, by simp⟩ (by simp)
  cases under with
  | none => exact hempty
  | some u =>
    cases u with
    | map lower => exact h _ rfl
    | _ => exact hempty

/-- The induction is on the upper value: under each key it lies over what the lower one has there. -/
theorem laidOver_again (hv : v.KeyedByTexts) (hunder : ∀ u ∈ under, u.KeyedByTexts) :
    laidOver (some (laidOver under v)) v = laidOver under v := by
  induction hv generalizing under with
  | other hmap => rw [laidOver_of_not_map under hmap, laidOver_of_not_map _ hmap]
  | @map upper own parts ih =>
    have hlower := keyedByTexts_lowerEntries hunder
    rw [laidOver_map under own]
    refine congrArg Value.map (Entries.merge_eq_self (hlower.own.merge own) own fun name w hw => ?_)
    refine ⟨laidOver ((lowerEntries under).get? name) w, ?_, ?_⟩
    · rw [Entries.get?_merge _ own, hw]
    · exact ih _ (Entries.mem_of_get? hw) fun u hu => hlower.of_get? hu

theorem laidOver_self (hv : v.KeyedByTexts) : laidOver (some v) v = v := by
  have hagain : laidOver (some (laidOver none v)) v = laidOver none v := laidOver_again hv nofun
  rwa [laidOver_none] at hagain

theorem laidOver_back (hv : v.KeyedByTexts) (hunder : ∀ u ∈ under, u.KeyedByTexts) :
    laidOver under (laidOver under v) = laidOver under v := by
  induction hv generalizing under with
  | other hmap => rw [laidOver_of_not_map under hmap, laidOver_of_not_map under hmap]
  | @map upper own parts ih =>
    have hlower := keyedByTexts_lowerEntries hunder
    have hmerged := hlower.own.merge own
    rw [laidOver_map under own, laidOver_map under hmerged]
    refine congrArg Value.map (Entries.KeyedByTexts.ext (hlower.own.merge hmerged)
      (Entries.keys_merge_back own hmerged) fun name => ?_)
    rw [Entries.get?_merge _ hmerged, Entries.get?_merge _ own]
    cases hw : upper.get? name with
    | some w => exact congrArg some (ih _ (Entries.mem_of_get? hw) fun u hu => hlower.of_get? hu)
    | none =>
      cases hu : (lowerEntries under).get? name with
      | none => rfl
      | some u => exact congrArg some (laidOver_self (hlower.of_get? hu))

theorem merge_maps (lower upper : Entries) :
    merge (.map lower) (.map upper) = .ok (.map (Entries.merge lower upper)) := rfl

/-- For mappings that are keyed by texts at every level, merging is absorbed by what was merged
already, and neither an empty mapping nor the mapping itself changes anything.  All values are equal
with the order of their keys. -/
theorem merge_absorbs {lower upper : Entries} (hlower : (Value.map lower).KeyedByTexts)
    (hupper : (Value.map upper).KeyedByTexts) :
    ∃ merged, merge (.map lower) (.map upper) = .ok merged ∧
      merge merged (.map upper) = .ok merged ∧ merge (.map lower) merged = .ok merged ∧
        merge (.map lower) (.map []) = .ok (.map lower) ∧
          merge (.map []) (.map lower) = .ok (.map lower) ∧
            merge (.map lower) (.map lower) = .ok (.map lower) := by
  have hunder : ∀ u ∈ some (Value.map lower), u.KeyedByTexts := by
    rintro _ ⟨⟩
    exact hlower
  have hagain := laidOver_again hupper hunder
  have hback := laidOver_back hupper hunder
  have hself := laidOver_self hlower
  refine ⟨.map (Entries.merge lower upper), rfl, ?_, ?_, ?_, ?_, ?_⟩
  · exact congrArg Except.ok hagain
  · exact congrArg Except.ok hback
  · rw [merge_maps, Entries.merge_nil]
  · rw [merge_maps, Entries.merge_empty hlower.own]
  · exact congrArg Except.ok hself

theorem merge_absorbs_properties :
    sharedProperties.KeyedByTexts ∧ ownProperties.KeyedByTexts ∧
      ∃ merged, merge sharedProperties ownProperties = .ok merged ∧
        merge merged ownProperties = .ok merged ∧ merge sharedProperties merged = .ok merged := by
  have habsorbs := merge_absorbs keyedByTexts_sharedProperties keyedByTexts_ownProperties
  obtain ⟨merged, hmerged, hagain, hback, -⟩ := habsorbs
  exact ⟨keyedByTexts_sharedProperties, keyedByTexts_ownProperties, merged, hmerged, hagain, hback⟩

end Value

end SchemaSheets
