import SchemaSheets.Proofs.Text.Bounded
import SchemaSheets.Yaml.Plain

/-!
# Plain scalars that are texts

A plain scalar whose first character starts no other form is a text: no number, time, truth value
or null begins with it.
-/

namespace SchemaSheets.Yaml

variable {x : Char} {xs : List Char}

/-- A character that starts no form of a plain scalar but a text. -/
structure StartsText (x : Char) : Prop where
  no_digit : Text.isDigit x = false
  unmarked : x ∉ ['-', '+', '.', ':', '<', '=', '\n']
  no_word : ∀ w ∈ nullWords ++ boolWords.map (·.1), w.toList.head? ≠ some x

namespace StartsText

theorem ne (h : StartsText x) {y : Char} (hy : y ∈ ['-', '+', '.', ':', '<', '=', '\n']) :
    x ≠ y := by
  rintro rfl
  exact h.unmarked hy

theorem ofList_ne {w : String} (hw : w.toList.head? ≠ some x) : String.ofList (x :: xs) ≠ w := by
  rintro rfl
  apply hw
  rw [String.toList_ofList, List.head?_cons]

theorem not_contains {ws : List String} (hws : ∀ w ∈ ws, w.toList.head? ≠ some x) :
    ws.contains (String.ofList (x :: xs)) = false := by
  rw [← Bool.not_eq_true, List.contains_iff_mem]
  intro hmem
  exact ofList_ne (hws _ hmem) rfl

theorem unsigned_eq (h : StartsText x) : unsigned (x :: xs) = x :: xs := by
  have hminus := h.ne (y := '-') (by decide)
  have hplus := h.ne (y := '+') (by decide)
  unfold unsigned
  split
  next heq => exact absurd (List.cons.inj heq).1 hminus
  next heq => exact absurd (List.cons.inj heq).1 hplus
  next => rfl

theorem not_isNumber (h : StartsText x) : isNumber (x :: xs) = false := by
  rw [isNumber, h.no_digit, Bool.false_and]

theorem not_isSexagesimal (h : StartsText x) : isSexagesimal (x :: xs) = false := by
  have hcolon : (x == ':') = false := beq_eq_false_iff_ne.2 (h.ne (by decide))
  unfold isSexagesimal
  rw [List.splitOnP_cons_eq_if_modifyHead, hcolon, if_neg (by decide)]
  cases xs.splitOnP (· == ':') with
  | nil => rfl
  | cons first rest =>
    cases rest with
    | nil => rfl
    | cons second rest =>
      rw [List.modifyHead_cons]
      simp only [h.not_isNumber, Bool.false_and]

theorem not_isFloat (h : StartsText x) : isFloat (x :: xs) = false := by
  have hpoint : x ≠ '.' := h.ne (by decide)
  have hpointed : isPointed (x :: xs) = false := by
    have hwhole : (x :: xs).takeWhile (· != '.') = x :: xs.takeWhile (· != '.') :=
      List.takeWhile_cons_of_pos (bne_iff_ne.2 hpoint)
    unfold isPointed
    rw [h.unsigned_eq]
    dsimp only
    split
    · rfl
    · rw [hwhole, h.not_isNumber, h.not_isSexagesimal, Bool.false_and, Bool.false_and,
        Bool.or_false]
  have hbare : isBarePointed (x :: xs) = false := by
    unfold isBarePointed
    split
    next heq => exact absurd (List.cons.inj heq).1 hpoint
    next => rfl
  have hwords : ∀ ws ∈ [infinityWords, nanWords],
      ws.contains (String.ofList (x :: xs)) = false := by
    have hheads : ∀ ws ∈ [infinityWords, nanWords], ∀ w ∈ ws, w.toList.head? = some '.' := by decide
    intro ws hws
    apply not_contains
    intro w hw
    rw [hheads ws hws w hw]
    exact fun heq => hpoint (Option.some.inj heq).symm
  rw [isFloat, h.unsigned_eq, hpointed, hbare, hwords _ (by decide), hwords _ (by decide)]
  rfl

theorem not_isInt (h : StartsText x) : isInt (x :: xs) = false := by
  have hzero : x ≠ '0' := by
    rintro rfl
    cases h.no_digit
  unfold isInt
  rw [h.unsigned_eq]
  split
  next heq => exact absurd (List.cons.inj heq).1 hzero
  next heq => exact absurd (List.cons.inj heq).1 hzero
  next heq => exact absurd (List.cons.inj heq).1 hzero
  next heq => exact absurd (List.cons.inj heq).1 hzero
  next => rw [h.not_isNumber, h.not_isSexagesimal, Bool.or_false]

theorem not_timeText (h : StartsText x) : timeText? true (x :: xs) = none := by
  have hyear : digitsUpTo 4 4 (x :: xs) = none := by
    simp [digitsUpTo, h.no_digit]
  rw [timeText?, hyear]
  rfl

theorem ofPlain_eq (h : StartsText x) : Form.ofPlain (x :: xs) = .text := by
  have hbool : boolWords.lookup (String.ofList (x :: xs)) = none := by
    rw [List.lookup_eq_none_iff]
    intro e he
    have hword := h.no_word e.1 (List.mem_append_right _ (List.mem_map_of_mem he))
    exact bne_iff_ne.2 (ofList_ne hword)
  have hnull : nullWords.contains (String.ofList (x :: xs)) = false :=
    not_contains fun w hw => h.no_word w (List.mem_append_left _ hw)
  have hmerge : (x :: xs == ['<', '<']) = false := by
    rw [beq_eq_false_iff_ne]
    exact fun heq => h.ne (by decide) (List.cons.inj heq).1
  have hdefault : (x :: xs == ['=']) = false := by
    rw [beq_eq_false_iff_ne]
    exact fun heq => h.ne (by decide) (List.cons.inj heq).1
  unfold Form.ofPlain
  dsimp only
  rw [hbool, h.not_isFloat, h.not_isInt, hmerge, hnull, h.not_timeText, hdefault]
  rfl

/-- With or without a line end behind it. -/
theorem ofText_eq (h : StartsText x) : Form.ofText (x :: xs) = .text := by
  unfold Form.ofText
  split
  next => rfl
  next front hne heq =>
    have hfront : ∃ ys, front.reverse = x :: ys := by
      have hsplit : x :: xs = front.reverse ++ ['\n'] := by
        rw [← List.reverse_cons, ← heq, List.reverse_reverse]
      cases hback : front.reverse with
      | nil =>
        rw [hback] at hsplit
        exact absurd (List.cons.inj hsplit).1 (h.ne (by decide))
      | cons y ys =>
        rw [hback] at hsplit
        exact ⟨ys, by rw [(List.cons.inj hsplit).1]⟩
    obtain ⟨ys, hys⟩ := hfront
    rw [hys, h.ofPlain_eq]
  next => exact h.ofPlain_eq

end StartsText

end SchemaSheets.Yaml
