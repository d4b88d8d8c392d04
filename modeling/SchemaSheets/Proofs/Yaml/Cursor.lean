import SchemaSheets.Proofs.Text.Bounded
import SchemaSheets.Yaml.Cursor

/-!
# Moving through a stream

Where a cursor stands behind a word or at the end of a line.  The index and the line of a place
follow from what was passed; the column does as well, unless byte order marks were among it.
-/

namespace SchemaSheets.Yaml

variable {xs rest : List Char} {x : Char} {i l c : Nat}

theorem isLineEnd_of_isGap (h : isGap (some x) = false) : isLineEnd (some x) = false := by
  simp only [isGap, isLineEnd, Bool.or_eq_false_iff] at h ⊢
  exact ⟨h.1.2, h.2⟩

theorem ne_blank_of_isGap (h : isGap (some x) = false) : x ≠ ' ' := by
  rintro rfl
  cases h

namespace Cursor

theorem next_cons (hend : isLineEnd (some x) = false) (hmark : x ≠ '\uFEFF') :
    next ⟨x :: rest, i, l, c⟩ = ⟨rest, i + 1, l, c + 1⟩ := by
  simp only [isLineEnd, Bool.or_eq_false_iff] at hend
  simp [next, hend, hmark]

/-- Behind characters of one line.  Byte order marks among them take no column. -/
theorem skip_line (h : ∀ x ∈ xs, isLineEnd (some x) = false) (rest : List Char) (i l c : Nat) :
    ∃ column, c ≤ column ∧
      skip ⟨xs ++ rest, i, l, c⟩ xs.length = ⟨rest, i + xs.length, l, column⟩ := by
  induction xs generalizing i c with
  | nil => exact ⟨c, Nat.le_refl c, rfl⟩
  | cons x xs ih =>
    have hx := h x List.mem_cons_self
    have hxs : ∀ y ∈ xs, isLineEnd (some y) = false := fun y hy => h y (List.mem_cons_of_mem _ hy)
    have hlength : i + 1 + xs.length = i + (x :: xs).length := by
      rw [List.length_cons]
      omega
    by_cases hmark : x = '\uFEFF'
    · subst hmark
      obtain ⟨column, hc, hskip⟩ := ih hxs (i + 1) c
      refine ⟨column, hc, ?_⟩
      rw [← hlength, ← hskip]
      rfl
    · obtain ⟨column, hc, hskip⟩ := ih hxs (i + 1) (c + 1)
      refine ⟨column, by omega, ?_⟩
      rw [← hlength, ← hskip, List.length_cons, skip, List.cons_append, next_cons hx hmark]

/-- Behind a word. -/
theorem skip_word (h : ∀ x ∈ xs, isLineEnd (some x) = false ∧ x ≠ '\uFEFF')
    (rest : List Char) (i l c : Nat) :
    skip ⟨xs ++ rest, i, l, c⟩ xs.length = ⟨rest, i + xs.length, l, c + xs.length⟩ := by
  induction xs generalizing i c with
  | nil => rfl
  | cons x xs ih =>
    obtain ⟨hend, hmark⟩ := h x List.mem_cons_self
    have hrest := ih (fun y hy => h y (List.mem_cons_of_mem _ hy)) (i + 1) (c + 1)
    have hindex : i + 1 + xs.length = i + (x :: xs).length := by
      rw [List.length_cons]
      omega
    have hcolumn : c + 1 + xs.length = c + (x :: xs).length := by
      rw [List.length_cons]
      omega
    rw [← hindex, ← hcolumn, ← hrest, List.length_cons, skip, List.cons_append,
      next_cons hend hmark]

theorem takeWhile_append {p : Char → Bool} (h : ∀ x ∈ xs, p x) (hrest : ∀ x ∈ rest.head?, ¬p x) :
    takeWhile ⟨xs ++ rest, i, l, c⟩ p = (xs, skip ⟨xs ++ rest, i, l, c⟩ xs.length) := by
  have htaken : (xs ++ rest).takeWhile p = xs := by
    rw [List.takeWhile_append_of_pos h]
    cases rest with
    | nil => simp
    | cons x rest => simp [hrest x rfl]
  simp only [takeWhile, htaken]

theorem lineEnd?_eq_none (h : isLineEnd (some x) = false) :
    lineEnd? ⟨x :: rest, i, l, c⟩ = none := by
  simp only [isLineEnd, isBreak, Bool.or_eq_false_iff, beq_eq_false_iff_ne] at h
  obtain ⟨hr, ⟨⟨hn, hu⟩, h2⟩, h3⟩ := h
  unfold lineEnd?
  split
  next heq =>
    simp only [List.cons.injEq] at heq
    exact absurd heq.1 hr
  next y rest' _ heq =>
    simp only [List.cons.injEq] at heq
    obtain ⟨rfl, -⟩ := heq
    simp [isBreak, hr, hn, hu, h2, h3]
  next => rfl

theorem length_next (c : Cursor) : c.next.rest.length = c.rest.length - 1 := by
  unfold next
  split
  next h => rw [h, List.length_nil]
  next x rest h =>
    rw [h, List.length_cons, Nat.add_sub_cancel]
    split
    · rfl
    · split <;> rfl

theorem length_skip (c : Cursor) (n : Nat) : (c.skip n).rest.length = c.rest.length - n := by
  induction n generalizing c with
  | zero => rfl
  | succ n ih =>
    rw [skip, ih, length_next]
    omega

theorem length_lineEnd? {c c' : Cursor} {b : Char} (h : c.lineEnd? = some (b, c')) :
    c'.rest.length < c.rest.length := by
  have hshorter : ∀ n, 0 < n → c.rest ≠ [] → (c.skip n).rest.length < c.rest.length := by
    intro n hn hne
    have hpos := List.length_pos_iff.2 hne
    rw [length_skip]
    omega
  unfold lineEnd? at h
  split at h
  next rest heq =>
    cases h
    exact hshorter 2 (by omega) (by simp [heq])
  next x rest hcr heq =>
    have hone := hshorter 1 (by omega) (by simp [heq])
    split at h
    · cases h
      exact hone
    · split at h
      · cases h
        exact hone
      · cases h
  next => cases h

end Cursor

end SchemaSheets.Yaml
