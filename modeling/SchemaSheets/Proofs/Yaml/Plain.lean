import SchemaSheets.Proofs.Yaml.Cursor
import SchemaSheets.Yaml.Scalar

/-!
# Reading plain texts

A plain text outside of flow collections goes on over the parts of its line, with single blanks
between them, and ends before a colon that a gap follows or a line that is not indented enough.
-/

namespace SchemaSheets.Yaml

variable {xs rest : List Char} {x : Char} {i l c n fuel : Nat}

/-- A character that a token starts with. -/
structure StartsToken (x : Char) : Prop where
  filled : isGap (some x) = false
  no_comment : x ≠ '#'

/-! ### Parts -/

/-- Characters that go on a plain text, given what follows them: no gap, and no colon before one. -/
structure IsRun (xs rest : List Char) : Prop where
  ne_nil : xs ≠ []
  filled : ∀ x ∈ xs, isGap (some x) = false
  colon : xs.getLast? = some ':' → isGap rest.head? = false
  no_comment : xs.head? ≠ some '#'
  ends : ∀ x ∈ rest.head?, endsPlain false x rest.tail.head? = true

theorem plainRun_append (hfilled : ∀ x ∈ xs, isGap (some x) = false)
    (hcolon : xs.getLast? = some ':' → isGap rest.head? = false)
    (hends : ∀ x ∈ rest.head?, endsPlain false x rest.tail.head? = true) :
    plainRun false (xs ++ rest) = xs := by
  induction xs with
  | nil =>
    cases rest with
    | nil => rfl
    | cons x rest => exact if_pos (hends x rfl)
  | cons x xs ih =>
    have hx := hfilled x List.mem_cons_self
    have hxs : ∀ y ∈ xs, isGap (some y) = false :=
      fun y hy => hfilled y (List.mem_cons_of_mem _ hy)
    have hgoes : endsPlain false x (xs ++ rest).head? = false := by
      cases xs with
      | nil =>
        by_cases hc : x = ':'
        · simpa [endsPlain, hx] using fun _ => hcolon (by rw [hc]; rfl)
        · simp [endsPlain, hx, hc]
      | cons y xs => simp [endsPlain, hx, hxs y List.mem_cons_self]
    rw [List.cons_append, plainRun, hgoes]
    rw [if_neg (by decide), ih hxs]
    intro hlast
    apply hcolon
    cases xs with
    | nil => cases hlast
    | cons y xs => exact hlast

theorem isRun_of_gap (hne : xs ≠ []) (hfilled : ∀ x ∈ xs, isGap (some x) = false)
    (hcolon : xs.getLast? ≠ some ':') (hcomment : xs.head? ≠ some '#')
    (hx : isGap (some x) = true) (rest : List Char) : IsRun xs (x :: rest) where
  ne_nil := hne
  filled := hfilled
  colon h := absurd h hcolon
  no_comment := hcomment
  ends := by
    rintro y ⟨⟩
    simp [endsPlain, hx]

theorem IsRun.plainRun (h : IsRun xs rest) :
    (if Cursor.isAt ⟨xs ++ rest, i, l, c⟩ '#' then [] else Yaml.plainRun false (xs ++ rest)) =
      xs := by
  have hhead : (xs ++ rest).head? = xs.head? := by
    cases xs with
    | nil => exact absurd rfl h.ne_nil
    | cons x xs => rfl
  have hhash : Cursor.isAt ⟨xs ++ rest, i, l, c⟩ '#' = false := by
    rw [Cursor.isAt, Cursor.peek, hhead]
    exact beq_eq_false_iff_ne.2 h.no_comment
  rw [hhash, if_neg (by decide), plainRun_append h.filled h.colon h.ends]

theorem IsRun.inLine (h : IsRun xs rest) : ∀ x ∈ xs, isLineEnd (some x) = false :=
  fun x hx => isLineEnd_of_isGap (h.filled x hx)

/-- One part of a plain text is read, and then what is between it and the next. -/
theorem plainBody_run (h : IsRun xs rest) {k : Int} {ended : Bool} {read spaces : List Char}
    {i' c' : Nat} (hskip : Cursor.skip ⟨xs ++ rest, i, l, c⟩ xs.length = ⟨rest, i', l, c'⟩) :
    plainBody false k (fuel + 1) ended read spaces ⟨xs ++ rest, i, l, c⟩ =
      match plainSpaces (fuel + 1) ⟨rest, i', l, c'⟩ with
      | (between, cursor) =>
        match between.text with
        | none => ((read ++ spaces ++ xs, between.lineEnded), cursor)
        | some spaces' =>
          if cursor.isAt '#' || (cursor.column : Int) < k then
            ((read ++ spaces ++ xs, between.lineEnded), cursor)
          else plainBody false k fuel between.lineEnded (read ++ spaces ++ xs) spaces' cursor := by
  rw [plainBody]
  simp only [h.plainRun, List.isEmpty_iff, if_neg h.ne_nil, hskip]
  rfl

/-- A colon before a gap ends a plain text. -/
theorem plainText_colon (h : IsRun xs (':' :: rest)) {parent : Int} {i' c' : Nat}
    (hskip : Cursor.skip ⟨xs ++ ':' :: rest, i, l, c⟩ xs.length = ⟨':' :: rest, i', l, c'⟩) :
    plainText false parent ⟨xs ++ ':' :: rest, i, l, c⟩ =
      ((xs, false), ⟨':' :: rest, i', l, c'⟩) := by
  have hspaces : plainSpaces ((xs ++ ':' :: rest).length + 1) ⟨':' :: rest, i', l, c'⟩ =
      (⟨none, false⟩, ⟨':' :: rest, i', l, c'⟩) := rfl
  rw [plainText, plainBody_run h hskip]
  simp only [hspaces, List.nil_append]

/-! ### Lines -/

/-- A line of a plain text: parts with a blank between any two. -/
inductive IsLine : List Char → Prop where
  | part {xs : List Char} (hne : xs ≠ []) (hfilled : ∀ x ∈ xs, isGap (some x) = false)
      (hcolon : xs.getLast? ≠ some ':') (hcomment : xs.head? ≠ some '#') : IsLine xs
  | more {xs ys : List Char} (hne : xs ≠ []) (hfilled : ∀ x ∈ xs, isGap (some x) = false)
      (hcolon : xs.getLast? ≠ some ':') (hcomment : xs.head? ≠ some '#') (h : IsLine ys) :
      IsLine (xs ++ ' ' :: ys)

theorem IsLine.exists_head (h : IsLine xs) : ∃ x ys, xs = x :: ys ∧ StartsToken x := by
  have hhead : ∀ ys : List Char, ys ≠ [] → (∀ x ∈ ys, isGap (some x) = false) →
      ys.head? ≠ some '#' → ∃ x zs, ys = x :: zs ∧ StartsToken x := by
    intro ys hne hfilled hcomment
    cases ys with
    | nil => exact absurd rfl hne
    | cons x zs =>
      refine ⟨x, zs, rfl, hfilled x List.mem_cons_self, ?_⟩
      rintro rfl
      exact hcomment rfl
  cases h with
  | part hne hfilled _ hcomment => exact hhead xs hne hfilled hcomment
  | more hne hfilled _ hcomment _ =>
    obtain ⟨x, zs, rfl, hx⟩ := hhead _ hne hfilled hcomment
    exact ⟨x, _, rfl, hx⟩

/-- Behind the end of a line, and the blanks before what stands on the next. -/
theorem plainBreaks_blanks (hx : StartsToken x) (hfuel : n < fuel) (i c : Nat) (read : List Char) :
    plainBreaks fuel read ⟨List.replicate n ' ' ++ x :: rest, i, l, c⟩ =
      (some read, ⟨x :: rest, i + n, l, c + n⟩) := by
  induction n generalizing fuel i c with
  | zero =>
    obtain ⟨fuel, rfl⟩ : ∃ m, fuel = m + 1 := ⟨fuel - 1, by omega⟩
    have hblank : Cursor.isAt ⟨x :: rest, i, l, c⟩ ' ' = false := by
      simpa [Cursor.isAt, Cursor.peek] using ne_blank_of_isGap hx.filled
    rw [List.replicate_zero, List.nil_append, plainBreaks, hblank]
    simp only [Cursor.lineEnd?_eq_none (isLineEnd_of_isGap hx.filled)]
    rfl
  | succ n ih =>
    obtain ⟨fuel, rfl⟩ : ∃ m, fuel = m + 1 := ⟨fuel - 1, by omega⟩
    have hindex : i + 1 + n = i + (n + 1) := by omega
    have hcolumn : c + 1 + n = c + (n + 1) := by omega
    have hfuel' : n < fuel := by omega
    rw [← hindex, ← hcolumn, ← ih hfuel' (i + 1) (c + 1)]
    rfl

theorem plainSpaces_newline (hx : StartsToken x) (hfuel : n + 1 < fuel) :
    plainSpaces fuel ⟨'\n' :: (List.replicate (n + 1) ' ' ++ x :: rest), i, l, c⟩ =
      (⟨some [' '], true⟩, ⟨x :: rest, i + 1 + (n + 1), l + 1, n + 1⟩) := by
  have htake : Cursor.takeWhile ⟨'\n' :: (List.replicate (n + 1) ' ' ++ x :: rest), i, l, c⟩
      (· == ' ') = ([], ⟨'\n' :: (List.replicate (n + 1) ' ' ++ x :: rest), i, l, c⟩) := rfl
  have hend : Cursor.lineEnd? ⟨'\n' :: (List.replicate (n + 1) ' ' ++ x :: rest), i, l, c⟩ =
      some ('\n', ⟨List.replicate (n + 1) ' ' ++ x :: rest, i + 1, l + 1, 0⟩) := rfl
  have hmark : Cursor.atDocumentMark
      ⟨List.replicate (n + 1) ' ' ++ x :: rest, i + 1, l + 1, 0⟩ = false := rfl
  have hbreaks : plainBreaks fuel [] ⟨List.replicate (n + 1) ' ' ++ x :: rest, i + 1, l + 1, 0⟩ =
      (some [], ⟨x :: rest, i + 1 + (n + 1), l + 1, 0 + (n + 1)⟩) :=
    plainBreaks_blanks hx hfuel (i + 1) 0 []
  rw [Nat.zero_add] at hbreaks
  rw [plainSpaces, htake]
  simp only [hend, hmark, hbreaks]
  rfl

theorem plainSpaces_blank (hx : StartsToken x) :
    plainSpaces fuel ⟨' ' :: x :: rest, i, l, c⟩ =
      (⟨some [' '], false⟩, ⟨x :: rest, i + 1, l, c + 1⟩) := by
  have hblank : (x == ' ') = false := beq_eq_false_iff_ne.2 (ne_blank_of_isGap hx.filled)
  have htake : Cursor.takeWhile ⟨' ' :: x :: rest, i, l, c⟩ (· == ' ') =
      ([' '], ⟨x :: rest, i + 1, l, c + 1⟩) := by
    simp [Cursor.takeWhile, List.takeWhile, hblank]
    rfl
  rw [plainSpaces, htake]
  simp only [Cursor.lineEnd?_eq_none (isLineEnd_of_isGap hx.filled)]
  rfl

/-- A line of a plain text is read up to a line that does not go on with it. -/
theorem plainBody_line {k : Int} (hxs : IsLine xs) (hx : StartsToken x)
    (hcolumn : ((n + 1 : Nat) : Int) < k) (hstart : k ≤ c) (hfuel : xs.length + n < fuel)
    (ended : Bool) (read spaces : List Char) (i : Nat) :
    ∃ i', plainBody false k fuel ended read spaces
        ⟨xs ++ '\n' :: (List.replicate (n + 1) ' ' ++ x :: rest), i, l, c⟩ =
      ((read ++ spaces ++ xs, true), ⟨x :: rest, i', l + 1, n + 1⟩) := by
  obtain ⟨fuel, rfl⟩ : ∃ m, fuel = m + 1 := ⟨fuel - 1, by omega⟩
  -- along the parts of the line; each but the last goes on behind its blank
  induction hxs generalizing fuel ended read spaces i c with
  | @part xs hne hfilled hcolon hcomment =>
    have hgap : isGap (some '\n') = true := rfl
    have hrun := isRun_of_gap hne hfilled hcolon hcomment hgap
      (List.replicate (n + 1) ' ' ++ x :: rest)
    obtain ⟨c', -, hskip⟩ := Cursor.skip_line hrun.inLine
      ('\n' :: (List.replicate (n + 1) ' ' ++ x :: rest)) i l c
    have hends : (Cursor.isAt ⟨x :: rest, i + xs.length + 1 + (n + 1), l + 1, n + 1⟩ '#' ||
        decide (((n + 1 : Nat) : Int) < k)) = true := by
      rw [decide_eq_true hcolumn, Bool.or_true]
    have hlength : 0 < xs.length := List.length_pos_iff.2 hne
    refine ⟨i + xs.length + 1 + (n + 1), ?_⟩
    rw [plainBody_run hrun hskip, plainSpaces_newline hx (by omega)]
    exact if_pos hends
  | @more xs ys hne hfilled hcolon hcomment h ih =>
    obtain ⟨y, zs, rfl, hy⟩ := h.exists_head
    have hgap : isGap (some ' ') = true := rfl
    have hrun := isRun_of_gap hne hfilled hcolon hcomment hgap
      (y :: zs ++ '\n' :: (List.replicate (n + 1) ' ' ++ x :: rest))
    obtain ⟨c', hc', hskip⟩ := Cursor.skip_line hrun.inLine
      (' ' :: (y :: zs ++ '\n' :: (List.replicate (n + 1) ' ' ++ x :: rest))) i l c
    have hgoes : (Cursor.isAt ⟨y :: zs ++ '\n' :: (List.replicate (n + 1) ' ' ++ x :: rest),
        i + xs.length + 1, l, c' + 1⟩ '#' || decide (((c' + 1 : Nat) : Int) < k)) = false := by
      have hcomment : Cursor.isAt ⟨y :: zs ++ '\n' :: (List.replicate (n + 1) ' ' ++ x :: rest),
          i + xs.length + 1, l, c' + 1⟩ '#' = false := by
        simpa [Cursor.isAt, Cursor.peek] using hy.no_comment
      rw [hcomment, Bool.false_or, decide_eq_false_iff_not]
      omega
    have hlength : 0 < xs.length := List.length_pos_iff.2 hne
    rw [List.length_append, List.length_cons] at hfuel
    obtain ⟨m, rfl⟩ : ∃ m, fuel = m + 1 := ⟨fuel - 1, by omega⟩
    obtain ⟨i', hrest⟩ := ih (c := c' + 1) (by omega) false (read ++ spaces ++ xs) [' ']
      (i + xs.length + 1) m (by omega)
    refine ⟨i', ?_⟩
    rw [List.append_assoc, List.cons_append, plainBody_run hrun hskip, List.cons_append,
      plainSpaces_blank hy]
    simp only [List.cons_append] at hgoes hrest
    simp only [hgoes, hrest, Bool.false_eq_true, if_false]
    simp

end SchemaSheets.Yaml
