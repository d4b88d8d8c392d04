import SchemaSheets.Words

/-!
# Passes over an identifier

The passes that break an identifier into words are replacements, made from left
to right and one after the other.  The first two put a blank into every case
boundary: nothing is missed by searching on behind a match, because no match
begins inside another, and the blanks of the first pass neither make a match of
the second nor hide one.  The third leaves one blank for each run of other
characters, and what stands between the blanks are the words.
-/

namespace SchemaSheets.Words

variable {c : Char} {cs rest : List Char} {test : List Char → Bool} {n : Nat}

/-! ### Character classes -/

theorem not_isUpper (h : (isLower c || Text.isDigit c) = true) : isUpper c = false := by
  rw [Bool.or_eq_true, isLower_iff, Text.isDigit_iff] at h
  rw [Bool.eq_false_iff, Ne, isUpper_iff]
  omega

theorem not_isLower (h : isUpper c = true) : isLower c = false := by
  rw [isUpper_iff] at h
  rw [Bool.eq_false_iff, Ne, isLower_iff]
  omega

theorem not_isDigit (h : isUpper c = true) : Text.isDigit c = false := by
  rw [isUpper_iff] at h
  rw [Bool.eq_false_iff, Ne, Text.isDigit_iff]
  omega

theorem not_isWordChar_iff :
    isWordChar c = false ↔ isUpper c = false ∧ isLower c = false ∧ Text.isDigit c = false := by
  simp [isWordChar, and_assoc]

theorem not_isWordChar_blank : isWordChar ' ' = false := by decide

/-! ### Case boundaries -/

/-- A lower-case letter or a digit, and then an upper-case letter. -/
def startsCapital : List Char → Bool
  | a :: b :: _ => (isLower a || Text.isDigit a) && isUpper b
  | _ => false

/-- Two upper-case letters, and then a lower-case one. -/
def endsAcronym : List Char → Bool
  | a :: b :: c :: _ => isUpper a && isUpper b && isLower c
  | _ => false

/-- A word ends behind the first character. -/
def isBoundary (cs : List Char) : Bool := startsCapital cs || endsAcronym cs

theorem endsAcronym_eq_false (h : isUpper c = false) (cs : List Char) :
    endsAcronym (c :: cs) = false := by
  rcases cs with _ | ⟨x, _ | ⟨y, cs⟩⟩ <;> simp [endsAcronym, h]

theorem endsAcronym_eq_false_of_next (h : isUpper c = false) (a : Char) (cs : List Char) :
    endsAcronym (a :: c :: cs) = false := by
  cases cs <;> simp [endsAcronym, h]

/-- A word ends before an upper-case letter only. -/
theorem isBoundary_eq_false_of_next (h : isUpper c = false) (a : Char) (cs : List Char) :
    isBoundary (a :: c :: cs) = false := by
  rw [isBoundary, endsAcronym_eq_false_of_next h]
  simp [startsCapital, h]

theorem isBoundary_singleton (a : Char) : isBoundary [a] = false := rfl

theorem isBoundary_gap (h : isWordChar c = false) (cs : List Char) :
    isBoundary (c :: cs) = false := by
  obtain ⟨hupper, hlower, hdigit⟩ := not_isWordChar_iff.1 h
  rw [isBoundary, endsAcronym_eq_false hupper]
  cases cs <;> simp [startsCapital, hlower, hdigit]

/-- What belongs to no word ends a text as well as its end does. -/
theorem isBoundary_append_gap (h : isWordChar c = false) (a : Char) (cs rest : List Char) :
    isBoundary (a :: (cs ++ c :: rest)) = isBoundary (a :: cs) := by
  obtain ⟨hupper, hlower, -⟩ := not_isWordChar_iff.1 h
  rcases cs with _ | ⟨x, _ | ⟨y, cs⟩⟩
  · exact isBoundary_eq_false_of_next hupper a rest
  · simp [isBoundary, startsCapital, endsAcronym, hlower]
  · rfl

theorem isBoundary_of_prefix (h : cs <+: rest) (hb : isBoundary cs = true) :
    isBoundary rest = true := by
  obtain ⟨more, rfl⟩ := h
  rcases cs with _ | ⟨x, _ | ⟨y, _ | ⟨z, cs⟩⟩⟩
  · cases hb
  · cases hb
  · have hcapital : startsCapital [x, y] = true := by simpa [isBoundary, endsAcronym] using hb
    exact Bool.or_eq_true_iff.2 (.inl hcapital)
  · exact hb

/-! ### Blanks behind characters -/

/-- A blank behind each character at which the test holds of the text from there on. -/
def blankBehind (test : List Char → Bool) : List Char → List Char
  | [] => []
  | a :: cs =>
    if test (a :: cs) then a :: ' ' :: blankBehind test cs else a :: blankBehind test cs

theorem blankBehind_cons (test : List Char → Bool) (a : Char) (cs : List Char) :
    blankBehind test (a :: cs) =
      a :: (if test (a :: cs) then ' ' :: blankBehind test cs else blankBehind test cs) := by
  rw [blankBehind]
  split <;> rfl

theorem breakCase_eq (cs : List Char) : breakCase cs = blankBehind startsCapital cs := by
  fun_induction breakCase cs with
  | case1 => rfl
  | case2 a => rfl
  | case3 a b rest h ih => rw [ih, blankBehind_cons _ a, startsCapital, if_pos h]
  | case4 a b rest h ih => rw [ih, blankBehind_cons _ a, startsCapital, if_neg h]

theorem breakAcronym_eq (cs : List Char) : breakAcronym cs = blankBehind endsAcronym cs := by
  fun_induction breakAcronym cs with
  | case1 a b c rest h ih => rw [ih, blankBehind_cons _ a, endsAcronym, if_pos h]
  | case2 a b c rest h ih => rw [ih, blankBehind_cons _ a, endsAcronym, if_neg h]
  | case3 cs h =>
    rcases cs with _ | ⟨x, _ | ⟨y, _ | ⟨z, cs⟩⟩⟩
    · rfl
    · rfl
    · rfl
    · exact absurd rfl (h x y z cs)

/-- The blanks before capitals neither make the end of an acronym nor hide one. -/
theorem endsAcronym_blankBehind (a : Char) (cs : List Char) :
    endsAcronym (a :: blankBehind startsCapital cs) = endsAcronym (a :: cs) := by
  rcases cs with _ | ⟨b, _ | ⟨c, rest⟩⟩
  · rfl
  · rfl
  · rw [blankBehind_cons]
    split
    next h =>
      have hb : isUpper b = false := by
        simp only [startsCapital, Bool.and_eq_true] at h
        exact not_isUpper h.1
      rw [endsAcronym_eq_false_of_next hb, endsAcronym_eq_false_of_next hb]
    next => rw [blankBehind_cons, endsAcronym, endsAcronym]

theorem breakAcronym_breakCase (cs : List Char) :
    breakAcronym (breakCase cs) = blankBehind isBoundary cs := by
  rw [breakCase_eq, breakAcronym_eq]
  induction cs with
  | nil => rfl
  | cons a cs ih =>
    rw [blankBehind_cons startsCapital, blankBehind_cons isBoundary, isBoundary]
    cases h : startsCapital (a :: cs) with
    | false =>
      simp only [Bool.false_eq_true, if_false, Bool.false_or]
      rw [blankBehind_cons, endsAcronym_blankBehind, ih]
    | true =>
      have hblank : isUpper ' ' = false := by decide
      have hbefore := endsAcronym_eq_false_of_next hblank a
      have hbehind := endsAcronym_eq_false hblank
      simp only [if_true, Bool.true_or, blankBehind_cons endsAcronym, hbefore, hbehind,
        Bool.false_eq_true, if_false, ih]

/-! ### Replacements -/

/-- What a pattern finds at the front of a text: how many characters match, and the text in their
place. -/
abbrev Pattern := List Char → Option (Nat × List Char)

/-- Every match replaced, from left to right.  The search goes on behind each match, whose last
`left` characters are still to be passed over. -/
def replaceFrom (pattern : Pattern) : (left : Nat) → List Char → List Char
  | _, [] => []
  | left + 1, _ :: cs => replaceFrom pattern left cs
  | 0, c :: cs =>
    match pattern (c :: cs) with
    | some (length, text) => text ++ replaceFrom pattern (length - 1) cs
    | none => c :: replaceFrom pattern 0 cs

def replaceAll (pattern : Pattern) (cs : List Char) : List Char := replaceFrom pattern 0 cs

/-- A character and `more` after it, where the test holds; a blank is put behind the first. -/
def parted (more : Nat) (test : List Char → Bool) : Pattern
  | [] => none
  | a :: cs => if test (a :: cs) then some (more + 1, a :: ' ' :: cs.take more) else none

/-- A run of characters that belong to no word, in whose place one blank is put. -/
def gap : Pattern := fun cs =>
  match (cs.takeWhile (!isWordChar ·)).length with
  | 0 => none
  | more + 1 => some (more + 1, [' '])

/-- A text after the three replacements, one after the other. -/
def replaced (cs : List Char) : List Char :=
  replaceAll gap (replaceAll (parted 2 endsAcronym) (replaceAll (parted 1 startsCapital) cs))

theorem replaceFrom_eq (pattern : Pattern) (left : Nat) (cs : List Char) :
    replaceFrom pattern left cs = replaceAll pattern (cs.drop left) := by
  induction left generalizing cs with
  | zero => rfl
  | succ left ih =>
    cases cs with
    | nil => rfl
    | cons c cs => exact ih cs

theorem blankBehind_skip (h : ∀ k < n, test (cs.drop k) = false) :
    blankBehind test cs = cs.take n ++ blankBehind test (cs.drop n) := by
  induction n generalizing cs with
  | zero => rfl
  | succ n ih =>
    cases cs with
    | nil => rfl
    | cons c cs =>
      have hhere : test (c :: cs) = false := h 0 n.succ_pos
      have hthere : ∀ k < n, test (cs.drop k) = false := fun k hk => h (k + 1) (Nat.succ_lt_succ hk)
      rw [blankBehind_cons, hhere, ih hthere]
      rfl

/-- Where no match begins inside a match, nothing is missed by searching on behind each match. -/
theorem replaceAll_parted {more : Nat}
    (h : ∀ a cs, test (a :: cs) = true → ∀ k < more, test (cs.drop k) = false) (cs : List Char) :
    replaceAll (parted more test) cs = blankBehind test cs := by
  induction hn : cs.length using Nat.strongRecOn generalizing cs with
  | ind length ih =>
    cases cs with
    | nil => rfl
    | cons a cs =>
      have hlt : cs.length < length := by simp [← hn]
      rw [blankBehind_cons, replaceAll, replaceFrom, parted]
      cases htest : test (a :: cs) with
      | false => exact congrArg (a :: ·) (ih _ hlt cs rfl)
      | true =>
        have hdrop : (cs.drop more).length < length := by
          rw [List.length_drop]
          omega
        have hrest := ih _ hdrop (cs.drop more) rfl
        rw [blankBehind_skip (h a cs htest)]
        simp only [if_true, Nat.add_sub_cancel, replaceFrom_eq, hrest, List.cons_append]

theorem replaceAll_startsCapital (cs : List Char) :
    replaceAll (parted 1 startsCapital) cs = breakCase cs := by
  rw [breakCase_eq]
  refine replaceAll_parted (fun a cs h k hk => ?_) cs
  have hk : k = 0 := by omega
  subst hk
  rcases cs with _ | ⟨b, _ | ⟨c, cs⟩⟩
  · rfl
  · rfl
  · have hb : isUpper b = true := by simp_all [startsCapital]
    simp [startsCapital, not_isLower hb, not_isDigit hb]

theorem replaceAll_endsAcronym (cs : List Char) :
    replaceAll (parted 2 endsAcronym) cs = breakAcronym cs := by
  rw [breakAcronym_eq]
  refine replaceAll_parted (fun a cs h k hk => ?_) cs
  rcases cs with _ | ⟨b, _ | ⟨c, cs⟩⟩
  · cases h
  · cases h
  · have hc : isUpper c = false := by
      simp only [endsAcronym, Bool.and_eq_true] at h
      exact not_isUpper (by simp [h.2])
    have hk : k = 0 ∨ k = 1 := by omega
    rcases hk with rfl | rfl
    · exact endsAcronym_eq_false_of_next hc b cs
    · exact endsAcronym_eq_false hc cs

/-! ### Pieces -/

theorem pieces_cons_of_ne (h : c ≠ ' ') (piece cs : List Char) :
    pieces piece (c :: cs) = pieces (c :: piece) cs := by
  rw [pieces, if_neg (by simpa using h)]

theorem pieces_blank (piece cs : List Char) :
    pieces piece (' ' :: cs) = pieces piece [] ++ pieces [] cs := by
  cases piece <;> rfl

theorem pieces_append_blank (piece cs rest : List Char) :
    pieces piece (cs ++ ' ' :: rest) = pieces piece cs ++ pieces [] rest := by
  induction cs generalizing piece with
  | nil => exact pieces_blank piece rest
  | cons c cs ih =>
    by_cases h : c = ' '
    · subst h
      rw [List.cons_append, pieces_blank, pieces_blank, ih, List.append_assoc]
    · rw [List.cons_append, pieces_cons_of_ne h, pieces_cons_of_ne h, ih]

theorem ne_blank (h : isWordChar c = true) : c ≠ ' ' := by
  rintro rfl
  rw [not_isWordChar_blank] at h
  contradiction

/-- One blank for a run is as good as one for each of its characters. -/
theorem pieces_replaceAll_gap (cs : List Char) :
    (∀ piece, pieces piece (replaceAll gap cs) = pieces piece (blankOut cs)) ∧
      pieces [] (replaceFrom gap (cs.takeWhile (!isWordChar ·)).length cs) =
        pieces [] (blankOut cs) := by
  induction cs with
  | nil => exact ⟨fun _ => rfl, rfl⟩
  | cons c cs ih =>
    obtain ⟨ihere, ibehind⟩ := ih
    cases h : isWordChar c with
    | true =>
      have hgap : gap (c :: cs) = none := by simp [gap, h]
      have hall : replaceAll gap (c :: cs) = c :: replaceAll gap cs := by
        rw [replaceAll, replaceFrom, hgap]
        rfl
      have hout : blankOut (c :: cs) = c :: blankOut cs := by simp [blankOut, h]
      have hhere : ∀ piece, pieces piece (replaceAll gap (c :: cs)) =
          pieces piece (blankOut (c :: cs)) := by
        intro piece
        rw [hall, hout, pieces_cons_of_ne (ne_blank h), pieces_cons_of_ne (ne_blank h), ihere]
      refine ⟨hhere, ?_⟩
      rw [List.takeWhile_cons_of_neg (by simp [h])]
      exact hhere []
    | false =>
      have hgap : gap (c :: cs) =
          some ((cs.takeWhile (!isWordChar ·)).length + 1, [' ']) := by simp [gap, h]
      have hout : blankOut (c :: cs) = ' ' :: blankOut cs := by simp [blankOut, h]
      constructor
      · intro piece
        rw [replaceAll, replaceFrom, hgap, hout]
        simp only [List.singleton_append, Nat.add_sub_cancel, pieces_blank, ibehind]
      · rw [List.takeWhile_cons_of_pos (by simp [h]), hout, pieces_blank, List.length_cons,
          replaceFrom, ibehind]
        rfl

theorem split_eq_replaced (cs : List Char) : split cs = pieces [] (replaced cs) := by
  rw [split, replaced, replaceAll_startsCapital, replaceAll_endsAcronym,
    (pieces_replaceAll_gap _).1]

end SchemaSheets.Words
