import SchemaSheets.Proofs.Json.Texts

/-!
# Scalars in JSON

Which values JSON holds as they are, and that its scalars read back from their
texts wherever a value ends.
-/

namespace SchemaSheets.Json

open Text

/-- JSON holds the value as it is: it is made of null, truth values, integers with digits within the
limit, texts, lists, and mappings of distinct texts. -/
inductive Holds : Value → Prop where
  | null : Holds .null
  | bool (b : Bool) : Holds (.bool b)
  | int {n : Int} (short : (Decimal.digitsOf n.natAbs).length ≤ digitLimit) : Holds (.int n)
  | str (s : String) : Holds (.str s)
  | list {vs : List Value} (parts : ∀ v ∈ vs, Holds v) : Holds (.list vs)
  | map {es : Entries} (texts : ∀ e ∈ es, ∃ s, e.1 = .str s) (distinct : es.keys.Nodup)
      (parts : ∀ e ∈ es, Holds e.2) : Holds (.map es)

/-- A value ends here: nothing follows, or what stands behind an item or at the end of a line. -/
def Ends (rest : List Char) : Prop := ∀ c ∈ rest.head?, c ∈ [',', ']', '\x7d', '\n']

theorem ends_nil : Ends [] := by
  rintro c ⟨⟩

variable {n : Nat} {c : Char} {cs rest w : List Char}

/-! ### Numbers -/

theorem not_isDigit_of_ends (h : Ends rest) : ∀ c ∈ rest.head?, isDigit c = false := by
  intro c hc
  have hmem := h c hc
  simp only [List.mem_cons, List.not_mem_nil, or_false] at hmem
  rcases hmem with rfl | rfl | rfl | rfl <;> rfl

theorem takeWhile_digits (hw : ∀ c ∈ w, isDigit c = true) (h : Ends rest) :
    (w ++ rest).takeWhile isDigit = w ∧ (w ++ rest).dropWhile isDigit = rest := by
  have hrest : rest.takeWhile isDigit = [] ∧ rest.dropWhile isDigit = rest := by
    cases rest with
    | nil => exact ⟨rfl, rfl⟩
    | cons c cs =>
      have hc : isDigit c = false := not_isDigit_of_ends h c rfl
      simp [hc]
  rw [List.takeWhile_append_of_pos hw, List.dropWhile_append_of_pos hw, hrest.1, hrest.2]
  exact ⟨List.append_nil w, rfl⟩

theorem wholePart_digitsOf (n : Nat) (h : Ends rest) :
    wholePart (Decimal.digitsOf n ++ rest) = some (Decimal.digitsOf n, rest) := by
  by_cases hn : n = 0
  · rw [hn, digitsOf_zero]
    rfl
  · obtain ⟨c, cs, hcs, hc⟩ := digitsOf_of_pos (Nat.pos_of_ne_zero hn)
    have hdigits : ∀ x ∈ c :: cs, isDigit x = true := by
      intro x hx
      rw [← hcs] at hx
      exact isDigit_of_mem_digitsOf hx
    obtain ⟨hfirst, htail⟩ := List.forall_mem_cons.1 hdigits
    obtain ⟨htake, hdrop⟩ := takeWhile_digits htail h
    rw [hcs, List.cons_append, wholePart]
    · rw [if_pos hfirst, htake, hdrop]
    · exact hc

theorem unsignedNumber_digitsOf (negative : Bool)
    (hshort : (Decimal.digitsOf n).length ≤ digitLimit) (h : Ends rest) :
    unsignedNumber negative (Decimal.digitsOf n ++ rest) =
      some (.ok (.int (if negative then -(n : Int) else n), rest)) := by
  have hfraction : fractionPart rest = ([], rest) := by
    unfold fractionPart
    split
    · have hmem := h '.' rfl
      simp at hmem
    · rfl
  have hexponent : exponentPart rest = (none, rest) := by
    unfold exponentPart
    split
    · rfl
    · rename_i c cs
      have hmem := h c rfl
      simp only [List.mem_cons, List.not_mem_nil, or_false] at hmem
      rcases hmem with rfl | rfl | rfl | rfl <;> rfl
  have hlimit : ¬(Decimal.digitsOf n).length > digitLimit := Nat.not_lt.2 hshort
  simp only [unsignedNumber, wholePart_digitsOf n h, hfraction, hexponent, Option.bind_eq_bind,
    Option.bind_some, List.isEmpty_nil, Option.isNone_none, Bool.and_self, if_true, if_neg hlimit,
    decimalValue_digitsOf]
  rfl

/-- The digits of a number as a first one and the ones behind it. -/
theorem digitsOf_cons (n : Nat) : ∃ c cs, Decimal.digitsOf n = c :: cs ∧ isDigit c = true := by
  cases hcs : Decimal.digitsOf n with
  | nil => exact absurd hcs Nat.toDigits_ne_nil
  | cons c cs =>
    have hmem : c ∈ Decimal.digitsOf n := by
      rw [hcs]
      exact .head _
    exact ⟨c, cs, rfl, isDigit_of_mem_digitsOf hmem⟩

theorem ne_of_digit {x : Char} (hc : isDigit c = true) (hx : isDigit x = false) : x ≠ c := by
  intro he
  rw [he, hc] at hx
  cases hx

/-- No word starts with a digit, nor with a minus sign and a digit. -/
theorem word?_of_digit (cs : List Char) (hc : isDigit c = true) :
    word? (c :: cs) = none ∧ word? ('-' :: c :: cs) = none := by
  have hn : 'n' ≠ c := ne_of_digit hc rfl
  have ht : 't' ≠ c := ne_of_digit hc rfl
  have hf : 'f' ≠ c := ne_of_digit hc rfl
  have hN : 'N' ≠ c := ne_of_digit hc rfl
  have hI : 'I' ≠ c := ne_of_digit hc rfl
  have hminus : '-' ≠ c := ne_of_digit hc rfl
  constructor
  · simp [word?, words, afterWord?, hn, ht, hf, hN, hI, hminus]
  · simp [word?, words, afterWord?, hI]

theorem plainValue_intText (n : Int)
    (hshort : (Decimal.digitsOf n.natAbs).length ≤ digitLimit) (h : Ends rest) :
    plainValue noHalves ((Decimal.intText n).toList ++ rest) = .ok (.int n, rest) := by
  obtain ⟨c, cs, hcs, hc⟩ := digitsOf_cons n.natAbs
  obtain ⟨hword, hword'⟩ := word?_of_digit (cs ++ rest) hc
  by_cases hn : n < 0
  · have htext : (Decimal.intText n).toList = '-' :: Decimal.digitsOf n.natAbs := by
      simp [Decimal.intText, hn]
    have hvalue : -(n.natAbs : Int) = n := by omega
    have hnumber : number ('-' :: c :: cs ++ rest) = some (.ok (.int n, rest)) := by
      have hunsigned := unsignedNumber_digitsOf true hshort h
      rw [if_pos rfl, hvalue, hcs] at hunsigned
      exact hunsigned
    rw [htext, hcs, plainValue]
    · simp only [List.cons_append] at hnumber ⊢
      rw [hword', hnumber]
      rfl
    · intro tail htail
      cases htail
  · have htext : (Decimal.intText n).toList = Decimal.digitsOf n.natAbs := by
      simp [Decimal.intText, hn]
    have hvalue : (n.natAbs : Int) = n := by omega
    have hnumber : number (c :: cs ++ rest) = some (.ok (.int n, rest)) := by
      have hunsigned := unsignedNumber_digitsOf false hshort h
      rw [if_neg Bool.false_ne_true, hvalue, hcs] at hunsigned
      rw [List.cons_append] at hunsigned ⊢
      rw [number]
      · exact hunsigned
      · intro tail htail
        cases htail
        cases hc
    rw [htext, hcs, plainValue]
    · rw [List.cons_append, hword, ← List.cons_append, hnumber]
      rfl
    · intro tail htail
      cases htail
      cases hc

/-! ### Scalars -/

/-- The text of a value starts neither with a blank nor with a closing bracket. -/
def Starts (w : List Char) : Prop :=
  ∃ c cs, w = c :: cs ∧ isSpace c = false ∧ c ≠ ']' ∧ c ≠ '\x7d'

theorem not_opening_of_digit (hc : isDigit c = true) :
    isSpace c = false ∧ c ≠ ']' ∧ c ≠ '\x7d' ∧ c ≠ '[' ∧ c ≠ '\x7b' := by
  have hblank : c ≠ ' ' := (ne_of_digit hc rfl).symm
  have htab : c ≠ '\t' := (ne_of_digit hc rfl).symm
  have hline : c ≠ '\n' := (ne_of_digit hc rfl).symm
  have hreturn : c ≠ '\r' := (ne_of_digit hc rfl).symm
  refine ⟨?_, (ne_of_digit hc rfl).symm, (ne_of_digit hc rfl).symm, (ne_of_digit hc rfl).symm,
    (ne_of_digit hc rfl).symm⟩
  simp [isSpace, hblank, htab, hline, hreturn]

/-- The text of a scalar starts with no bracket, and reads back as the scalar. -/
theorem scalarText_reads {s : Scalar} (hs : Holds (.scalar s)) (h : Ends rest) :
    plainValue noHalves (scalarText s ++ rest) = .ok (.scalar s, rest) ∧
      ∃ c cs, scalarText s = c :: cs ∧
        isSpace c = false ∧ c ≠ ']' ∧ c ≠ '\x7d' ∧ c ≠ '[' ∧ c ≠ '\x7b' := by
  cases hs with
  | null => exact ⟨rfl, 'n', _, rfl, by decide⟩
  | bool b =>
    cases b with
    | true => exact ⟨rfl, 't', _, rfl, by decide⟩
    | false => exact ⟨rfl, 'f', _, rfl, by decide⟩
  | int short =>
    rename_i n
    refine ⟨plainValue_intText n short h, ?_⟩
    obtain ⟨c, cs, hcs, hc⟩ := digitsOf_cons n.natAbs
    by_cases hn : n < 0
    · exact ⟨'-', Decimal.digitsOf n.natAbs, by simp [scalarText, Decimal.intText, hn], by decide⟩
    · exact ⟨c, cs, by simp [scalarText, Decimal.intText, hn, hcs], not_opening_of_digit hc⟩
  | str s =>
    refine ⟨?_, '"', _, rfl, by decide⟩
    show plainValue noHalves (quoted s ++ rest) = _
    rw [quoted_append, plainValue, textBody_quoted, ← ofCodes_toList]
    rfl

end SchemaSheets.Json
