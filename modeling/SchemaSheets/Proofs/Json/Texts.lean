import SchemaSheets.Json.Printer
import SchemaSheets.Json.Reader
import SchemaSheets.Proofs.Text.Digits

/-!
# Texts in JSON

A text in quotes reads back as the text, and is written in ASCII alone.
-/

namespace SchemaSheets.Json

open Text

variable {opening n m : Nat} {read : List Nat} {rest : List Char} {a b c d e f g h next x y : Char}

/-! ### The reader on each kind of escape -/

theorem textBody_quote :
    textBody noHalves opening read ('"' :: rest) = .ok (read.reverse, rest) := by
  rw [textBody]

theorem textBody_plain (hquote : x ≠ '"') (hback : x ≠ '\\') (hcode : 0x20 ≤ x.toNat) :
    textBody noHalves opening read (x :: rest) = textBody noHalves opening (x.toNat :: read) rest := by
  rw [textBody]
  · exact if_neg (Nat.not_lt.2 hcode)
  · exact hquote
  · exact fun h => absurd h hback
  · exact fun _ _ _ _ _ _ _ _ _ _ h => absurd h hback
  · exact fun _ _ _ _ _ _ h => absurd h hback
  · exact fun _ h => absurd h hback
  · exact fun _ _ h => absurd h hback

theorem textBody_escape (hx : x ≠ 'u') (hy : escaped? x = some y) :
    textBody noHalves opening read ('\\' :: x :: rest) =
      textBody noHalves opening (y.toNat :: read) rest := by
  rw [textBody]
  · rw [hy]
  · exact fun _ _ _ _ _ _ _ _ _ _ h => absurd h hx
  · exact fun _ _ _ _ _ _ h => absurd h hx
  · exact fun h => absurd h hx

theorem textBody_pair (hn : hex4? a b c d = some n) (hm : hex4? e f g h = some m)
    (hhigh : isHighSurrogate n = true) (hlow : isLowSurrogate m = true) :
    textBody noHalves opening read
        ('\\' :: 'u' :: a :: b :: c :: d :: '\\' :: 'u' :: e :: f :: g :: h :: next :: rest) =
      textBody noHalves opening ((joinSurrogates n m).toNat :: read) (next :: rest) := by
  rw [textBody]
  simp only [hn, hm, hhigh, hlow, if_true]

theorem textBody_unit (hn : hex4? a b c d = some n) (hhigh : isHighSurrogate n = false) :
    textBody noHalves opening read ('\\' :: 'u' :: a :: b :: c :: d :: next :: rest) =
      textBody noHalves opening (n :: read) (next :: rest) := by
  -- another escape may follow, which the reader looks at before it takes this one
  by_cases hpair : ∃ e f g h next' rest',
      next = '\\' ∧ rest = 'u' :: e :: f :: g :: h :: next' :: rest'
  · obtain ⟨e, f, g, h, next', rest', rfl, rfl⟩ := hpair
    rw [textBody]
    simp only [hn, hhigh, Bool.false_eq_true, if_false]
  · rw [textBody]
    · rw [hn]
    · intro e f g h next' rest' hnext hrest
      exact hpair ⟨e, f, g, h, next', rest', hnext, hrest⟩

theorem textBody_unitEscape (hn : n < 0x10000) (hhigh : isHighSurrogate n = false) :
    textBody noHalves opening read (unitEscape n ++ next :: rest) =
      textBody noHalves opening (n :: read) (next :: rest) := by
  obtain ⟨a, b, c, d, hdigits, hvalue⟩ := hex_four hn
  rw [unitEscape, hdigits]
  exact textBody_unit hvalue hhigh

theorem textBody_unitEscapes (hn : n < 0x10000) (hm : m < 0x10000)
    (hhigh : isHighSurrogate n = true) (hlow : isLowSurrogate m = true) :
    textBody noHalves opening read (unitEscape n ++ unitEscape m ++ next :: rest) =
      textBody noHalves opening ((joinSurrogates n m).toNat :: read) (next :: rest) := by
  obtain ⟨a, b, c, d, hdigits, hvalue⟩ := hex_four hn
  obtain ⟨e, f, g, h, hdigits', hvalue'⟩ := hex_four hm
  rw [unitEscape, unitEscape, hdigits, hdigits']
  exact textBody_pair hvalue hvalue' hhigh hlow

/-! ### What is written -/

/-- The forms in which a character is written. -/
inductive Form (x : Char) : List Char → Prop where
  | escape {y : Char} (known : escaped? y = some x) : Form x ['\\', y]
  | plain (noQuote : x ≠ '"') (noBackslash : x ≠ '\\') (printable : 0x20 ≤ x.toNat)
      (ascii : x.toNat < 0x7F) : Form x [x]
  | unit (small : x.toNat < 0x10000) : Form x (unitEscape x.toNat)
  | pair (big : 0x10000 ≤ x.toNat) :
      Form x (unitEscape (0xD800 + (x.toNat - 0x10000) / 0x400) ++
        unitEscape (0xDC00 + (x.toNat - 0x10000) % 0x400))

theorem form_writtenChar (x : Char) : Form x (writtenChar x) := by
  by_cases hspecial : x ∈ ['"', '\\', '\n', '\r', '\t', '\x08', '\x0c']
  · simp only [List.mem_cons, List.not_mem_nil, or_false] at hspecial
    rcases hspecial with rfl | rfl | rfl | rfl | rfl | rfl | rfl
    all_goals exact .escape rfl
  · simp only [List.mem_cons, List.not_mem_nil, or_false, not_or] at hspecial
    obtain ⟨hquote, hback, hline, hreturn, htab, hbell, hfeed⟩ := hspecial
    simp only [writtenChar, beq_iff_eq, hquote, hback, hline, hreturn, htab, hbell, hfeed, if_false]
    split
    · rename_i hplain
      simp only [Bool.and_eq_true, decide_eq_true_eq] at hplain
      exact .plain hquote hback hplain.1 hplain.2
    · split
      · rename_i hsmall
        exact .unit hsmall
      · rename_i hbig
        exact .pair (Nat.le_of_not_lt hbig)

theorem ascii_of_mem_unitEscape (hx : x ∈ unitEscape n) : x.toNat < 0x80 := by
  rcases List.mem_cons.1 hx with rfl | hx
  · decide
  · rcases List.mem_cons.1 hx with rfl | hx
    · decide
    · exact ascii_of_mem_hex hx

theorem ascii_of_escaped? (hy : escaped? y = some x) : y.toNat < 0x80 := by
  unfold escaped? at hy
  split at hy
  all_goals first | decide | cases hy

theorem ascii_of_form {w : List Char} (hw : Form x w) (hy : y ∈ w) : y.toNat < 0x80 := by
  cases hw with
  | escape known =>
    rcases List.mem_cons.1 hy with rfl | hy
    · decide
    · rw [List.mem_singleton.1 hy]
      exact ascii_of_escaped? known
  | plain noQuote noBackslash printable ascii =>
    rw [List.mem_singleton.1 hy]
    omega
  | unit small => exact ascii_of_mem_unitEscape hy
  | pair big => exact (List.mem_append.1 hy).elim ascii_of_mem_unitEscape ascii_of_mem_unitEscape

/-- A written character reads back as itself if the text goes on behind it. -/
theorem textBody_form {w : List Char} (hw : Form x w) :
    textBody noHalves opening read (w ++ next :: rest) =
      textBody noHalves opening (x.toNat :: read) (next :: rest) := by
  cases hw with
  | escape known =>
    refine textBody_escape ?_ known
    rintro rfl
    cases known
  | plain noQuote noBackslash printable ascii =>
    exact textBody_plain noQuote noBackslash printable
  | unit small => exact textBody_unitEscape small (not_surrogate x)
  | pair big =>
    have hcode : x.toNat < 0x110000 := by
      have hvalid : x.toNat < 0xD800 ∨ 0xDFFF < x.toNat ∧ x.toNat < 0x110000 := x.valid
      omega
    obtain ⟨hhigh, hlow⟩ := halves_are_surrogates big
    rw [textBody_unitEscapes (by omega) (by omega) hhigh hlow, joinSurrogates_halves big]

theorem textBody_written (cs : List Char) :
    textBody noHalves opening read (cs.flatMap writtenChar ++ '"' :: rest) =
      .ok (read.reverse ++ cs.map Char.toNat, rest) := by
  induction cs generalizing read with
  | nil =>
    rw [List.map_nil, List.append_nil]
    exact textBody_quote
  | cons x cs ih =>
    -- the characters behind the first one and the closing quote are not empty
    obtain ⟨next, rest', hrest⟩ : ∃ next rest',
        cs.flatMap writtenChar ++ '"' :: rest = next :: rest' := by
      cases hwritten : cs.flatMap writtenChar with
      | nil => exact ⟨'"', rest, rfl⟩
      | cons next tail => exact ⟨next, tail ++ '"' :: rest, rfl⟩
    rw [List.flatMap_cons, List.append_assoc, hrest, textBody_form (form_writtenChar x), ← hrest, ih]
    simp

/-- A text in quotes reads back as the codes of its characters. -/
theorem textBody_quoted (s : String) :
    textBody noHalves opening [] (s.toList.flatMap writtenChar ++ '"' :: rest) =
      .ok (s.toList.map Char.toNat, rest) := textBody_written s.toList

theorem mapM_charOfCode? (cs : List Char) : (cs.map Char.toNat).mapM charOfCode? = some cs := by
  induction cs with
  | nil => rfl
  | cons c cs ih => simp [charOfCode?_toNat, ih]

theorem ofCodes_toList (s : String) : Scalar.ofCodes (s.toList.map Char.toNat) = .str s := by
  rw [Scalar.ofCodes, mapM_charOfCode?]
  exact congrArg Scalar.str String.ofList_toList

theorem quoted_append (s : String) :
    quoted s ++ rest = '"' :: (s.toList.flatMap writtenChar ++ '"' :: rest) := by
  simp [quoted]

theorem ascii_of_mem_quoted {s : String} (hx : x ∈ quoted s) : x.toNat < 0x80 := by
  rcases List.mem_append.1 hx with hfront | hlast
  · rcases List.mem_cons.1 hfront with rfl | hbody
    · decide
    · obtain ⟨y, -, hy⟩ := List.mem_flatMap.1 hbody
      exact ascii_of_form (form_writtenChar y) hy
  · rw [List.mem_singleton.1 hlast]
    decide

end SchemaSheets.Json
