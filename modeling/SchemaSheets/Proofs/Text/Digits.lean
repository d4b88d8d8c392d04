import SchemaSheets.Decimal.Layout
import SchemaSheets.Text.Digits
import SchemaSheets.Text.Hex
import SchemaSheets.Value.Display

/-!
# Numbers from their own digits

The decimal digits of a number, and the four hexadecimal ones of a code unit,
read back as the number.
-/

namespace SchemaSheets.Text

variable {n b : Nat} {c : Char}

theorem mem_toDigits (hb : 1 < b) (h : c ∈ Nat.toDigits b n) : ∃ d < b, c = Nat.digitChar d := by
  induction n using Nat.strongRecOn with
  | ind n ih =>
    by_cases hn : n < b
    · rw [Nat.toDigits_of_lt_base hn] at h
      exact ⟨n, hn, List.mem_singleton.1 h⟩
    · have hle : b ≤ n := Nat.le_of_not_lt hn
      rw [Nat.toDigits_of_base_le hb hle] at h
      rcases List.mem_append.1 h with hfront | hlast
      · exact ih (n / b) (Nat.div_lt_self (by omega) hb) hfront
      · exact ⟨n % b, Nat.mod_lt n (by omega), List.mem_singleton.1 hlast⟩

theorem digitChar_ascii : ∀ d < 16, (Nat.digitChar d).toNat < 0x80 := by decide

theorem ascii_of_mem_toDigits (hb : 1 < b) (hb' : b ≤ 16) (h : c ∈ Nat.toDigits b n) :
    c.toNat < 0x80 := by
  obtain ⟨d, hd, rfl⟩ := mem_toDigits hb h
  exact digitChar_ascii d (by omega)

/-! ### Decimal digits -/

theorem isDigit_of_mem_digitsOf (h : c ∈ Decimal.digitsOf n) : isDigit c = true :=
  Nat.isDigit_of_mem_toDigits (by omega) (by omega) h

theorem decimalValue_digitsOf (n : Nat) : decimalValue (Decimal.digitsOf n) = n := by
  have hread : Nat.ofDigitChars 10 (Nat.toDigits 10 n) 0 = n := Nat.ofDigitChars_ten_toDigits
  rw [Nat.ofDigitChars_eq_foldl] at hread
  have hstep : (fun (n : Nat) (c : Char) => n * 10 + (c.toNat - 48)) =
      fun n c => 10 * n + (c.toNat - '0'.toNat) := by
    funext n c
    rw [Nat.mul_comm]
    rfl
  rw [decimalValue, hstep]
  exact hread

theorem digitsOf_zero : Decimal.digitsOf 0 = ['0'] := Nat.toDigits_zero 10

/-- The digits of a number other than zero do not start with a zero. -/
theorem digitsOf_of_pos (h : 0 < n) : ∃ c cs, Decimal.digitsOf n = c :: cs ∧ c ≠ '0' := by
  induction n using Nat.strongRecOn with
  | ind n ih =>
    unfold Decimal.digitsOf at ih ⊢
    by_cases hn : n < 10
    · refine ⟨Nat.digitChar n, [], Nat.toDigits_of_lt_base hn, ?_⟩
      intro hzero
      have hn0 : n = 0 := Nat.digitChar_eq_zero.1 hzero
      omega
    · have hle : 10 ≤ n := Nat.le_of_not_lt hn
      obtain ⟨c, cs, hcs, hc⟩ := ih (n / 10) (by omega) (by omega)
      refine ⟨c, cs ++ [Nat.digitChar (n % 10)], ?_, hc⟩
      rw [Nat.toDigits_of_base_le (by omega) hle, hcs]
      rfl

/-! ### Hexadecimal digits -/

theorem hexDigit?_digitChar : ∀ d < 16, hexDigit? (Nat.digitChar d) = some d := by decide

/-- Reading on, hexadecimal digit by hexadecimal digit. -/
def hexFrom? (n : Nat) (cs : List Char) : Option Nat :=
  cs.foldlM (fun n c => (hexDigit? c).map (n * 16 + ·)) n

theorem hexFrom?_append (n : Nat) (xs ys : List Char) :
    hexFrom? n (xs ++ ys) = (hexFrom? n xs).bind fun m => hexFrom? m ys := List.foldlM_append

theorem hexFrom?_digit (m : Nat) {d : Nat} (h : d < 16) :
    hexFrom? m [Nat.digitChar d] = some (m * 16 + d) := by
  simp [hexFrom?, hexDigit?_digitChar d h]

theorem hexFrom?_zeros (k : Nat) : hexFrom? 0 (List.replicate k '0') = some 0 := by
  induction k with
  | zero => rfl
  | succ k ih => exact ih

theorem hexFrom?_toDigits (n : Nat) : hexFrom? 0 (Nat.toDigits 16 n) = some n := by
  induction n using Nat.strongRecOn with
  | ind n ih =>
    by_cases hn : n < 16
    · rw [Nat.toDigits_of_lt_base hn, hexFrom?_digit 0 hn, Nat.zero_mul, Nat.zero_add]
    · have hle : 16 ≤ n := Nat.le_of_not_lt hn
      have hlast : n % 16 < 16 := Nat.mod_lt n (by omega)
      rw [Nat.toDigits_of_base_le (by omega) hle, hexFrom?_append, ih (n / 16) (by omega)]
      show hexFrom? (n / 16) [Nat.digitChar (n % 16)] = some n
      rw [hexFrom?_digit _ hlast]
      congr 1
      omega

theorem hexValue?_hex (width n : Nat) : hexValue? (Display.hex width n) = some n := by
  show hexFrom? 0 (List.replicate (width - (Nat.toDigits 16 n).length) '0' ++ _) = _
  rw [hexFrom?_append, hexFrom?_zeros]
  exact hexFrom?_toDigits n

theorem length_hex {width : Nat} (h : (Nat.toDigits 16 n).length ≤ width) :
    (Display.hex width n).length = width := by
  simp only [Display.hex, List.length_append, List.length_replicate]
  omega

/-- A code unit is written with four digits, which read back as it. -/
theorem hex_four (h : n < 0x10000) :
    ∃ a b c d, Display.hex 4 n = [a, b, c, d] ∧ hex4? a b c d = some n := by
  have hdigits : (Nat.toDigits 16 n).length ≤ 4 :=
    (Nat.length_toDigits_le_iff (by omega) (by omega)).2 h
  have hlength : (Display.hex 4 n).length = 4 := length_hex hdigits
  have hvalue := hexValue?_hex 4 n
  match hcs : Display.hex 4 n, hlength with
  | [a, b, c, d], _ =>
    rw [hcs] at hvalue
    exact ⟨a, b, c, d, rfl, hvalue⟩

theorem ascii_of_mem_hex {width : Nat} (h : c ∈ Display.hex width n) : c.toNat < 0x80 := by
  rcases List.mem_append.1 h with hzero | hdigit
  · rw [List.eq_of_mem_replicate hzero]
    decide
  · exact ascii_of_mem_toDigits (by omega) (by omega) hdigit

/-! ### Code units -/

theorem charOfCode?_toNat (c : Char) : charOfCode? c.toNat = some c := by
  have hvalid : c.toNat < 0xD800 ∨ 0xDFFF < c.toNat ∧ c.toNat < 0x110000 := c.valid
  have hhigh : isHighSurrogate c.toNat = false := by
    simp only [isHighSurrogate, Bool.and_eq_false_iff, decide_eq_false_iff_not]
    omega
  have hlow : isLowSurrogate c.toNat = false := by
    simp only [isLowSurrogate, Bool.and_eq_false_iff, decide_eq_false_iff_not]
    omega
  have hmost : ¬0x10FFFF < c.toNat := by omega
  simp [charOfCode?, hhigh, hlow, hmost]

theorem not_surrogate (c : Char) : isHighSurrogate c.toNat = false := by
  have hvalid : c.toNat < 0xD800 ∨ 0xDFFF < c.toNat ∧ c.toNat < 0x110000 := c.valid
  simp only [isHighSurrogate, Bool.and_eq_false_iff, decide_eq_false_iff_not]
  omega

/-- A character beyond the first plane is the one of its two halves. -/
theorem joinSurrogates_halves (h : 0x10000 ≤ c.toNat) :
    joinSurrogates (0xD800 + (c.toNat - 0x10000) / 0x400)
      (0xDC00 + (c.toNat - 0x10000) % 0x400) = c := by
  have hcode : 0x10000 + (0xD800 + (c.toNat - 0x10000) / 0x400 - 0xD800) * 0x400 +
      (0xDC00 + (c.toNat - 0x10000) % 0x400 - 0xDC00) = c.toNat := by omega
  rw [joinSurrogates, hcode]
  exact Char.ofNat_toNat c

theorem halves_are_surrogates (h : 0x10000 ≤ c.toNat) :
    isHighSurrogate (0xD800 + (c.toNat - 0x10000) / 0x400) = true ∧
      isLowSurrogate (0xDC00 + (c.toNat - 0x10000) % 0x400) = true := by
  have hvalid : c.toNat < 0xD800 ∨ 0xDFFF < c.toNat ∧ c.toNat < 0x110000 := c.valid
  simp only [isHighSurrogate, isLowSurrogate, Bool.and_eq_true, decide_eq_true_eq]
  omega

end SchemaSheets.Text
