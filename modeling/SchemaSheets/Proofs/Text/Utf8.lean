import SchemaSheets.Text.Wide
import Mathlib.Data.List.Basic

/-!
# UTF-8 both ways

A text can be read back from its octets.
-/

namespace SchemaSheets.Text

theorem encodedLength?_one {a : Nat} (h : a < 0x80) : encodedLength? a = some 1 := if_pos h

theorem encodedLength?_two {a : Nat} (h : 0xC2 ≤ a) (h' : a < 0xE0) :
    encodedLength? a = some 2 := by
  rw [encodedLength?, if_neg (by omega), if_neg (by omega), if_pos h']

theorem encodedLength?_three {a : Nat} (h : 0xE0 ≤ a) (h' : a < 0xF0) :
    encodedLength? a = some 3 := by
  rw [encodedLength?, if_neg (by omega), if_neg (by omega), if_neg (by omega), if_pos h']

theorem encodedLength?_four {a : Nat} (h : 0xF0 ≤ a) (h' : a < 0xF5) :
    encodedLength? a = some 4 := by
  rw [encodedLength?, if_neg (by omega), if_neg (by omega), if_neg (by omega), if_neg (by omega),
    if_pos h']

theorem firstChar_one {a : Nat} (h : a < 0x80) (rest : List UInt8) :
    firstChar a rest = .ok (Char.ofNat a, rest) := by
  unfold firstChar
  rw [encodedLength?_one h]
  rfl

theorem firstChar_two {a : Nat} {b : UInt8} (ha : 0xC2 ≤ a) (ha' : a < 0xE0)
    (hb : isTail b.toNat) (rest : List UInt8) :
    firstChar a (b :: rest) = .ok (Char.ofNat ((a - 0xC0) * 0x40 + (b.toNat - 0x80)), rest) := by
  have hfits : fitsSecond a b.toNat = true := by
    rw [fitsSecond, hb, if_neg (by omega), if_neg (by omega), if_neg (by omega),
      if_neg (by omega)]
    rfl
  unfold firstChar
  rw [encodedLength?_two ha ha']
  simp [hfits]

theorem firstChar_three {a : Nat} {b c : UInt8} (ha : 0xE0 ≤ a) (ha' : a < 0xF0)
    (hb : fitsSecond a b.toNat) (hc : isTail c.toNat) (rest : List UInt8) :
    firstChar a (b :: c :: rest) = .ok (Char.ofNat
      (((a - 0xE0) * 0x40 + (b.toNat - 0x80)) * 0x40 + (c.toNat - 0x80)), rest) := by
  unfold firstChar
  rw [encodedLength?_three ha ha']
  simp [hb, hc]

theorem firstChar_four {a : Nat} {b c d : UInt8} (ha : 0xF0 ≤ a) (ha' : a < 0xF5)
    (hb : fitsSecond a b.toNat) (hc : isTail c.toNat) (hd : isTail d.toNat) (rest : List UInt8) :
    firstChar a (b :: c :: d :: rest) = .ok (Char.ofNat
      ((((a - 0xF0) * 0x40 + (b.toNat - 0x80)) * 0x40 + (c.toNat - 0x80)) * 0x40 +
        (d.toNat - 0x80)), rest) := by
  unfold firstChar
  rw [encodedLength?_four ha ha']
  simp [hb, hc, hd]

theorem isTail_iff {b : Nat} : isTail b = true ↔ 0x80 ≤ b ∧ b < 0xC0 := by
  simp [isTail]

theorem toNat_ofNat {n : Nat} (h : n < 256) : (UInt8.ofNat n).toNat = n := by
  rw [UInt8.toNat_ofNat']
  exact Nat.mod_eq_of_lt h

/-- The second octet of a character keeps to the range that its first octet asks for. -/
theorem fitsSecond_of_bounds {a b : Nat} (hb : isTail b)
    (h : (a = 0xE0 → 0xA0 ≤ b) ∧ (a = 0xED → b < 0xA0) ∧ (a = 0xF0 → 0x90 ≤ b) ∧
      (a = 0xF4 → b < 0x90)) : fitsSecond a b := by
  unfold fitsSecond
  rw [hb, Bool.true_and]
  split_ifs with h1 h2 h3 h4
  · simpa using h.1 h1
  · simpa using h.2.1 h2
  · simpa using h.2.2.1 h3
  · simpa using h.2.2.2 h4
  · rfl

/-- A character is read back from its octets, whatever follows them. -/
theorem firstChar_encodeChar (c : Char) :
    ∃ a more, String.utf8EncodeChar c = a :: more ∧
      ∀ rest, firstChar a.toNat (more ++ rest) = .ok (c, rest) := by
  have hbounds : c.val.toNat < 0xD800 ∨ 0xDFFF < c.val.toNat ∧ c.val.toNat < 0x110000 := c.valid
  have hback : Char.ofNat c.val.toNat = c := Char.ofNat_toNat c
  rw [String.utf8EncodeChar.eq_1]
  generalize c.val.toNat = v at hbounds hback ⊢
  split_ifs with h1 h2 h3
  · refine ⟨_, _, rfl, fun rest => ?_⟩
    rw [toNat_ofNat (by omega), List.nil_append, firstChar_one (by omega), hback]
  · refine ⟨_, _, rfl, fun rest => ?_⟩
    have hb : (UInt8.ofNat (v % 64 + 128)).toNat = v % 64 + 128 := toNat_ofNat (by omega)
    have hv : (v / 64 % 32 + 192 - 0xC0) * 0x40 + (v % 64 + 128 - 0x80) = v := by omega
    rw [toNat_ofNat (by omega), List.singleton_append,
      firstChar_two (by omega) (by omega) (by rw [hb, isTail_iff]; omega), hb, hv, hback]
  · refine ⟨_, _, rfl, fun rest => ?_⟩
    have hb : (UInt8.ofNat (v / 64 % 64 + 128)).toNat = v / 64 % 64 + 128 :=
      toNat_ofNat (by omega)
    have hc : (UInt8.ofNat (v % 64 + 128)).toNat = v % 64 + 128 := toNat_ofNat (by omega)
    have hfits : fitsSecond (v / 4096 % 16 + 224) (v / 64 % 64 + 128) :=
      fitsSecond_of_bounds (by rw [isTail_iff]; omega) (by omega)
    have hv : ((v / 4096 % 16 + 224 - 0xE0) * 0x40 + (v / 64 % 64 + 128 - 0x80)) * 0x40 +
        (v % 64 + 128 - 0x80) = v := by omega
    rw [toNat_ofNat (by omega), List.cons_append, List.singleton_append,
      firstChar_three (by omega) (by omega) (by rw [hb]; exact hfits)
        (by rw [hc, isTail_iff]; omega), hb, hc, hv, hback]
  · refine ⟨_, _, rfl, fun rest => ?_⟩
    have hb : (UInt8.ofNat (v / 4096 % 64 + 128)).toNat = v / 4096 % 64 + 128 :=
      toNat_ofNat (by omega)
    have hc : (UInt8.ofNat (v / 64 % 64 + 128)).toNat = v / 64 % 64 + 128 :=
      toNat_ofNat (by omega)
    have hd : (UInt8.ofNat (v % 64 + 128)).toNat = v % 64 + 128 := toNat_ofNat (by omega)
    have hfits : fitsSecond (v / 262144 % 8 + 240) (v / 4096 % 64 + 128) :=
      fitsSecond_of_bounds (by rw [isTail_iff]; omega) (by omega)
    have hv : (((v / 262144 % 8 + 240 - 0xF0) * 0x40 + (v / 4096 % 64 + 128 - 0x80)) * 0x40 +
        (v / 64 % 64 + 128 - 0x80)) * 0x40 + (v % 64 + 128 - 0x80) = v := by omega
    rw [toNat_ofNat (by omega), List.cons_append, List.cons_append, List.singleton_append,
      firstChar_four (by omega) (by omega) (by rw [hb]; exact hfits)
        (by rw [hc, isTail_iff]; omega) (by rw [hd, isTail_iff]; omega), hb, hc, hd, hv, hback]

theorem decodeFrom_encode (cs : List Char) (fuel position : Nat)
    (h : (cs.flatMap String.utf8EncodeChar).length ≤ fuel) :
    decodeFrom fuel position (cs.flatMap String.utf8EncodeChar) = .ok cs := by
  induction cs generalizing fuel position with
  | nil => cases fuel <;> rfl
  | cons c cs ih =>
    obtain ⟨a, more, hencode, hfirst⟩ := firstChar_encodeChar c
    rw [List.flatMap_cons, hencode, List.cons_append] at h ⊢
    rw [List.length_cons, List.length_append] at h
    obtain ⟨fuel, rfl⟩ : ∃ n, fuel = n + 1 := ⟨fuel - 1, by omega⟩
    rw [decodeFrom, hfirst]
    simp only
    rw [ih _ _ (by omega)]

/-- A text is read back from its octets. -/
theorem decode_encode (s : String) : decodeUtf8 (encodeUtf8 s) = .ok s.toList := by
  rw [decodeUtf8, encodeUtf8]
  exact decodeFrom_encode _ _ _ (Nat.le_refl _)

theorem decodeCodes_encode (cs : List Char) (fuel : Nat)
    (h : (cs.flatMap String.utf8EncodeChar).length ≤ fuel) :
    decodeCodes fuel (cs.flatMap String.utf8EncodeChar) = some (cs.map Char.toNat) := by
  induction cs generalizing fuel with
  | nil => cases fuel <;> rfl
  | cons c cs ih =>
    obtain ⟨a, more, hencode, hfirst⟩ := firstChar_encodeChar c
    rw [List.flatMap_cons, hencode, List.cons_append] at h ⊢
    rw [List.length_cons, List.length_append] at h
    obtain ⟨fuel, rfl⟩ : ∃ n, fuel = n + 1 := ⟨fuel - 1, by omega⟩
    rw [decodeCodes, hfirst]
    simp only
    rw [ih _ (by omega)]
    rfl

/-- Without carriage returns line ends are of one kind already. -/
theorem unifyLineEnds_of_not_mem {cs : List Char} (h : '\r' ∉ cs) : unifyLineEnds cs = cs := by
  fun_induction unifyLineEnds cs with
  | case1 rest ih => simp at h
  | case2 rest _ ih => simp at h
  | case3 c rest _ hc ih =>
    rw [ih fun hmem => h (List.mem_cons_of_mem _ hmem)]
  | case4 => rfl

end SchemaSheets.Text
