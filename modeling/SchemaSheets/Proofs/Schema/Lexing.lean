import SchemaSheets.Proofs.Steps
import SchemaSheets.Schema.Token

/-!
# Characters and tokens

Which characters a token can start with, and what the tokens of a document hold:
a token that is a name is never empty.
-/

namespace SchemaSheets.Schema

open Steps

variable {c : Char} {cs rest : List Char} {l : Lexeme}

/-! ### First characters -/

/-- A mark is printable ASCII. -/
theorem code_of_mark {m : Mark} (h : Mark.ofChar? c = some m) : 0x20 < c.toNat ∧ c.toNat < 0x7F := by
  unfold Mark.ofChar? at h
  split at h
  all_goals first | contradiction | decide

theorem isDigit_eq_false (h : c.toNat < 0x30 ∨ 0x39 < c.toNat) : Text.isDigit c = false := by
  rw [Bool.eq_false_iff]
  intro hd
  have hcode := Text.isDigit_iff.1 hd
  omega

theorem code_of_isNameStart (h : isNameStart c = true) : 0x41 ≤ c.toNat ∧ c.toNat ≤ 0x7A := by
  simp only [isNameStart, Char.le_def, UInt32.le_iff_toNat_le, Char.toNat_val, Bool.or_eq_true,
    Bool.and_eq_true, decide_eq_true_eq, beq_iff_eq, Char.reduceToNat] at h
  rcases h with (h | h) | rfl
  · omega
  · omega
  · decide

/-- Outside printable ASCII no character starts a token. -/
theorem firstToken_unexpected (h : c.toNat ≤ 0x20 ∨ 0x7F ≤ c.toNat) (rest : List Char) :
    firstToken (c :: rest) = .error (.unexpected c, rest.length + 1) := by
  have hne : ∀ d : Char, 0x20 < d.toNat ∧ d.toNat < 0x7F → c ≠ d := by
    rintro d hd rfl
    omega
  have hmark : Mark.ofChar? c = none := by
    cases hm : Mark.ofChar? c with
    | none => rfl
    | some m =>
      have hcode := code_of_mark hm
      omega
  have hdigit : Text.isDigit c = false := isDigit_eq_false (by omega)
  have hstart : isNameStart c = false := by
    rw [Bool.eq_false_iff]
    intro hs
    have hcode := code_of_isNameStart hs
    omega
  have hdot := hne '.' (by decide)
  have hquote := hne '"' (by decide)
  have hsingle := hne '\'' (by decide)
  have hminus := hne '-' (by decide)
  simp [firstToken, hdot, hquote, hsingle, hminus, hmark, hdigit, hstart]

theorem ne_of_isNameStart {d : Char} (h : isNameStart c = true) (hd : isNameStart d = false) :
    c ≠ d := by
  rintro rfl
  rw [h] at hd
  contradiction

theorem firstToken_name (h : isNameStart c = true) (rest : List Char) :
    firstToken (c :: rest) = .ok (.name (String.ofList ((c :: rest).takeWhile isNameChar)),
      (c :: rest).dropWhile isNameChar) := by
  have hmark : Mark.ofChar? c = none := by
    unfold Mark.ofChar?
    split
    all_goals first | rfl | exact absurd h (by decide)
  have hletter := code_of_isNameStart h
  have hdigit : Text.isDigit c = false := isDigit_eq_false (by omega)
  have hdot := ne_of_isNameStart (d := '.') h (by decide)
  have hquote := ne_of_isNameStart (d := '"') h (by decide)
  have hminus := ne_of_isNameStart (d := '-') h (by decide)
  simp [firstToken, hdot, hquote, hminus, hmark, hdigit, h]

theorem skipIgnored_name (h : isNameStart c = true) (rest : List Char) :
    skipIgnored false (c :: rest) = c :: rest := by
  have hhash := ne_of_isNameStart (d := '#') h (by decide)
  have hignored : isIgnored c = false := by
    rw [Bool.eq_false_iff]
    intro hi
    simp only [isIgnored, Bool.or_eq_true, beq_iff_eq] at hi
    rcases hi with ((((rfl | rfl) | rfl) | rfl) | rfl) | rfl <;> exact absurd h (by decide)
  simp [skipIgnored, hhash, hignored]

/-! ### Names -/

theorem number_ne_name {w : String} : number cs ≠ .ok (.name w, rest) := by
  have hwritten : ∀ (whole : Bool) (digits : String) (more : List Char),
      (.ok (if whole then .int digits else .float digits, more) : Cut Lexeme) ≠
        .ok (.name w, rest) := by
    intro whole digits more h
    cases whole <;> exact nomatch h
  intro h
  simp only [number] at h
  obtain ⟨⟨whole, cs₁⟩, -, h⟩ := bind_eq_ok_iff.1 h
  obtain ⟨⟨fraction, cs₂⟩, -, h⟩ := bind_eq_ok_iff.1 h
  obtain ⟨⟨exponent, cs₃⟩, -, h⟩ := bind_eq_ok_iff.1 h
  split at h
  · split at h
    · exact nomatch h
    · exact hwritten _ _ _ h
  · exact hwritten _ _ _ h

theorem name_ne_empty {w : String} (h : firstToken cs = .ok (.name w, rest)) : w ≠ "" := by
  unfold firstToken at h
  split at h
  case h_6 c rest' _ _ _ _ =>
    split at h
    · exact nomatch h
    split at h
    · exact absurd h number_ne_name
    split at h
    next hstart =>
      obtain ⟨⟩ := h
      have hname : isNameChar c = true := by rw [isNameChar, hstart, Bool.true_or]
      intro hempty
      have hlist := congrArg String.toList hempty
      simp [hname] at hlist
    next =>
      split at h
      · exact nomatch h
      · split at h
        · exact nomatch h
        · exact nomatch h
  case h_4 =>
    obtain ⟨_, -, h⟩ := map_eq_ok_iff.1 h
    exact nomatch h
  case h_5 =>
    obtain ⟨_, -, h⟩ := map_eq_ok_iff.1 h
    exact nomatch h
  all_goals exact nomatch h

theorem names_ne_empty_from (fuel : Nat) (cs : List Char) :
    ∀ item ∈ tokensFrom fuel cs, ∀ left, item ≠ .token (.name "") left := by
  induction fuel generalizing cs with
  | zero => simp [tokensFrom]
  | succ fuel ih =>
    rw [tokensFrom]
    split
    · simp
    next l rest hne hfirst =>
      rw [List.forall_mem_cons]
      refine ⟨?_, ih rest⟩
      rintro left ⟨⟩
      exact name_ne_empty hfirst rfl
    · simp

/-- The names among the tokens of a document are not empty. -/
theorem names_ne_empty {left : Nat} : .token (.name "") left ∉ tokens cs := fun h =>
  names_ne_empty_from _ _ _ h left rfl

end SchemaSheets.Schema
