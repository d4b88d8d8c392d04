import Mathlib.Data.List.Forall2
import SchemaSheets.Proofs.Words.Tokens

/-!
# Headings

A heading is a list of capitalised words with one blank between two of them.  No
case boundary lies inside a capitalised word, so the words of a heading are the
words that it was made of, and a heading made of a heading is the same again.
-/

namespace SchemaSheets.Words

variable {c : Char} {cs word : List Char} {words : List (List Char)}

/-! ### Letter case -/

theorem toNat_of_isValidChar {n : Nat} (h : n.isValidChar) : (Char.ofNat n).toNat = n := by
  rw [Char.ofNat, dif_pos h]
  rfl

theorem toNat_toUpper (h : isLower c = true) : (toUpper c).toNat = c.toNat - 32 := by
  have hcode := isLower_iff.1 h
  have hvalid : (c.toNat - 32).isValidChar := .inl (by omega)
  rw [toUpper, if_pos h, toNat_of_isValidChar hvalid]

theorem toNat_toLower (h : isUpper c = true) : (toLower c).toNat = c.toNat + 32 := by
  have hcode := isUpper_iff.1 h
  have hvalid : (c.toNat + 32).isValidChar := .inl (by omega)
  rw [toLower, if_pos h, toNat_of_isValidChar hvalid]

theorem toUpper_of_not_isLower (h : isLower c = false) : toUpper c = c := by
  rw [toUpper, h]
  rfl

theorem toLower_of_not_isUpper (h : isUpper c = false) : toLower c = c := by
  rw [toLower, h]
  rfl

theorem isUpper_toUpper (h : isLower c = true) : isUpper (toUpper c) = true := by
  have hcode := isLower_iff.1 h
  rw [isUpper_iff, toNat_toUpper h]
  omega

theorem isLower_toLower (h : isUpper c = true) : isLower (toLower c) = true := by
  have hcode := isUpper_iff.1 h
  rw [isLower_iff, toNat_toLower h]
  omega

theorem toLower_toUpper (c : Char) : toLower (toUpper c) = toLower c := by
  cases h : isLower c with
  | false => rw [toUpper_of_not_isLower h]
  | true =>
    have hcode := isLower_iff.1 h
    have hself : toLower c = c := toLower_of_not_isUpper (not_isUpper (by simp [h]))
    rw [hself, ← Char.toNat_inj, toNat_toLower (isUpper_toUpper h), toNat_toUpper h]
    omega

theorem toLower_toLower (c : Char) : toLower (toLower c) = toLower c := by
  cases h : isUpper c with
  | false => rw [toLower_of_not_isUpper h, toLower_of_not_isUpper h]
  | true => exact toLower_of_not_isUpper (not_isUpper (by simp [isLower_toLower h]))

/-! ### Capitalised words -/

/-- A character that a capitalised word may start with. -/
def isInitial (c : Char) : Bool := isUpper c || Text.isDigit c

/-- A character that a capitalised word may go on with. -/
def isFollowing (c : Char) : Bool := isLower c || Text.isDigit c

/-- An upper-case letter or a digit, and then lower-case letters and digits. -/
def IsCapitalized : List Char → Prop
  | [] => False
  | c :: cs => isInitial c = true ∧ ∀ x ∈ cs, isFollowing x = true

/-- Two texts have the same letters up to their case, and otherwise the same characters. -/
def SameLetters (s t : String) : Prop := s.toList.map toLower = t.toList.map toLower

theorem isInitial_toUpper (h : isWordChar c = true) : isInitial (toUpper c) = true := by
  cases hlower : isLower c with
  | true => simp [isInitial, isUpper_toUpper hlower]
  | false =>
    rw [toUpper_of_not_isLower hlower]
    simpa [isWordChar, isInitial, hlower] using h

theorem isFollowing_toLower (h : isWordChar c = true) : isFollowing (toLower c) = true := by
  cases hupper : isUpper c with
  | true => simp [isFollowing, isLower_toLower hupper]
  | false =>
    rw [toLower_of_not_isUpper hupper]
    simpa [isWordChar, isFollowing, hupper] using h

theorem isCapitalized_capitalize (h : ∀ c ∈ word, isWordChar c = true) (hne : word ≠ []) :
    IsCapitalized (capitalize word) := by
  cases word with
  | nil => contradiction
  | cons c cs =>
    obtain ⟨hc, hcs⟩ := List.forall_mem_cons.1 h
    refine ⟨isInitial_toUpper hc, fun x hx => ?_⟩
    obtain ⟨y, hy, rfl⟩ := List.mem_map.1 hx
    exact isFollowing_toLower (hcs y hy)

theorem capitalize_of_isCapitalized (h : IsCapitalized word) : capitalize word = word := by
  cases word with
  | nil => rfl
  | cons c cs =>
    obtain ⟨hc, hcs⟩ := h
    have hlower : isLower c = false := by
      rw [isInitial, Bool.or_eq_true, isUpper_iff, Text.isDigit_iff] at hc
      rw [Bool.eq_false_iff, Ne, isLower_iff]
      omega
    have hrest : cs.map toLower = cs.map id :=
      List.map_congr_left fun x hx => toLower_of_not_isUpper (not_isUpper (hcs x hx))
    rw [capitalize, toUpper_of_not_isLower hlower, hrest, List.map_id]

theorem map_toLower_capitalize (word : List Char) :
    (capitalize word).map toLower = word.map toLower := by
  cases word with
  | nil => rfl
  | cons c cs => simp [capitalize, toLower_toUpper, toLower_toLower]

theorem IsCapitalized.isWordChar (h : IsCapitalized word) : ∀ c ∈ word, isWordChar c = true := by
  cases word with
  | nil => nofun
  | cons c cs =>
    obtain ⟨hc, hcs⟩ := h
    refine List.forall_mem_cons.2 ⟨?_, fun x hx => ?_⟩
    · rw [isInitial, Bool.or_eq_true] at hc
      rcases hc with hc | hc <;> simp [Words.isWordChar, hc]
    · have hx := hcs x hx
      rw [isFollowing, Bool.or_eq_true] at hx
      rcases hx with hx | hx <;> simp [Words.isWordChar, hx]

theorem IsCapitalized.isUnbroken (h : IsCapitalized word) : IsUnbroken word := by
  cases word with
  | nil => exact h.elim
  | cons c cs =>
    have hupper : ∀ x ∈ cs, isUpper x = false := fun x hx => not_isUpper (h.2 x hx)
    intro back hback
    rcases back with _ | ⟨x, _ | ⟨y, rest⟩⟩
    · rfl
    · exact isBoundary_singleton x
    · refine isBoundary_eq_false_of_next (hupper y ?_) x rest
      rcases List.suffix_cons_iff.1 hback with heq | hsuffix
      · cases heq
        exact List.mem_cons_self
      · exact hsuffix.subset (List.mem_cons_of_mem x List.mem_cons_self)

/-! ### The words of a heading -/

theorem cutRun_of_isUnbroken (h : IsUnbroken word) (hne : word ≠ []) : cutRun word = [word] := by
  induction word with
  | nil => contradiction
  | cons a cs ih =>
    rcases cutRun_cons a cs with ⟨rfl | hb, hcut⟩ | ⟨front, words, -, hwords, hcut⟩
    · rfl
    · rw [h _ List.suffix_rfl] at hb
      contradiction
    · have hcs : cs ≠ [] := by
        rintro rfl
        simp [cutRun] at hwords
      have hrest := ih (fun back hback => h back (hback.trans (List.suffix_cons a cs))) hcs
      obtain ⟨rfl, rfl⟩ := List.cons.inj (hwords.symm.trans hrest)
      exact hcut

theorem split_of_isCapitalized (h : IsCapitalized word) : split word = [word] := by
  have hne : word ≠ [] := by
    rintro rfl
    exact h
  rw [split_of_run h.isWordChar, cutRun_of_isUnbroken h.isUnbroken hne]

theorem split_intercalate (h : ∀ word ∈ words, IsCapitalized word) :
    split ([' '].intercalate words) = words := by
  induction words with
  | nil => rfl
  | cons word words ih =>
    obtain ⟨hword, hwords⟩ := List.forall_mem_cons.1 h
    cases words with
    | nil => rw [List.intercalate_singleton, split_of_isCapitalized hword]
    | cons next words =>
      rw [List.intercalate_cons_cons, List.append_assoc, List.singleton_append,
        split_append not_isWordChar_blank, split_of_isCapitalized hword, ih hwords]
      rfl

theorem isWordChar_of_mem_split (h : word ∈ split cs) : ∀ c ∈ word, isWordChar c = true := by
  intro c hc
  have hmem : c ∈ cs.filter isWordChar := by
    rw [← flatten_split]
    exact List.mem_flatten_of_mem h hc
  exact (List.mem_filter.1 hmem).2

theorem isCapitalized_of_mem (h : word ∈ (split cs).map capitalize) : IsCapitalized word := by
  obtain ⟨front, hfront, rfl⟩ := List.mem_map.1 h
  exact isCapitalized_capitalize (isWordChar_of_mem_split hfront) (of_mem_split hfront).1

theorem split_capitalCase (cs : List Char) : split (capitalCase cs) = (split cs).map capitalize :=
  split_intercalate fun _ => isCapitalized_of_mem

theorem capitalCase_capitalCase (cs : List Char) : capitalCase (capitalCase cs) = capitalCase cs := by
  have hsame : ((split cs).map capitalize).map capitalize = ((split cs).map capitalize).map id :=
    List.map_congr_left fun _ hword => capitalize_of_isCapitalized (isCapitalized_of_mem hword)
  rw [capitalCase, split_capitalCase, hsame, List.map_id, ← capitalCase]

theorem split_ne_nil_iff : split cs ≠ [] ↔ ∃ c ∈ cs, isWordChar c = true := by
  constructor
  · intro h
    obtain ⟨word, words, hwords⟩ := List.exists_cons_of_ne_nil h
    have hword : word ∈ split cs := by
      rw [hwords]
      exact List.mem_cons_self
    obtain ⟨c, rest, rfl⟩ := List.exists_cons_of_ne_nil (of_mem_split hword).1
    have hmem : c ∈ cs.filter isWordChar := by
      rw [← flatten_split]
      exact List.mem_flatten_of_mem hword List.mem_cons_self
    exact ⟨c, List.mem_filter.1 hmem⟩
  · rintro ⟨c, hc, hword⟩ hnil
    have hmem : c ∈ (split cs).flatten := by
      rw [flatten_split]
      exact List.mem_filter.2 ⟨hc, hword⟩
    rw [hnil] at hmem
    cases hmem

theorem capitalCase_eq_nil_iff : capitalCase cs = [] ↔ split cs = [] := by
  constructor
  · intro h
    have hmap := split_capitalCase cs
    rw [h] at hmap
    exact List.map_eq_nil_iff.1 hmap.symm
  · intro h
    rw [capitalCase, h]
    rfl

theorem ofText_heading (s : String) :
    ofText (heading s) = (ofText s).map fun word => String.ofList (capitalize word.toList) := by
  rw [ofText, heading, String.toList_ofList, split_capitalCase, ofText]
  simp [Function.comp_def]

theorem heading_eq (s : String) : heading s = " ".intercalate (ofText (heading s)) := by
  rw [← String.toList_inj, String.toList_intercalate, ofText_heading, ofText, heading]
  simp [capitalCase, Function.comp_def]

/-- A heading is made of capitalised words with one blank between two of them.  They are the words
of the text up to the case of their letters, they are the words of the heading itself, and its own
heading is the same.  Only a text without letters and digits has an empty heading. -/
theorem heading_canonical (s : String) :
    ∃ words : List String, heading s = " ".intercalate words ∧
      (∀ word ∈ words, IsCapitalized word.toList) ∧
      List.Forall₂ SameLetters (ofText s) words ∧ ofText (heading s) = words ∧
      heading (heading s) = heading s ∧
      (heading s ≠ "" ↔ ∃ c ∈ s.toList, isWordChar c = true) := by
  refine ⟨ofText (heading s), heading_eq s, fun word hword => ?_, ?_, rfl, ?_, ?_⟩
  · rw [mem_ofText_iff, heading, String.toList_ofList, split_capitalCase] at hword
    exact isCapitalized_of_mem hword
  · rw [ofText_heading, List.forall₂_map_right_iff, List.forall₂_same]
    intro word hword
    rw [SameLetters, String.toList_ofList, map_toLower_capitalize]
  · rw [heading, heading, String.toList_ofList, capitalCase_capitalCase]
  · rw [← split_ne_nil_iff]
    refine not_congr ?_
    rw [← capitalCase_eq_nil_iff, heading, ← String.toList_inj, String.toList_ofList]
    rfl

theorem heading_canonical_of_snake :
    heading "_userID_2x" = "User Id 2x" ∧ ofText "_userID_2x" = ["user", "ID", "2x"] ∧
      "Id" ∈ ofText (heading "_userID_2x") ∧ IsCapitalized "Id".toList := by
  obtain ⟨words, -, hcapitalized, -, rfl, -, -⟩ := heading_canonical "_userID_2x"
  have hmem : "Id" ∈ ofText (heading "_userID_2x") := by
    decide +kernel
  exact ⟨by decide +kernel, by decide +kernel, hmem, hcapitalized _ hmem⟩

end SchemaSheets.Words
