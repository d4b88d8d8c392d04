import Mathlib.Data.List.DropRight
import SchemaSheets.Url.Split

/-!
# The front of an absolute URL

Up to characters that are dropped at its front, an absolute URL spells out the
name of a scheme, a colon, two slashes and an authority that is not empty; what
follows the authority starts with one of the characters that end it.
-/

namespace SchemaSheets

namespace Url

variable {text cs gap word rest : List Char} {c : Char}

/-- A character that is dropped before a URL. -/
def isDropped (c : Char) : Bool := Text.isBlank c || isControlOrSpace c

/-- No dropped character is printable ASCII. -/
theorem code_of_isDropped (h : isDropped c = true) : c.toNat ≤ 0x20 ∨ 0x85 ≤ c.toNat := by
  have hbounds : ∀ range ∈ Text.blankRanges, range.2 ≤ 0x20 ∨ 0x85 ≤ range.1 := by decide
  simp only [isDropped, isControlOrSpace, Text.isBlank, Text.inRanges, Bool.or_eq_true,
    List.any_eq_true, Bool.and_eq_true, decide_eq_true_eq] at h
  rcases h with ⟨range, hrange, hlow, hhigh⟩ | h
  · have hrange := hbounds range hrange
    omega
  · exact .inl h

theorem isBlank_of_isIgnored (h : isIgnored c = true) : Text.isBlank c = true := by
  simp only [isIgnored, Bool.or_eq_true, beq_iff_eq] at h
  rcases h with (rfl | rfl) | rfl <;> decide

/-- Tabs and line ends are blanks, so a text without inner blanks keeps all its characters. -/
theorem filter_isIgnored_eq_self (h : ∀ c ∈ cs, Text.isBlank c = false) :
    cs.filter (!isIgnored ·) = cs := by
  rw [List.filter_eq_self]
  intro c hc
  have hblank := h c hc
  cases hignored : isIgnored c with
  | false => rfl
  | true =>
    rw [isBlank_of_isIgnored hignored] at hblank
    contradiction

theorem eq_of_cut {sep : Char} (h : cut sep cs = (word, some rest)) : cs = word ++ sep :: rest := by
  rw [cut] at h
  split at h
  next => simp at h
  next c more hdrop =>
    simp only [Prod.mk.injEq, Option.some.injEq] at h
    obtain ⟨rfl, rfl⟩ := h
    have hsep : c = sep := by
      have hhead := List.head?_dropWhile_not (· != sep) cs
      simpa [hdrop] using hhead
    conv_lhs => rw [← List.takeWhile_append_dropWhile (p := (· != sep)) (l := cs), hdrop, hsep]

/-- The schemes to fetch from are written with letters, of either case. -/
theorem letters_of_scheme (h : word.map Words.toLower ∈ fetchSchemes) :
    ∀ c ∈ word, Words.isUpper c = true ∨ Words.isLower c = true := by
  have hall : (fetchSchemes.all fun scheme => scheme.all Words.isLower) = true := by decide
  simp only [List.all_eq_true] at hall
  intro c hc
  have hlower := hall _ h _ (List.mem_map_of_mem hc)
  rw [Words.toLower] at hlower
  split at hlower
  next hupper => exact .inl hupper
  next => exact .inr hlower

/-- A scheme that is not empty stands at the front, up to the case of its letters. -/
theorem eq_of_splitScheme {scheme : List Char} (h : splitScheme cs = (scheme, rest))
    (hscheme : scheme ≠ []) :
    ∃ word, cs = word ++ ':' :: rest ∧ word.map Words.toLower = scheme := by
  rw [splitScheme] at h
  split at h
  next front more hcut =>
    split at h
    · cases h
      exact ⟨front, eq_of_cut hcut, rfl⟩
    · cases h
      contradiction
  next =>
    cases h
    contradiction

/-- An authority that is not empty stands after two slashes, up to a character that ends it. -/
theorem eq_of_splitAuthority {authority : List Char} (h : splitAuthority cs = (authority, rest))
    (hauthority : authority ≠ []) :
    cs = '/' :: '/' :: (authority ++ rest) ∧ (∀ c ∈ authority, endsAuthority c = false) ∧
      ∀ c ∈ rest.head?, endsAuthority c = true := by
  unfold splitAuthority at h
  split at h
  next more =>
    cases h
    refine ⟨?_, fun c hc => ?_, fun c hc => ?_⟩
    · rw [List.takeWhile_append_dropWhile]
    · simpa using List.mem_takeWhile_imp hc
    · have hhead := List.head?_dropWhile_not (!endsAuthority ·) more
      rw [Option.mem_def.1 hc] at hhead
      simpa using hhead
  next =>
    cases h
    contradiction

theorem eq_of_split {parts : Parts} (h : split text = some parts) :
    ∃ rest rest', splitScheme ((text.dropWhile isControlOrSpace).filter (!isIgnored ·)) =
        (parts.scheme, rest) ∧
      splitAuthority rest = (parts.authority, rest') ∧ bracketsFit parts.authority = true := by
  simp only [split] at h
  split at h
  · contradiction
  next hfit =>
    split at h
    · contradiction
    · cases h
      exact ⟨_, _, rfl, rfl, by simpa using hfit⟩

/-- What is left of a text without the blanks around it, with what was taken away. -/
theorem trim_split (text : List Char) :
    ∃ front back, text = front ++ Text.trim text ++ back ∧ ∀ c ∈ front, Text.isBlank c = true := by
  obtain ⟨back, hback⟩ := List.rdropWhile_prefix Text.isBlank (text.dropWhile Text.isBlank)
  refine ⟨text.takeWhile Text.isBlank, back, ?_, fun c hc => List.mem_takeWhile_imp hc⟩
  have htrim : Text.trim text ++ back = text.dropWhile Text.isBlank := hback
  rw [List.append_assoc, htrim, List.takeWhile_append_dropWhile]

/-- Up to control characters and blanks at its front, a text is a URL with this scheme, as it is
written, and this authority. -/
def Spells (text scheme authority : List Char) : Prop :=
  ∃ gap rest, text = gap ++ (scheme ++ ':' :: '/' :: '/' :: (authority ++ rest)) ∧
    (∀ c ∈ gap, isControlOrSpace c = true) ∧ (∀ c ∈ authority, endsAuthority c = false) ∧
      ∀ c ∈ rest.head?, endsAuthority c = true

theorem spells_of_isAbsolute (h : isAbsolute text = true) :
    ∃ scheme authority, Spells (Text.trim text) scheme authority ∧
      scheme.map Words.toLower ∈ fetchSchemes ∧ authority ≠ [] ∧ bracketsFit authority = true := by
  simp only [isAbsolute, Bool.and_eq_true, Bool.not_eq_true', List.any_eq_false] at h
  obtain ⟨hinner, hparts⟩ := h
  split at hparts
  next parts hsplit =>
    simp only [Bool.and_eq_true, List.contains_iff_mem, Bool.not_eq_true', List.isEmpty_eq_false_iff]
      at hparts
    obtain ⟨hfetch, hne⟩ := hparts
    obtain ⟨rest, rest', hscheme, hauthority, hfit⟩ := eq_of_split hsplit
    rw [filter_isIgnored_eq_self fun c hc => by
      simpa using hinner c (List.dropWhile_subset _ hc)] at hscheme
    have hnamed : parts.scheme ≠ [] := by
      intro hempty
      rw [hempty] at hfetch
      revert hfetch
      decide
    obtain ⟨word, htext, hword⟩ := eq_of_splitScheme hscheme hnamed
    obtain ⟨hrest, hinside, hend⟩ := eq_of_splitAuthority hauthority hne
    refine ⟨word, parts.authority, ⟨(Text.trim text).takeWhile isControlOrSpace, rest', ?_,
      fun c hc => List.mem_takeWhile_imp hc, hinside, hend⟩, ?_, hne, hfit⟩
    · rw [← hrest, ← htext, List.takeWhile_append_dropWhile]
    · rw [hword]
      exact hfetch
  next => contradiction

/-- An absolute URL is dropped characters, the name of a scheme, a colon, and the rest. -/
theorem front_of_isAbsolute (h : isAbsolute text = true) :
    ∃ gap word rest, text = gap ++ (word ++ ':' :: rest) ∧ (∀ c ∈ gap, isDropped c = true) ∧
      word.map Words.toLower ∈ fetchSchemes := by
  obtain ⟨front, back, htext, hfront⟩ := trim_split text
  obtain ⟨word, authority, ⟨gap, rest, htrim, hgap, -, -⟩, hword, -, -⟩ := spells_of_isAbsolute h
  refine ⟨front ++ gap, word, '/' :: '/' :: (authority ++ rest) ++ back, ?_, fun c hc => ?_, hword⟩
  · calc text
      _ = front ++ Text.trim text ++ back := htext
      _ = _ := by simp [htrim]
  · rw [isDropped, Bool.or_eq_true]
    exact (List.mem_append.1 hc).imp (hfront c) (hgap c)

end Url

end SchemaSheets
