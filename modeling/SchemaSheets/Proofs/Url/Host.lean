import SchemaSheets.Proofs.Url.Front

/-!
# Hosts of absolute URLs

The authority of an absolute URL is not empty, but it need not name a host: it
can consist of userinfo, of a port, or of both.  It names one exactly if what
follows the userinfo neither is empty nor starts with a colon.
-/

namespace SchemaSheets.Url

variable {text scheme authority cs word rest : List Char} {sep : Char}

/-- The host and the port of an authority: what follows the last at sign. -/
def hostAndPort (authority : List Char) : List Char := (cutLast '@' authority).2

/-- The host in an authority: what stands in brackets, or else before the first colon. -/
def hostIn (authority : List Char) : List Char :=
  match cut '[' (hostAndPort authority) with
  | (_, some bracketed) => (cut ']' bracketed).1
  | (_, none) => (cut ':' (hostAndPort authority)).1

/-- The text is a URL to fetch from, with a host. -/
def NamesHost (text : List Char) : Prop :=
  ∃ scheme authority, Spells text scheme authority ∧ scheme.map Words.toLower ∈ fetchSchemes ∧
    hostIn authority ≠ []

/-! ### Cuts -/

theorem cut_append (hword : sep ∉ word) (rest : List Char) :
    cut sep (word ++ sep :: rest) = (word, some rest) := by
  have hne : ∀ c ∈ word, (c != sep) = true := fun c hc => by
    simpa using ne_of_mem_of_not_mem hc hword
  rw [cut, List.dropWhile_append_of_pos hne, List.takeWhile_append_of_pos hne]
  simp

theorem cut_ne_nil_iff : (cut sep cs).1 ≠ [] ↔ ∃ c rest, cs = c :: rest ∧ c ≠ sep := by
  cases cs with
  | nil => simp [cut]
  | cons c rest =>
    by_cases hc : c = sep
    · simp [cut, hc]
    · have hfirst : (cut sep (c :: rest)).1 ≠ [] := by
        rw [cut]
        split
        · exact List.cons_ne_nil c rest
        · simp [hc]
      simp [hfirst, hc]

theorem mem_of_mem_cut {c : Char} (h : c ∈ (cut sep cs).1) : c ∈ cs := by
  rw [cut] at h
  split at h
  · exact h
  · exact (List.takeWhile_sublist _).subset h

theorem mem_of_mem_cutLast {c : Char} (h : c ∈ (cutLast sep cs).2) : c ∈ cs := by
  have hback : (cutLast sep cs).2 = (cut sep cs.reverse).1.reverse := by
    rw [cutLast]
    split <;> simp only [*]
  rw [hback, List.mem_reverse] at h
  exact List.mem_reverse.1 (mem_of_mem_cut h)

/-! ### The authority is told by the text -/

theorem letter_bounds {c : Char} (h : Words.isUpper c = true ∨ Words.isLower c = true) :
    0x41 ≤ c.toNat := by
  rw [Words.isUpper_iff, Words.isLower_iff] at h
  omega

theorem splitScheme_append (h : scheme.map Words.toLower ∈ fetchSchemes) (rest : List Char) :
    splitScheme (scheme ++ ':' :: rest) = (scheme.map Words.toLower, rest) := by
  have hletters := letters_of_scheme h
  have hcolon : ':' ∉ scheme := by
    intro hmem
    rcases hletters _ hmem with hletter | hletter <;> revert hletter <;> decide
  have hscheme : isScheme scheme = true := by
    cases scheme with
    | nil => exact absurd h (by decide)
    | cons c word =>
      rw [isScheme, Bool.and_eq_true, Bool.or_eq_true, List.all_eq_true]
      refine ⟨hletters c List.mem_cons_self, fun d hd => ?_⟩
      have hletter := hletters d (List.mem_cons_of_mem c hd)
      simp only [isSchemeChar, Words.isWordChar, Bool.or_eq_true]
      exact .inl (.inl (.inl (.inl hletter)))
  rw [splitScheme, cut_append hcolon]
  simp only [hscheme, if_true]

theorem splitAuthority_append (hinside : ∀ c ∈ authority, endsAuthority c = false)
    (hend : ∀ c ∈ rest.head?, endsAuthority c = true) :
    splitAuthority ('/' :: '/' :: (authority ++ rest)) = (authority, rest) := by
  have hkeep : ∀ c ∈ authority, (!endsAuthority c) = true := fun c hc => by simp [hinside c hc]
  rw [splitAuthority, List.takeWhile_append_of_pos hkeep, List.dropWhile_append_of_pos hkeep]
  cases rest with
  | nil => simp
  | cons c rest => simp [hend c rfl]

theorem Spells.authority_eq (h : Spells text scheme authority)
    (hscheme : scheme.map Words.toLower ∈ fetchSchemes) :
    (splitAuthority (splitScheme (text.dropWhile isControlOrSpace)).2).1 = authority := by
  obtain ⟨gap, rest, rfl, hgap, hinside, hend⟩ := h
  have hstart : (scheme ++ ':' :: '/' :: '/' :: (authority ++ rest)).dropWhile isControlOrSpace =
      scheme ++ ':' :: '/' :: '/' :: (authority ++ rest) := by
    cases scheme with
    | nil => exact absurd hscheme (by decide)
    | cons c word =>
      have hcode := letter_bounds (letters_of_scheme hscheme c List.mem_cons_self)
      have hkept : isControlOrSpace c = false := by
        simp only [isControlOrSpace, decide_eq_false_iff_not]
        omega
      rw [List.cons_append, List.dropWhile_cons_of_neg (by simp [hkept])]
  rw [List.dropWhile_append_of_pos hgap, hstart, splitScheme_append hscheme,
    splitAuthority_append hinside hend]

/-! ### Hosts -/

/-- Nothing stands before a host in brackets, and an address is not empty. -/
theorem of_bracketsHoldAddress {before bracketed : List Char}
    (h : bracketsHoldAddress authority = true)
    (hcut : cut '[' (hostAndPort authority) = (before, some bracketed)) :
    before = [] ∧ (cut ']' bracketed).1 ≠ [] := by
  cases hlast : cutLast '@' authority with
  | mk userinfo after =>
    have hafter : hostAndPort authority = after := congrArg Prod.snd hlast
    rw [hafter] at hcut
    simp only [bracketsHoldAddress, hlast, hcut, Bool.and_eq_true, List.isEmpty_iff] at h
    refine ⟨h.1.1, fun hempty => ?_⟩
    have haddress := h.2
    rw [hempty] at haddress
    revert haddress
    decide

/-- Brackets hold an address, and with it a host; without them the host ends at the first colon. -/
theorem hostIn_ne_nil_iff (hfit : bracketsFit authority = true) :
    hostIn authority ≠ [] ↔ ∃ c rest, hostAndPort authority = c :: rest ∧ c ≠ ':' := by
  cases hcut : cut '[' (hostAndPort authority) with
  | mk before bracketed? =>
    cases bracketed? with
    | none =>
      have hhost : hostIn authority = (cut ':' (hostAndPort authority)).1 := by
        simp only [hostIn, hcut]
      rw [hhost, cut_ne_nil_iff]
    | some bracketed =>
      have hhost : hostIn authority = (cut ']' bracketed).1 := by
        simp only [hostIn, hcut]
      have heq := eq_of_cut hcut
      have hopens : authority.contains '[' = true := by
        rw [List.contains_iff_mem]
        have hmem : '[' ∈ hostAndPort authority := by simp [heq]
        exact mem_of_mem_cutLast hmem
      have hholds : bracketsHoldAddress authority = true := by
        simp only [bracketsFit, hopens, Bool.true_and, Bool.not_true, Bool.false_and] at hfit
        split at hfit
        · exact hfit
        · contradiction
      obtain ⟨hbefore, hne⟩ := of_bracketsHoldAddress hholds hcut
      rw [hbefore, List.nil_append] at heq
      rw [hhost]
      exact iff_of_true hne ⟨'[', bracketed, heq, by decide⟩

/-- An absolute URL is written with a scheme to fetch from and an authority that is not empty.  It
names a host exactly if what follows the userinfo neither is empty nor starts with a colon. -/
theorem isAbsolute_names_host_iff (h : isAbsolute text = true) :
    ∃ scheme authority, Spells (Text.trim text) scheme authority ∧
      scheme.map Words.toLower ∈ fetchSchemes ∧ authority ≠ [] ∧
        (NamesHost (Text.trim text) ↔ ∃ c rest, hostAndPort authority = c :: rest ∧ c ≠ ':') := by
  obtain ⟨scheme, authority, hspells, hscheme, hne, hfit⟩ := spells_of_isAbsolute h
  refine ⟨scheme, authority, hspells, hscheme, hne, ?_⟩
  rw [← hostIn_ne_nil_iff hfit]
  constructor
  · rintro ⟨scheme', authority', hspells', hscheme', hhost⟩
    have hsame : authority' = authority :=
      (hspells'.authority_eq hscheme').symm.trans (hspells.authority_eq hscheme)
    exact hsame ▸ hhost
  · exact fun hhost => ⟨scheme, authority, hspells, hscheme, hhost⟩

theorem isAbsolute_names_bracketed_host :
    let text := ("\t HTTPS" ++ "://me@[::1]:80/x ").toList
    isAbsolute text = true ∧ NamesHost (Text.trim text) := by
  intro text
  have habsolute : isAbsolute text = true := by decide +kernel
  obtain ⟨scheme, authority, hspells, hscheme, -, hiff⟩ := isAbsolute_names_host_iff habsolute
  have hauthority : authority = "me@[::1]:80".toList :=
    (hspells.authority_eq hscheme).symm.trans (by decide +kernel)
  have hafter : hostAndPort authority = '[' :: "::1]:80".toList := by
    rw [hauthority]
    decide +kernel
  exact ⟨habsolute, hiff.2 ⟨'[', _, hafter, by decide⟩⟩

/-- A port can stand for the whole authority. -/
theorem port_alone_names_no_host :
    let text := ("http" ++ "://:80").toList
    isAbsolute text = true ∧ ¬NamesHost (Text.trim text) := by
  intro text
  refine ⟨by decide +kernel, ?_⟩
  rintro ⟨scheme, authority, hspells, hscheme, hhost⟩
  have hauthority : authority = ":80".toList :=
    (hspells.authority_eq hscheme).symm.trans (by decide +kernel)
  rw [hauthority] at hhost
  exact hhost (by decide +kernel)

end SchemaSheets.Url
