import SchemaSheets.Proofs.Words.Passes

/-!
# Words in one pass

The words of a text are its runs of ASCII letters and digits, each cut at its
case boundaries and nowhere else.  So no word is empty or has a case boundary
inside, and the words one after the other are the letters and digits of the text.
-/

namespace SchemaSheets.Words

variable {c : Char} {cs rest run word : List Char} {words : List (List Char)}

/-! ### Runs -/

/-- The longest runs of letters and digits. -/
def runs (cs : List Char) : List (List Char) :=
  (cs.splitOnP (!isWordChar ·)).filter (!·.isEmpty)

/-- A run cut at its case boundaries. -/
def cutRun : List Char → List (List Char)
  | [] => []
  | a :: cs =>
    if cs.isEmpty || isBoundary (a :: cs) then [a] :: cutRun cs
    else (cutRun cs).modifyHead (a :: ·)

/-- The words of a text, found in one pass. -/
def tokens (cs : List Char) : List (List Char) := (runs cs).flatMap cutRun

/-- A text is a run, or a run and a character that belongs to no word are in front of a text. -/
theorem runs_induction {motive : List Char → Prop}
    (run : ∀ run, (∀ c ∈ run, isWordChar c = true) → motive run)
    (gap : ∀ run c rest, (∀ c ∈ run, isWordChar c = true) → isWordChar c = false → motive rest →
      motive (run ++ c :: rest)) (cs : List Char) : motive cs := by
  -- the run in front of the text grows until a character ends it
  have hbehind : ∀ run, (∀ c ∈ run, isWordChar c = true) → motive (run ++ cs) := by
    induction cs with
    | nil =>
      intro front hfront
      rw [List.append_nil]
      exact run front hfront
    | cons c rest ih =>
      intro front hfront
      cases hc : isWordChar c with
      | false => exact gap front c rest hfront hc (ih [] nofun)
      | true =>
        have hmore := ih (front ++ [c]) (List.forall_mem_append.2 ⟨hfront, by simpa using hc⟩)
        simpa using hmore
  exact hbehind [] nofun

theorem eq_nil_or_cutRun (run : List Char) :
    run = [] ∨ ∃ word words, cutRun run = word :: words := by
  induction run with
  | nil => exact .inl rfl
  | cons a cs ih =>
    right
    rw [cutRun]
    split
    next => exact ⟨[a], cutRun cs, rfl⟩
    next h =>
      have hne : cs ≠ [] := by
        rintro rfl
        simp at h
      obtain ⟨word, words, hwords⟩ := ih.resolve_left hne
      exact ⟨a :: word, words, by rw [hwords]; rfl⟩

/-- The first character is a word of its own if a word ends behind it, and else joins one. -/
theorem cutRun_cons (a : Char) (cs : List Char) :
    ((cs = [] ∨ isBoundary (a :: cs) = true) ∧ cutRun (a :: cs) = [a] :: cutRun cs) ∨
      ∃ word words, isBoundary (a :: cs) = false ∧ cutRun cs = word :: words ∧
        cutRun (a :: cs) = (a :: word) :: words := by
  rw [cutRun]
  split
  next h => exact .inl ⟨by simpa using h, rfl⟩
  next h =>
    simp only [Bool.or_eq_true, List.isEmpty_iff, not_or, Bool.not_eq_true] at h
    obtain ⟨word, words, hwords⟩ := (eq_nil_or_cutRun cs).resolve_left h.1
    exact .inr ⟨word, words, h.2, hwords, by rw [hwords]; rfl⟩

theorem runs_of_run (h : ∀ c ∈ run, isWordChar c = true) (hne : run ≠ []) : runs run = [run] := by
  rw [runs, List.splitOnP_eq_singleton fun c hc => by simp [h c hc]]
  simp [hne]

theorem runs_append (h : isWordChar c = false) (cs rest : List Char) :
    runs (cs ++ c :: rest) = runs cs ++ runs rest := by
  have hsep : (!isWordChar c) = true := by simp [h]
  have hsplit := List.splitOnP_append_cons (p := (!isWordChar ·)) cs rest hsep
  rw [runs, hsplit, List.filter_append, runs, runs]

theorem tokens_of_run (h : ∀ c ∈ run, isWordChar c = true) : tokens run = cutRun run := by
  cases run with
  | nil => rfl
  | cons a cs => rw [tokens, runs_of_run h (List.cons_ne_nil a cs), List.flatMap_singleton]

theorem tokens_append (h : isWordChar c = false) (cs rest : List Char) :
    tokens (cs ++ c :: rest) = tokens cs ++ tokens rest := by
  rw [tokens, runs_append h, List.flatMap_append, tokens, tokens]

/-! ### The passes, run by run -/

theorem blankBehind_append (h : isWordChar c = false) (cs rest : List Char) :
    blankBehind isBoundary (cs ++ c :: rest) =
      blankBehind isBoundary cs ++ c :: blankBehind isBoundary rest := by
  induction cs with
  | nil =>
    rw [List.nil_append, blankBehind_cons, isBoundary_gap h]
    rfl
  | cons a cs ih =>
    rw [List.cons_append, blankBehind_cons, isBoundary_append_gap h, ih, blankBehind_cons]
    split <;> rfl

theorem split_append (h : isWordChar c = false) (cs rest : List Char) :
    split (cs ++ c :: rest) = split cs ++ split rest := by
  have hblank : blankOut (c :: blankBehind isBoundary rest) =
      ' ' :: blankOut (blankBehind isBoundary rest) := by simp [blankOut, h]
  have happend : ∀ us vs, blankOut (us ++ vs) = blankOut us ++ blankOut vs :=
    fun us vs => List.map_append
  simp only [split, breakAcronym_breakCase]
  rw [blankBehind_append h, happend, hblank, pieces_append_blank]

theorem pieces_run (h : ∀ c ∈ run, isWordChar c = true) (hcut : cutRun run = word :: words)
    (piece : List Char) :
    pieces piece (blankOut (blankBehind isBoundary run)) = (piece.reverse ++ word) :: words := by
  induction run generalizing piece word words with
  | nil => simp [cutRun] at hcut
  | cons a cs ih =>
    obtain ⟨ha, hcs⟩ := List.forall_mem_cons.1 h
    have hout : ∀ us, blankOut (a :: us) = a :: blankOut us := by
      intro us
      simp [blankOut, ha]
    rw [blankBehind_cons, hout, pieces_cons_of_ne (ne_blank ha)]
    rcases cutRun_cons a cs with ⟨hend, hown⟩ | ⟨front, words', hb, hwords, hjoined⟩
    · obtain ⟨rfl, rfl⟩ := List.cons.inj (hown.symm.trans hcut)
      rcases hend with rfl | hb
      · simp [isBoundary_singleton, blankBehind, blankOut, pieces, cutRun]
      · have hblank : ∀ us, blankOut (' ' :: us) = ' ' :: blankOut us := fun us => rfl
        have hrest : pieces [] (blankOut (blankBehind isBoundary cs)) = cutRun cs := by
          rcases eq_nil_or_cutRun cs with rfl | ⟨front, words', hwords⟩
          · rfl
          · rw [hwords]
            exact ih hcs hwords []
        rw [if_pos hb, hblank, pieces_blank, hrest]
        simp [pieces]
    · obtain ⟨rfl, rfl⟩ := List.cons.inj (hjoined.symm.trans hcut)
      rw [if_neg (by simp [hb]), ih hcs hwords (a :: piece)]
      simp

theorem split_of_run (h : ∀ c ∈ run, isWordChar c = true) : split run = cutRun run := by
  rw [split, breakAcronym_breakCase]
  rcases eq_nil_or_cutRun run with rfl | ⟨word, words, hwords⟩
  · rfl
  · rw [hwords]
    exact pieces_run h hwords []

theorem split_eq_tokens (cs : List Char) : split cs = tokens cs := by
  induction cs using runs_induction with
  | run run h => rw [split_of_run h, tokens_of_run h]
  | gap run c rest h hc ih =>
    rw [split_append hc, tokens_append hc, ih, split_of_run h, tokens_of_run h]

/-! ### What words are -/

theorem flatten_cutRun (run : List Char) : (cutRun run).flatten = run := by
  induction run with
  | nil => rfl
  | cons a cs ih =>
    rcases cutRun_cons a cs with ⟨-, hcut⟩ | ⟨word, words, -, hwords, hcut⟩
    · rw [hcut, List.flatten_cons, ih]
      rfl
    · rw [hwords] at ih
      rw [hcut, ← ih]
      rfl

/-- No word ends inside. -/
def IsUnbroken (word : List Char) : Prop := ∀ back, back <:+ word → isBoundary back = false

theorem isUnbroken_singleton (a : Char) : IsUnbroken [a] := by
  intro back hback
  rcases List.suffix_cons_iff.1 hback with rfl | hnil
  · exact isBoundary_singleton a
  · rw [List.suffix_nil.1 hnil]
    rfl

theorem of_mem_cutRun (h : word ∈ cutRun run) : word ≠ [] ∧ IsUnbroken word := by
  induction run generalizing word with
  | nil => simp [cutRun] at h
  | cons a cs ih =>
    rcases cutRun_cons a cs with ⟨-, hcut⟩ | ⟨front, words, hb, hwords, hcut⟩
    · rw [hcut, List.mem_cons] at h
      rcases h with rfl | h
      · exact ⟨List.cons_ne_nil a [], isUnbroken_singleton a⟩
      · exact ih h
    · rw [hcut, List.mem_cons] at h
      rcases h with rfl | h
      · have hfront : front <+: cs := ⟨words.flatten, by
          rw [← flatten_cutRun cs, hwords, List.flatten_cons]⟩
        have hrest := (ih (hwords ▸ List.mem_cons_self)).2
        refine ⟨List.cons_ne_nil a front, fun back hback => ?_⟩
        rcases List.suffix_cons_iff.1 hback with rfl | hback
        · -- a boundary in the word would be one in the run
          rw [Bool.eq_false_iff]
          intro htrue
          have hrun := isBoundary_of_prefix (List.cons_prefix_cons.2 ⟨rfl, hfront⟩) htrue
          rw [hb] at hrun
          contradiction
        · exact hrest back hback
      · exact ih (hwords ▸ List.mem_cons_of_mem front h)

theorem of_mem_split (h : word ∈ split cs) : word ≠ [] ∧ IsUnbroken word := by
  rw [split_eq_tokens, tokens, List.mem_flatMap] at h
  obtain ⟨run, -, hword⟩ := h
  exact of_mem_cutRun hword

theorem flatten_split (cs : List Char) : (split cs).flatten = cs.filter isWordChar := by
  induction cs using runs_induction with
  | run run h => rw [split_of_run h, flatten_cutRun, List.filter_eq_self.2 h]
  | gap run c rest h hc ih =>
    rw [split_append hc, List.flatten_append, ih, split_of_run h, flatten_cutRun,
      List.filter_append, List.filter_eq_self.2 h, List.filter_cons_of_neg (by simp [hc])]

/-! ### The words of a text -/

theorem mem_ofText_iff {s word : String} : word ∈ ofText s ↔ word.toList ∈ split s.toList := by
  rw [ofText, List.mem_map]
  constructor
  · rintro ⟨cs, hcs, rfl⟩
    rwa [String.toList_ofList]
  · intro h
    exact ⟨word.toList, h, String.ofList_toList⟩

/-- The words that three replacements leave between blanks are the runs of letters and digits, cut
at the case boundaries.  No word is empty, none has a case boundary inside, and together they are
the letters and digits of the text. -/
theorem ofText_eq_tokens (s : String) :
    ofText s = (pieces [] (replaced s.toList)).map String.ofList ∧
      ofText s = (tokens s.toList).map String.ofList ∧
      (∀ word ∈ ofText s, word ≠ "" ∧ IsUnbroken word.toList) ∧
      String.join (ofText s) = String.ofList (s.toList.filter isWordChar) := by
  refine ⟨?_, ?_, fun word hword => ?_, ?_⟩
  · rw [ofText, split_eq_replaced]
  · rw [ofText, split_eq_tokens]
  · obtain ⟨hne, hunbroken⟩ := of_mem_split (mem_ofText_iff.1 hword)
    exact ⟨fun hempty => hne (by rw [hempty]; rfl), hunbroken⟩
  · have htexts : (ofText s).map String.toList = split s.toList := by
      simp [ofText, Function.comp_def]
    rw [← String.toList_inj, String.toList_join, String.toList_ofList, ← flatten_split, ← htexts]
    rfl

theorem ofText_eq_tokens_of_acronyms :
    ofText "HTTPServer2Go_v1" = ["HTTP", "Server2", "Go", "v1"] ∧
      "HTTP" ∈ ofText "HTTPServer2Go_v1" ∧ IsUnbroken "HTTP".toList := by
  obtain ⟨-, -, hwords, -⟩ := ofText_eq_tokens "HTTPServer2Go_v1"
  have hmem : "HTTP" ∈ ofText "HTTPServer2Go_v1" := by
    decide +kernel
  exact ⟨by decide +kernel, hmem, (hwords _ hmem).2⟩

end SchemaSheets.Words
