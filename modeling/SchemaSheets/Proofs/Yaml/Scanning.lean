import SchemaSheets.Proofs.Yaml.Plain
import SchemaSheets.Yaml.Layout

/-!
# Scanning blocks

What the scanner makes of a front of its text outside of flow collections: which tokens it takes
from there, where it goes on, and which blocks are open then.  The place in the stream matters just
for its column, so each rule holds at any index and line.
-/

namespace SchemaSheets.Yaml

namespace Scanner

variable {xs rest : List Char} {x y : Char} {i l c n fuel : Nat}
variable {s : Scanner} {ts : List Token} {indent around : Int} {outer : List Int} {level : Nat}
  {allow : Bool}  {keys : List KeyPlace} {out : List Token}

/-! ### Gaps -/

/-- Fuel for each character that is left is enough. -/
theorem toNextToken_fuel {fuel' : Nat} (h : s.cursor.rest.length < fuel)
    (h' : s.cursor.rest.length < fuel') : toNextToken fuel s = toNextToken fuel' s := by
  -- along the fuel: each line end that is passed leaves fewer characters
  induction fuel generalizing s fuel' with
  | zero => omega
  | succ fuel ih =>
    obtain ⟨fuel', rfl⟩ : ∃ n, fuel' = n + 1 := ⟨fuel' - 1, by omega⟩
    have hblanks : s.cursor.skipBlanks.rest.length ≤ s.cursor.rest.length := by
      rw [Cursor.skipBlanks, Cursor.skipWhile, Cursor.takeWhile, Cursor.length_skip]
      omega
    have hline (c : Cursor) : c.skipLine.rest.length ≤ c.rest.length := by
      rw [Cursor.skipLine, Cursor.skipWhile, Cursor.takeWhile, Cursor.length_skip]
      omega
    rw [toNextToken, toNextToken]
    generalize hc : (if s.cursor.skipBlanks.isAt '#' then s.cursor.skipBlanks.skipLine
      else s.cursor.skipBlanks) = c
    have hle : c.rest.length ≤ s.cursor.rest.length := by
      have hlineHere := hline s.cursor.skipBlanks
      split at hc <;> (subst hc; omega)
    cases hend : c.lineEnd? with
    | none => rfl
    | some e =>
      have hshorter := Cursor.length_lineEnd? hend
      have hleft : ∀ allow, ((s.moved e.2).allowing allow).cursor.rest.length = e.2.rest.length :=
        fun _ => rfl
      apply ih
      · rw [hleft]
        omega
      · rw [hleft]
        omega

theorem toNextToken_newline :
    toNextToken (fuel + 1) ⟨⟨'\n' :: rest, i, l, c⟩, ts, indent, outer, 0, allow, []⟩ =
      toNextToken fuel ⟨⟨rest, i + 1, l + 1, 0⟩, ts, indent, outer, 0, true, []⟩ := by
  cases allow <;> rfl

theorem toNextToken_comment (hxs : ∀ x ∈ xs, isLineEnd (some x) = false) :
    ∃ i', toNextToken (fuel + 1)
        ⟨⟨'#' :: xs ++ '\n' :: rest, i, l, c⟩, ts, indent, outer, 0, allow, []⟩ =
      toNextToken fuel ⟨⟨rest, i', l + 1, 0⟩, ts, indent, outer, 0, true, []⟩ := by
  have hline : ∀ x ∈ '#' :: xs, isLineEnd (some x) = false := by
    rintro x (_ | ⟨_, hx⟩)
    · rfl
    · exact hxs x hx
  obtain ⟨column, -, hskip⟩ := Cursor.skip_line hline ('\n' :: rest) i l c
  have hskipLine : Cursor.skipLine ⟨'#' :: xs ++ '\n' :: rest, i, l, c⟩ =
      ⟨'\n' :: rest, i + (xs.length + 1), l, column⟩ := by
    rw [Cursor.skipLine, Cursor.skipWhile, Cursor.takeWhile_append, hskip]
    · rfl
    · intro x hx
      rw [hline x hx]
      rfl
    · rintro x ⟨⟩
      decide
  refine ⟨i + (xs.length + 1) + 1, ?_⟩
  have hblanks : Cursor.skipBlanks ⟨'#' :: xs ++ '\n' :: rest, i, l, c⟩ =
      ⟨'#' :: xs ++ '\n' :: rest, i, l, c⟩ := rfl
  have hhash : Cursor.isAt ⟨'#' :: xs ++ '\n' :: rest, i, l, c⟩ '#' = true := rfl
  rw [toNextToken]
  simp only [hblanks, hhash, if_true, hskipLine]
  cases allow <;> rfl

theorem toNextToken_blanks (hx : StartsToken x) :
    toNextToken (fuel + 1)
        ⟨⟨List.replicate n ' ' ++ x :: rest, i, l, c⟩, ts, indent, outer, level, allow, keys⟩ =
      ⟨⟨x :: rest, i + n, l, c + n⟩, ts, indent, outer, level, allow, keys⟩ := by
  have hword : ∀ y ∈ List.replicate n ' ', isLineEnd (some y) = false ∧ y ≠ '\uFEFF' := by
    intro y hy
    rw [List.eq_of_mem_replicate hy]
    decide
  have hskip := Cursor.skip_word hword (x :: rest) i l c
  rw [List.length_replicate] at hskip
  have hblanks : Cursor.skipBlanks ⟨List.replicate n ' ' ++ x :: rest, i, l, c⟩ =
      ⟨x :: rest, i + n, l, c + n⟩ := by
    rw [Cursor.skipBlanks, Cursor.skipWhile, Cursor.takeWhile_append, List.length_replicate]
    · exact hskip
    · intro y hy
      rw [List.eq_of_mem_replicate hy]
      rfl
    · rintro y ⟨⟩
      simpa using ne_blank_of_isGap hx.filled
  have hhash : Cursor.isAt ⟨x :: rest, i + n, l, c + n⟩ '#' = false := by
    simpa [Cursor.isAt, Cursor.peek] using hx.no_comment
  rw [toNextToken]
  simp only [hblanks, hhash, Bool.false_eq_true, if_false,
    Cursor.lineEnd?_eq_none (isLineEnd_of_isGap hx.filled)]
  rfl

theorem toNextToken_stays (hx : StartsToken x) :
    toNextToken (fuel + 1) ⟨⟨x :: rest, i, l, c⟩, ts, indent, outer, level, allow, keys⟩ =
      ⟨⟨x :: rest, i, l, c⟩, ts, indent, outer, level, allow, keys⟩ := by
  have hnone : toNextToken (fuel + 1)
      ⟨⟨List.replicate 0 ' ' ++ x :: rest, i, l, c⟩, ts, indent, outer, level, allow, keys⟩ =
        ⟨⟨x :: rest, i + 0, l, c + 0⟩, ts, indent, outer, level, allow, keys⟩ :=
    toNextToken_blanks hx
  exact hnone

/-! ### Single steps -/

theorem closeTo_of_le {column : Int} (h : s.indent ≤ column) (outer : List Int) :
    closeTo column outer s = s := by
  cases outer with
  | nil => rfl
  | cons around outer =>
    rw [closeTo, if_neg]
    omega

/-- In the column of the innermost block or to its right, what starts with a character is read. -/
theorem advance_eq_tokenAt (hx : StartsToken x) (hc : indent ≤ c)
    (hkeys : dropStale ⟨⟨x :: rest, i, l, c⟩, ts, indent, outer, level, allow, keys⟩ =
      .ok ⟨⟨x :: rest, i, l, c⟩, ts, indent, outer, level, allow, keys⟩) :
    advance ⟨⟨x :: rest, i, l, c⟩, ts, indent, outer, level, allow, keys⟩ =
      (tokenAt x ⟨⟨x :: rest, i, l, c⟩, ts, indent, outer, level, allow, keys⟩).map (·, false) := by
  have hunwind : unwind c ⟨⟨x :: rest, i, l, c⟩, ts, indent, outer, level, allow, keys⟩ =
      ⟨⟨x :: rest, i, l, c⟩, ts, indent, outer, level, allow, keys⟩ := by
    rw [unwind, closeTo_of_le hc, ite_self]
  rw [advance, toNextToken_stays hx, hkeys]
  simp only [bind, Except.bind, hunwind]
  rfl

theorem dropStale_nil (cursor : Cursor) : dropStale ⟨cursor, ts, indent, outer, level, allow, []⟩ =
    .ok ⟨cursor, ts, indent, outer, level, allow, []⟩ := rfl

/-! ### Plain texts -/

/-- A character that starts a plain text, whatever follows it. -/
structure StartsPlain (x : Char) : Prop where
  filled : isGap (some x) = false
  unmarked : x ∉ '.' :: marks

theorem StartsPlain.token (h : StartsPlain x) : StartsToken x where
  filled := h.filled
  no_comment := by
    rintro rfl
    exact h.unmarked (by decide)

theorem StartsPlain.of_isAlpha (h : x.isAlpha = true) : StartsPlain x where
  filled := by
    rw [Bool.eq_false_iff]
    intro hgap
    simp only [isGap, isBreak, Bool.or_eq_true, beq_iff_eq] at hgap
    rcases hgap with (((rfl | rfl) | rfl) | rfl) | ((rfl | rfl) | rfl) | rfl <;> cases h
  unmarked := by
    have hmarks : ∀ mark ∈ '.' :: marks, mark.isAlpha = false := by decide
    intro hmem
    rw [hmarks x hmem] at h
    cases h

theorem tokenAt_eq_plain (hx : StartsPlain x) (hrest : s.cursor.rest = x :: rest) :
    tokenAt x s = s.plain := by
  have hunmarked : x ∉ marks := fun h => hx.unmarked (List.mem_cons_of_mem _ h)
  have hne : ∀ y ∈ '.' :: marks, x ≠ y := by
    rintro y hy rfl
    exact hx.unmarked hy
  have hmark : ∀ mark ∈ '.' :: marks, s.cursor.atMark mark = false := by
    intro mark hmem
    simp [Cursor.atMark, hrest, hne mark hmem]
  have hstarts : startsPlain s.inFlow x (s.cursor.ahead 1) = true := by
    simp [startsPlain, hx.filled, hunmarked]
  have hdash := hmark '-' (by decide)
  have hpoint := hmark '.' (by decide)
  simp only [marks, List.forall_mem_cons] at hne
  simp [tokenAt, hne, hdash, hpoint, hstarts]

theorem saveKey_nil (cursor : Cursor) :
    saveKey ⟨cursor, ts, indent, outer, 0, allow, []⟩ =
      .ok ⟨cursor, ts, indent, outer, 0, allow,
        if allow then [⟨0, ts.length, indent == cursor.column, cursor.index, cursor.line,
          cursor.column⟩] else []⟩ := by
  cases allow <;> rfl

theorem plain_eq (cursor : Cursor) :
    plain ⟨cursor, ts, indent, outer, 0, allow, []⟩ =
      .ok ⟨(plainText false indent cursor).2,
        .text true (String.ofList (plainText false indent cursor).1.1) :: ts, indent, outer, 0,
        (plainText false indent cursor).1.2,
        if allow then [⟨0, ts.length, indent == cursor.column, cursor.index, cursor.line,
          cursor.column⟩] else []⟩ := by
  rw [plain, saveKey_nil]
  rfl

/-! ### Scanning from a front -/

/-- At this front of the text, in this column, the stream gives these tokens in all. -/
def Scans (allow : Bool) (c : Nat) (indent : Int) (outer : List Int) (ts : List Token)
    (rest : List Char) (out : List Token) : Prop :=
  ∀ i l fuel, rest.length < fuel →
    run fuel ⟨⟨rest, i, l, c⟩, ts, indent, outer, 0, allow, []⟩ = out

theorem run_eq_of_advance {s s' : Scanner} (h : s.advance = s'.advance) (hts : s.tokens = s'.tokens)
    (n : Nat) : run (n + 1) s = run (n + 1) s' := by
  rw [run, run, h, hts]

theorem run_of_advance {s s' : Scanner} (h : s.advance = .ok (s', false)) (n : Nat) :
    run (n + 1) s = run n s' := by
  rw [run, h]

theorem Scans.newline (h : Scans true 0 indent outer ts rest out) :
    Scans allow c indent outer ts ('\n' :: rest) out := by
  intro i l fuel hfuel
  rw [List.length_cons] at hfuel
  obtain ⟨n, rfl⟩ : ∃ n, fuel = n + 1 := ⟨fuel - 1, by omega⟩
  rw [← h (i + 1) (l + 1) (n + 1) (by omega)]
  apply run_eq_of_advance
  · rw [advance, advance]
    simp only [List.length_cons, toNextToken_newline]
  · rfl

theorem Scans.comment (hxs : ∀ x ∈ xs, isLineEnd (some x) = false)
    (h : Scans true 0 indent outer ts rest out) :
    Scans allow c indent outer ts ('#' :: xs ++ '\n' :: rest) out := by
  intro i l fuel hfuel
  obtain ⟨n, rfl⟩ : ∃ n, fuel = n + 1 := ⟨fuel - 1, by omega⟩
  have hlength : ('#' :: xs ++ '\n' :: rest).length = xs.length + rest.length + 1 + 1 := by
    rw [List.length_append, List.length_cons, List.length_cons]
    omega
  obtain ⟨i', hnext⟩ : ∃ i', toNextToken (xs.length + rest.length + 1 + 1 + 1)
      ⟨⟨'#' :: xs ++ '\n' :: rest, i, l, c⟩, ts, indent, outer, 0, allow, []⟩ = _ :=
    toNextToken_comment hxs
  have hsame : toNextToken (xs.length + rest.length + 1 + 1)
      ⟨⟨rest, i', l + 1, 0⟩, ts, indent, outer, 0, true, []⟩ =
        toNextToken (rest.length + 1) ⟨⟨rest, i', l + 1, 0⟩, ts, indent, outer, 0, true, []⟩ := by
    apply toNextToken_fuel
    · dsimp only
      omega
    · dsimp only
      omega
  rw [← h i' (l + 1) (n + 1) (by omega)]
  apply run_eq_of_advance
  · rw [advance, advance]
    dsimp only
    rw [hlength, hnext, hsame]
  · rfl

theorem Scans.blanks (hx : StartsToken x)
    (h : Scans allow (c + n) indent outer ts (x :: rest) out) :
    Scans allow c indent outer ts (List.replicate n ' ' ++ x :: rest) out := by
  intro i l fuel hfuel
  rw [List.length_append] at hfuel
  obtain ⟨m, rfl⟩ : ∃ m, fuel = m + 1 := ⟨fuel - 1, by omega⟩
  rw [← h (i + n) l (m + 1) (by omega)]
  apply run_eq_of_advance
  · rw [advance, advance, toNextToken_blanks hx, toNextToken_stays hx]
  · rfl

theorem Scans.blank (hx : StartsToken x) (h : Scans allow (c + 1) indent outer ts (x :: rest) out) :
    Scans allow c indent outer ts (' ' :: x :: rest) out := by
  have hone : Scans allow c indent outer ts (List.replicate 1 ' ' ++ x :: rest) out := h.blanks hx
  exact hone

theorem closeTo_shape (column : Int) (outer : List Int) (cursor : Cursor) (ts : List Token)
    (indent : Int) (outer' : List Int) :
    ∃ ts' indent' outer'', closeTo column outer ⟨cursor, ts, indent, outer', 0, allow, keys⟩ =
      ⟨cursor, ts', indent', outer'', 0, allow, keys⟩ := by
  induction outer generalizing ts indent outer' with
  | nil => exact ⟨ts, indent, outer', rfl⟩
  | cons around outer ih =>
    rw [closeTo]
    split
    · exact ih (.blockEnd :: ts) around outer
    · exact ⟨ts, indent, outer', rfl⟩

/-- Left of the innermost block that block is closed.  Here the token that follows must not be
faulty, since nothing is closed before a fault. -/
theorem Scans.dedent (hx : StartsPlain x) (hc : (c : Int) < indent)
    (h : Scans allow c around outer (.blockEnd :: ts) (x :: rest) out) :
    Scans allow c indent (around :: outer) ts (x :: rest) out := by
  intro i l fuel hfuel
  obtain ⟨m, rfl⟩ : ∃ m, fuel = m + 1 := ⟨fuel - 1, by omega⟩
  rw [← h i l (m + 1) hfuel]
  have hadvance : advance ⟨⟨x :: rest, i, l, c⟩, ts, indent, around :: outer, 0, allow, []⟩ =
      advance ⟨⟨x :: rest, i, l, c⟩, .blockEnd :: ts, around, outer, 0, allow, []⟩ := by
    rw [advance, advance, toNextToken_stays hx.token, toNextToken_stays hx.token, dropStale_nil,
      dropStale_nil]
    simp only [bind, Except.bind, unwind, inFlow, closeTo, if_pos hc]
    rfl
  -- whichever blocks are closed after this one, a plain text is read behind them
  obtain ⟨ts', indent', outer', hclosed⟩ : ∃ ts' indent' outer', closeTo c outer
      ⟨⟨x :: rest, i, l, c⟩, .blockEnd :: ts, around, outer, 0, allow, []⟩ =
        ⟨⟨x :: rest, i, l, c⟩, ts', indent', outer', 0, allow, []⟩ := closeTo_shape ..
  obtain ⟨s', hs'⟩ : ∃ s', advance
      ⟨⟨x :: rest, i, l, c⟩, .blockEnd :: ts, around, outer, 0, allow, []⟩ = .ok (s', false) := by
    have hplain : tokenAt x ⟨⟨x :: rest, i, l, c⟩, ts', indent', outer', 0, allow, []⟩ = .ok _ :=
      (tokenAt_eq_plain hx rfl).trans (plain_eq _)
    rw [advance, toNextToken_stays hx.token, dropStale_nil]
    simp only [bind, Except.bind, unwind, inFlow, bne_self_eq_false, Bool.false_eq_true, if_false,
      hclosed]
    simp only [Cursor.peek, List.head?_cons, hplain]
    exact ⟨_, rfl⟩
  rw [run_of_advance hs', run_of_advance (hadvance.trans hs')]

/-- A word that may stand as a key. -/
structure IsKey (word : List Char) : Prop where
  starts : ∃ x ∈ word.head?, StartsPlain x
  filled : ∀ x ∈ word, isGap (some x) = false ∧ x ≠ '\uFEFF'
  short : word.length ≤ keyLimit

theorem IsKey.of_isAlpha {word : List Char} (hne : word ≠ []) (h : ∀ x ∈ word, x.isAlpha = true)
    (hshort : word.length ≤ keyLimit) : IsKey word where
  starts := by
    obtain ⟨x, xs, rfl⟩ := List.exists_cons_of_ne_nil hne
    exact ⟨x, rfl, .of_isAlpha (h x List.mem_cons_self)⟩
  filled := by
    intro x hx
    refine ⟨(StartsPlain.of_isAlpha (h x hx)).filled, ?_⟩
    rintro rfl
    cases h _ hx
  short := hshort

theorem IsKey.isRun {word : List Char} (h : IsKey word) (hy : isGap (some y) = true)
    (rest : List Char) : IsRun word (':' :: y :: rest) := by
  obtain ⟨x, hx, hstarts⟩ := h.starts
  constructor
  · rintro rfl
    cases hx
  · exact fun y hy => (h.filled y hy).1
  · intro _
    rfl
  · rw [Option.mem_def.1 hx]
    intro hhash
    exact hstarts.token.no_comment (Option.some.inj hhash)
  · rintro x ⟨⟩
    simp [endsPlain, hy]

theorem IsKey.length_pos {word : List Char} (h : IsKey word) : 0 < word.length := by
  obtain ⟨x, hx, -⟩ := h.starts
  exact List.length_pos_of_mem (List.mem_of_mem_head? hx)

theorem advance_key {word : List Char} (h : IsKey word) (hy : isGap (some y) = true)
    (hc : indent ≤ c) (rest : List Char) (i l : Nat) :
    advance ⟨⟨word ++ ':' :: y :: rest, i, l, c⟩, ts, indent, outer, 0, true, []⟩ =
      .ok (⟨⟨':' :: y :: rest, i + word.length, l, c + word.length⟩,
        .text true (String.ofList word) :: ts, indent, outer, 0, false,
        [⟨0, ts.length, indent == (c : Int), i, l, c⟩]⟩, false) := by
  obtain ⟨x, hx, hstarts⟩ := h.starts
  obtain ⟨xs, rfl⟩ := List.head?_eq_some_iff.1 hx
  have hskip : Cursor.skip ⟨x :: xs ++ ':' :: y :: rest, i, l, c⟩ (x :: xs).length =
      ⟨':' :: y :: rest, i + (x :: xs).length, l, c + (x :: xs).length⟩ := by
    apply Cursor.skip_word
    intro z hz
    exact ⟨isLineEnd_of_isGap (h.filled z hz).1, (h.filled z hz).2⟩
  rw [List.cons_append, advance_eq_tokenAt hstarts.token hc (dropStale_nil _),
    tokenAt_eq_plain hstarts rfl, plain_eq, ← List.cons_append,
    plainText_colon (h.isRun hy rest) hskip]
  rfl

theorem tokenAt_colon (hy : isGap (some y) = true) (hrest : s.cursor.rest = ':' :: y :: rest) :
    tokenAt ':' s = s.value := by
  have hmark : ∀ mark ∈ ['-', '.'], s.cursor.atMark mark = false := by
    intro mark hmem
    simp only [List.mem_cons, List.not_mem_nil, or_false] at hmem
    rcases hmem with rfl | rfl <;> simp [Cursor.atMark, hrest]
  have hdash := hmark '-' (by decide)
  have hpoint := hmark '.' (by decide)
  have hafter : s.cursor.ahead 1 = some y := by
    rw [Cursor.ahead, hrest]
    rfl
  simp [tokenAt, hdash, hpoint, hafter, hy]

theorem startsToken_colon : StartsToken ':' := ⟨by decide, by decide⟩

/-- The colon behind a key on its line. -/
theorem advance_colon (hy : isGap (some y) = true) {number index column : Nat} {required : Bool}
    (hindex : i - index ≤ keyLimit) (hc : indent ≤ c) :
    advance ⟨⟨':' :: y :: rest, i, l, c⟩, ts, indent, outer, 0, false,
        [⟨0, number, required, index, l, column⟩]⟩ =
      .ok (take .value 1 ((withKeyAt ⟨0, number, required, index, l, column⟩
        ⟨⟨':' :: y :: rest, i, l, c⟩, ts, indent, outer, 0, false, []⟩).allowing false),
        false) := by
  have hfresh : decide (keyLimit < i - index) = false := by
    rw [decide_eq_false_iff_not]
    omega
  have hkeys : dropStale ⟨⟨':' :: y :: rest, i, l, c⟩, ts, indent, outer, 0, false,
      [⟨0, number, required, index, l, column⟩]⟩ = .ok ⟨⟨':' :: y :: rest, i, l, c⟩, ts, indent,
        outer, 0, false, [⟨0, number, required, index, l, column⟩]⟩ := by
    simp only [dropStale, bne_self_eq_false, hfresh, Bool.or_false, List.any_cons, Bool.false_and,
      List.any_nil, Bool.false_eq_true, if_false, Bool.not_false, List.filter_cons, if_true,
      List.filter_nil]
  rw [advance_eq_tokenAt startsToken_colon hc hkeys, tokenAt_colon hy rfl]
  rfl

theorem withKeyAt_opens (cursor : Cursor) (t : Token) (required : Bool) (hc : indent < c) :
    withKeyAt ⟨0, ts.length, required, i, l, c⟩ ⟨cursor, t :: ts, indent, outer, 0, allow, []⟩ =
      ⟨cursor, t :: .key :: .blockMapping :: ts, c, indent :: outer, 0, allow, []⟩ := by
  have hopens : opensBlock ⟨cursor, t :: ts, indent, outer, 0, allow, []⟩ c = true :=
    decide_eq_true hc
  simp [withKeyAt, inFlow, hopens, entered]

theorem withKeyAt_stays (cursor : Cursor) (t : Token) (required : Bool) (hc : ¬indent < c) :
    withKeyAt ⟨0, ts.length, required, i, l, c⟩ ⟨cursor, t :: ts, indent, outer, 0, allow, []⟩ =
      ⟨cursor, t :: .key :: ts, indent, outer, 0, allow, []⟩ := by
  have hopens : opensBlock ⟨cursor, t :: ts, indent, outer, 0, allow, []⟩ c = false :=
    decide_eq_false hc
  simp [withKeyAt, inFlow, hopens]

theorem run_key {word : List Char} (h : IsKey word) (hy : isGap (some y) = true) (hc : indent ≤ c)
    (rest : List Char) (i l n : Nat) :
    run (n + 2) ⟨⟨word ++ ':' :: y :: rest, i, l, c⟩, ts, indent, outer, 0, true, []⟩ =
      run n (take .value 1 ((withKeyAt ⟨0, ts.length, indent == (c : Int), i, l, c⟩
        ⟨⟨':' :: y :: rest, i + word.length, l, c + word.length⟩,
          .text true (String.ofList word) :: ts, indent, outer, 0, false,
          []⟩).allowing false)) := by
  have hshort : i + word.length - i ≤ keyLimit := by
    have hlimit := h.short
    omega
  have hcolumn : indent ≤ ((c + word.length : Nat) : Int) := by omega
  rw [run_of_advance (advance_key h hy hc rest i l),
    run_of_advance (advance_colon hy hshort hcolumn)]

/-- A key to the right of the innermost block opens a mapping. -/
theorem Scans.key_opens {word : List Char} (hword : IsKey word) (hy : isGap (some y) = true)
    (hc : indent < c)
    (h : Scans false (c + word.length + 1) c (indent :: outer)
      (.value :: .text true (String.ofList word) :: .key :: .blockMapping :: ts) (y :: rest) out) :
    Scans true c indent outer ts (word ++ ':' :: y :: rest) out := by
  intro i l fuel hfuel
  have hpos := hword.length_pos
  rw [List.length_append, List.length_cons, List.length_cons] at hfuel
  obtain ⟨n, rfl⟩ : ∃ n, fuel = n + 2 := ⟨fuel - 2, by omega⟩
  rw [run_key hword hy (by omega), withKeyAt_opens _ _ _ hc,
    ← h (i + word.length + 1) l n (by rw [List.length_cons]; omega)]
  rfl

/-- A key in the column of the innermost block belongs to it. -/
theorem Scans.key_stays {word : List Char} (hword : IsKey word) (hy : isGap (some y) = true)
    (h : Scans false (c + word.length + 1) c outer
      (.value :: .text true (String.ofList word) :: .key :: ts) (y :: rest) out) :
    Scans true c c outer ts (word ++ ':' :: y :: rest) out := by
  intro i l fuel hfuel
  have hpos := hword.length_pos
  rw [List.length_append, List.length_cons, List.length_cons] at hfuel
  obtain ⟨n, rfl⟩ : ∃ n, fuel = n + 2 := ⟨fuel - 2, by omega⟩
  rw [run_key hword hy (by omega), withKeyAt_stays _ _ _ (by omega),
    ← h (i + word.length + 1) l n (by rw [List.length_cons]; omega)]
  rfl

/-- The hyphen of an item to the right of the innermost block opens a sequence. -/
theorem Scans.item (hy : isGap (some y) = true) (hc : indent < c)
    (h : Scans true (c + 1) c (indent :: outer) (.item :: .blockSequence :: ts) (y :: rest) out) :
    Scans true c indent outer ts ('-' :: y :: rest) out := by
  intro i l fuel hfuel
  rw [List.length_cons] at hfuel
  obtain ⟨n, rfl⟩ : ∃ n, fuel = n + 1 := ⟨fuel - 1, by omega⟩
  have hdash : StartsToken '-' := ⟨by decide, by decide⟩
  have hmark : Cursor.atMark ⟨'-' :: y :: rest, i, l, c⟩ '-' = false := by
    have hne : y ≠ '-' := by
      rintro rfl
      cases hy
    simp [Cursor.atMark, hne]
  have hpoint : Cursor.atMark ⟨'-' :: y :: rest, i, l, c⟩ '.' = false := by
    simp [Cursor.atMark]
  have htoken : tokenAt '-' ⟨⟨'-' :: y :: rest, i, l, c⟩, ts, indent, outer, 0, true, []⟩ =
      Scanner.item ⟨⟨'-' :: y :: rest, i, l, c⟩, ts, indent, outer, 0, true, []⟩ := by
    have hafter : Cursor.ahead ⟨'-' :: y :: rest, i, l, c⟩ 1 = some y := rfl
    simp [tokenAt, hmark, hpoint, hafter, hy]
  have hopens : opensBlock ⟨⟨'-' :: y :: rest, i, l, c⟩, ts, indent, outer, 0, true, []⟩ c = true :=
    decide_eq_true hc
  have hitem : Scanner.item ⟨⟨'-' :: y :: rest, i, l, c⟩, ts, indent, outer, 0, true, []⟩ =
      .ok ⟨⟨y :: rest, i + 1, l, c + 1⟩, .item :: .blockSequence :: ts, c, indent :: outer, 0, true,
        []⟩ := by
    simp only [Scanner.item, openFor, openBlock, hopens]
    rfl
  have hadvance : advance ⟨⟨'-' :: y :: rest, i, l, c⟩, ts, indent, outer, 0, true, []⟩ = .ok
      (⟨⟨y :: rest, i + 1, l, c + 1⟩, .item :: .blockSequence :: ts, c, indent :: outer, 0, true,
        []⟩, false) := by
    rw [advance_eq_tokenAt hdash (Int.le_of_lt hc) (dropStale_nil _), htoken, hitem]
    rfl
  rw [run_of_advance hadvance]
  exact h (i + 1) l n (by rw [List.length_cons] at hfuel ⊢; omega)

/-- The marks around a flow collection with their tokens. -/
inductive FlowMarks : Char → Token → Char → Token → Prop where
  | sequence : FlowMarks '[' .flowSequence ']' .flowSequenceEnd
  | mapping : FlowMarks '\x7b' .flowMapping '\x7d' .flowMappingEnd

theorem FlowMarks.startsTokens {o e : Char} {start stop : Token} (h : FlowMarks o start e stop) :
    StartsToken o ∧ StartsToken e := by
  cases h with
  | sequence => exact ⟨⟨by decide, by decide⟩, by decide, by decide⟩
  | mapping => exact ⟨⟨by decide, by decide⟩, by decide, by decide⟩

theorem FlowMarks.tokenAt_open {o e : Char} {start stop : Token} (h : FlowMarks o start e stop)
    (hrest : s.cursor.rest = o :: rest) : tokenAt o s = s.openFlow start := by
  cases h with
  | sequence => simp [tokenAt, Cursor.atMark, hrest]
  | mapping => simp [tokenAt, Cursor.atMark, hrest]

theorem FlowMarks.tokenAt_close {o e : Char} {start stop : Token} (h : FlowMarks o start e stop)
    (hrest : s.cursor.rest = e :: rest) : tokenAt e s = s.closeFlow stop := by
  cases h with
  | sequence => simp [tokenAt, Cursor.atMark, hrest]
  | mapping => simp [tokenAt, Cursor.atMark, hrest]

/-- A flow collection with nothing in it. -/
theorem Scans.emptyFlow {o e : Char} {start stop : Token} (hmarks : FlowMarks o start e stop)
    (hc : indent ≤ c) (h : Scans false (c + 2) indent outer (stop :: start :: ts) rest out) :
    Scans false c indent outer ts (o :: e :: rest) out := by
  intro i l fuel hfuel
  rw [List.length_cons, List.length_cons] at hfuel
  obtain ⟨n, rfl⟩ : ∃ n, fuel = n + 2 := ⟨fuel - 2, by omega⟩
  obtain ⟨ho, he⟩ := hmarks.startsTokens
  have hopen : advance ⟨⟨o :: e :: rest, i, l, c⟩, ts, indent, outer, 0, false, []⟩ =
      .ok (⟨⟨e :: rest, i + 1, l, c + 1⟩, start :: ts, indent, outer, 1, true, []⟩, false) := by
    rw [advance_eq_tokenAt ho hc (dropStale_nil _), hmarks.tokenAt_open rfl]
    cases hmarks <;> rfl
  have hclose : advance ⟨⟨e :: rest, i + 1, l, c + 1⟩, start :: ts, indent, outer, 1, true, []⟩ =
      .ok (⟨⟨rest, i + 2, l, c + 2⟩, stop :: start :: ts, indent, outer, 0, false, []⟩, false) := by
    have hnext : indent ≤ ((c + 1 : Nat) : Int) := by omega
    rw [advance_eq_tokenAt he hnext (dropStale_nil _), hmarks.tokenAt_close rfl]
    cases hmarks <;> rfl
  rw [run_of_advance hopen, run_of_advance hclose]
  exact h (i + 2) l n (by omega)

/-- A plain text that is no key, up to the end of its line. -/
theorem Scans.plain {xs : List Char} (hxs : IsLine (x :: xs)) (hx : StartsPlain x)
    (hy : StartsToken y) (hc : indent < c) (hcolumn : ((n + 1 : Nat) : Int) ≤ indent)
    (h : Scans true (n + 1) indent outer (.text true (String.ofList (x :: xs)) :: ts) (y :: rest)
      out) :
    Scans false c indent outer ts
      (x :: xs ++ '\n' :: (List.replicate (n + 1) ' ' ++ y :: rest)) out := by
  intro i l fuel hfuel
  have hlength : (x :: xs ++ '\n' :: (List.replicate (n + 1) ' ' ++ y :: rest)).length =
      (x :: xs).length + n + (y :: rest).length + 2 := by
    simp only [List.length_append, List.length_cons, List.length_replicate]
    omega
  rw [hlength] at hfuel
  obtain ⟨m, rfl⟩ : ∃ m, fuel = m + 1 := ⟨fuel - 1, by omega⟩
  have hle : indent ≤ c := Int.le_of_lt hc
  have hleft : ((n + 1 : Nat) : Int) < indent + 1 := by omega
  have hright : indent + 1 ≤ c := by omega
  obtain ⟨i', hbody⟩ : ∃ i', plainBody false (indent + 1)
      ((x :: xs).length + n + (y :: rest).length + 2 + 1) false [] []
      ⟨x :: xs ++ '\n' :: (List.replicate (n + 1) ' ' ++ y :: rest), i, l, c⟩ =
        (([] ++ [] ++ (x :: xs), true), ⟨y :: rest, i', l + 1, n + 1⟩) :=
    plainBody_line hxs hy hleft hright (by omega) false [] [] i
  rw [← h i' (l + 1) m (by omega)]
  apply run_of_advance
  rw [List.cons_append, advance_eq_tokenAt hx.token hle (dropStale_nil _),
    tokenAt_eq_plain hx rfl, plain_eq, ← List.cons_append, plainText, hlength, hbody]
  rfl

/-- A colon before a gap where no key may begin. -/
theorem Scans.colon (hy : isGap (some y) = true) (hc : indent ≤ c) :
    Scans false c indent outer ts (':' :: y :: rest) (.fault .malformed :: ts).reverse := by
  intro i l fuel hfuel
  obtain ⟨n, rfl⟩ : ∃ n, fuel = n + 1 := ⟨fuel - 1, by omega⟩
  rw [run, advance_eq_tokenAt startsToken_colon hc (dropStale_nil _), tokenAt_colon hy rfl]
  rfl

/-- A colon before a gap behind a plain text that may be no key. -/
theorem Scans.plain_colon (hxs : IsRun (x :: xs) (':' :: y :: rest)) (hx : StartsPlain x)
    (hy : isGap (some y) = true) (hc : indent ≤ c) :
    Scans false c indent outer ts (x :: xs ++ ':' :: y :: rest)
      (.fault .malformed :: .text true (String.ofList (x :: xs)) :: ts).reverse := by
  intro i l fuel hfuel
  rw [List.length_append, List.length_cons, List.length_cons, List.length_cons] at hfuel
  obtain ⟨n, rfl⟩ : ∃ n, fuel = n + 1 := ⟨fuel - 1, by omega⟩
  obtain ⟨c', hc', hskip⟩ := Cursor.skip_line hxs.inLine (':' :: y :: rest) i l c
  have hcolumn : indent ≤ (c' : Int) := by omega
  have hcolon : Scans false c' indent outer (.text true (String.ofList (x :: xs)) :: ts)
      (':' :: y :: rest) _ := Scans.colon hy hcolumn
  rw [← hcolon (i + (x :: xs).length) l n (by rw [List.length_cons, List.length_cons]; omega)]
  apply run_of_advance
  rw [List.cons_append, advance_eq_tokenAt hx.token hc (dropStale_nil _), tokenAt_eq_plain hx rfl,
    plain_eq, ← List.cons_append, plainText_colon hxs hskip]
  rfl

/-- The end of the stream, where the one block that is open stands in the first column. -/
theorem Scans.stop : Scans allow 0 0 [-1] ts [] (.streamEnd :: .blockEnd :: ts).reverse := by
  intro i l fuel hfuel
  obtain ⟨m, rfl⟩ : ∃ m, fuel = m + 1 := ⟨fuel - 1, by simp at hfuel; omega⟩
  rfl

end Scanner

theorem tokens_of_scans {cs : List Char} {out : List Token} (hallowed : cs.all isAllowed = true)
    (hmark : cs.head? ≠ some '\uFEFF') (h : Scanner.Scans true 0 (-1) [] [] cs out) :
    tokens cs = out := by
  have hstart : Cursor.isAt { rest := cs } '\uFEFF' = false := beq_eq_false_iff_ne.2 hmark
  rw [tokens, if_pos hallowed]
  simp only [hstart, Bool.false_eq_true, if_false]
  exact h 0 0 (cs.length + 1) (Nat.lt_succ_self _)

theorem tokens_of_not_allowed {cs : List Char} (h : cs.all isAllowed = false) :
    tokens cs = [.fault .malformed] := by
  rw [tokens, h, if_neg (by decide)]

end SchemaSheets.Yaml
