import SchemaSheets.Proofs.Source.Origin
import SchemaSheets.Proofs.Yaml.Form
import SchemaSheets.Proofs.Yaml.Scanning
import SchemaSheets.Setup.Loading
import SchemaSheets.Setup.Template

/-!
# Reading a first setup back

The template for a source is a document of one workbook with that source, as long as the source does
not end in a colon and all characters may stand in a stream.
-/

namespace SchemaSheets.Setup

open Yaml Yaml.Scanner

variable {output source : String} {cs rest : List Char} {out : List Token}

/-! ### Sources -/

theorem eq_of_toLower {c : Char} (h : Words.toLower c = 'h') : c ∈ ['h', 'H'] := by
  rw [Words.toLower] at h
  split at h
  next hupper =>
    have hcodes : ∀ n : Fin 26, Char.ofNat (65 + n + 32) = 'h' → 65 + n.val = 72 := by decide
    simp only [Words.isUpper, Bool.and_eq_true, decide_eq_true_eq] at hupper
    obtain ⟨hlow, hhigh⟩ := hupper
    have hlow' : 65 ≤ c.toNat := hlow
    have hhigh' : c.toNat ≤ 90 := hhigh
    have hcode := hcodes ⟨c.toNat - 65, by omega⟩
    have hsum : 65 + (c.toNat - 65) = c.toNat := by omega
    simp only [hsum] at hcode
    have hH : c = 'H' := Char.ext (UInt32.toNat_inj.1 (hcode h))
    rw [hH]
    decide
  next =>
    rw [h]
    decide

/-- The texts that a template is made for: absolute URLs without blanks around them, of characters
that may stand in a stream. -/
structure IsSource (cs : List Char) : Prop where
  absolute : Url.isAbsolute cs = true
  trimmed : Text.trim cs = cs
  allowed : ∀ c ∈ cs, isAllowed c = true

theorem not_isBlank (habsolute : Url.isAbsolute cs = true) (htrim : Text.trim cs = cs) :
    ∀ c ∈ cs, Text.isBlank c = false := by
  simp only [Url.isAbsolute, htrim, Bool.and_eq_true, Bool.not_eq_true',
    List.any_eq_false] at habsolute
  intro c hc
  simpa using habsolute.1 c hc

theorem isGap_eq_false {c : Char} (hblank : Text.isBlank c = false) (h : isAllowed c = true) :
    isGap (some c) = false := by
  rw [Bool.eq_false_iff]
  intro hgap
  simp only [isGap, isBreak, Bool.or_eq_true, beq_iff_eq] at hgap
  rcases hgap with (((rfl | rfl) | rfl) | rfl) | ((rfl | rfl) | rfl) | rfl
  · revert h
    decide
  all_goals
    revert hblank
    decide

theorem IsSource.filled (h : IsSource cs) : ∀ c ∈ cs, isGap (some c) = false :=
  fun c hc => isGap_eq_false (not_isBlank h.absolute h.trimmed c hc) (h.allowed c hc)

/-- A source starts with the first letter of its scheme. -/
theorem IsSource.exists_head (h : IsSource cs) : ∃ x xs, cs = x :: xs ∧ x ∈ ['h', 'H'] := by
  obtain ⟨gap, word, rest, hcs, hgap, hword⟩ := Url.front_of_isAbsolute h.absolute
  have hempty : gap = [] := by
    rw [List.eq_nil_iff_forall_not_mem]
    intro c hc
    have hmem : c ∈ cs := by
      rw [hcs]
      exact List.mem_append_left _ hc
    have hblank := not_isBlank h.absolute h.trimmed c hmem
    have hdropped := hgap c hc
    rw [Url.isDropped, hblank, Bool.false_or, Url.isControlOrSpace, decide_eq_true_eq] at hdropped
    have hcontrols : ∀ n : Fin 33, isAllowed (Char.ofNat n) = true →
        Text.isBlank (Char.ofNat n) = true := by decide
    have hspace := hcontrols ⟨c.toNat, by omega⟩
    rw [Char.ofNat_toNat, hblank] at hspace
    exact absurd (hspace (h.allowed c hmem)) (by decide)
  have hhead : word.head?.map Words.toLower = some 'h' := by
    have hall : ∀ scheme ∈ Url.fetchSchemes, scheme.head? = some 'h' := by decide
    rw [← List.head?_map]
    exact hall _ hword
  obtain ⟨x, hx, hlower⟩ := Option.map_eq_some_iff.1 hhead
  obtain ⟨xs, rfl⟩ := List.head?_eq_some_iff.1 hx
  refine ⟨x, xs ++ ':' :: rest, ?_, eq_of_toLower hlower⟩
  rw [hcs, hempty]
  rfl

/-- Something stands before a colon at the end. -/
theorem IsSource.exists_front (h : IsSource cs) (hcolon : cs.getLast? = some ':') :
    ∃ x ys, cs = x :: ys ++ [':'] ∧ x ∈ ['h', 'H'] := by
  obtain ⟨front, hfront⟩ := List.getLast?_eq_some_iff.1 hcolon
  obtain ⟨x, xs, hcs, hx⟩ := h.exists_head
  cases front with
  | nil =>
    rw [hfront, List.nil_append, List.cons.injEq] at hcs
    rw [← hcs.1] at hx
    exact absurd hx (by decide)
  | cons y ys =>
    rw [hfront, List.cons_append, List.cons.injEq] at hcs
    refine ⟨y, ys, hfront, ?_⟩
    rw [hcs.1]
    exact hx

/-- The letter of a scheme starts a plain text that means a text. -/
theorem starts_of_mem {x : Char} (hx : x ∈ ['h', 'H']) : StartsPlain x ∧ StartsText x := by
  simp only [List.mem_cons, List.not_mem_nil, or_false] at hx
  rcases hx with rfl | rfl
  · exact ⟨.of_isAlpha (by decide), by decide, by decide, by decide⟩
  · exact ⟨.of_isAlpha (by decide), by decide, by decide, by decide⟩

theorem IsSource.no_comment (h : IsSource cs) : cs.head? ≠ some '#' := by
  obtain ⟨x, xs, rfl, hx⟩ := h.exists_head
  intro heq
  exact (starts_of_mem hx).1.token.no_comment (Option.some.inj heq)

theorem IsSource.isLine (h : IsSource cs) (hcolon : cs.getLast? ≠ some ':') : IsLine cs := by
  apply IsLine.part
  · obtain ⟨x, xs, rfl, -⟩ := h.exists_head
    exact List.cons_ne_nil x xs
  · exact h.filled
  · exact hcolon
  · exact h.no_comment

theorem IsSource.form (h : IsSource cs) : Form.ofText cs = .text := by
  obtain ⟨x, xs, rfl, hx⟩ := h.exists_head
  exact (starts_of_mem hx).2.ofText_eq

/-! ### Characters -/

/-- The characters that the template is written in. -/
def isWritten (c : Char) : Bool := c == '\n' || (' ' ≤ c && c ≤ '~')

theorem isWritten_template : (template "" "").toList.all isWritten = true := by
  unfold template
  simp only [String.toList_append, List.all_append]
  decide +kernel

/-- What holds of the characters that the template is written in depends on what is filled in. -/
theorem all_template {p : Char → Bool} (hp : ∀ x, isWritten x = true → p x = true) :
    (template output source).toList.all p = (output.toList.all p && source.toList.all p) := by
  have h : (template "" "").toList.all p = true := by
    rw [List.all_eq_true]
    intro x hx
    exact hp x (List.all_eq_true.1 isWritten_template x hx)
  unfold template at h ⊢
  simp only [String.toList_append, List.all_append, Bool.and_eq_true] at h
  simp only [String.toList_append, List.all_append, h, Bool.true_and, Bool.and_true]

theorem all_isAllowed_template : (template output source).toList.all isAllowed =
    (output.toList.all isAllowed && source.toList.all isAllowed) := by
  apply all_template
  intro x hx
  simp only [isWritten, Bool.or_eq_true] at hx
  simp only [isAllowed, Bool.or_eq_true]
  rcases hx with hx | hx
  · simp [hx]
  · simp [hx]

theorem exists_head_template (output source : String) :
    ∃ rest, (template output source).toList = '#' :: rest := by
  unfold template
  simp only [String.toList_append, List.append_assoc]
  exact ⟨_, rfl⟩

theorem head_template : (template output source).toList.head? ≠ some '\uFEFF' := by
  obtain ⟨rest, hrest⟩ := exists_head_template output source
  rw [hrest]
  exact fun heq => absurd (Option.some.inj heq) (by decide)

theorem all_allowed_template (h : IsSource source.toList)
    (houtput : output.toList.all isAllowed = true) :
    (template output source).toList.all isAllowed = true := by
  rw [all_isAllowed_template, houtput, List.all_eq_true.2 h.allowed]
  rfl

theorem not_mem_template (habsolute : Url.isAbsolute source.toList = true)
    (htrim : Text.trim source.toList = source.toList)
    (hline : ∀ x ∈ output.toList, isLineEnd (some x) = false) :
    '\r' ∉ (template output source).toList := by
  have hall : (template output source).toList.all (· != '\r') =
      (output.toList.all (· != '\r') && source.toList.all (· != '\r')) := by
    apply all_template
    rintro x hx
    rw [bne_iff_ne]
    rintro rfl
    revert hx
    decide
  have houtput : output.toList.all (· != '\r') = true := by
    rw [List.all_eq_true]
    intro x hx
    rw [bne_iff_ne]
    rintro rfl
    cases hline _ hx
  have hsource : source.toList.all (· != '\r') = true := by
    rw [List.all_eq_true]
    intro x hx
    rw [bne_iff_ne]
    rintro rfl
    cases not_isBlank habsolute htrim _ hx
  rw [houtput, hsource, Bool.and_true, List.all_eq_true] at hall
  intro hmem
  exact absurd (hall _ hmem) (by decide)

/-! ### Tokens -/

/-- A line with a comment. -/
theorem scans_comment {s line : String} (hline : line = "#" ++ s ++ "\n")
    (hs : ∀ x ∈ s.toList, isLineEnd (some x) = false) (h : Scans true 0 (-1) [] [] rest out) :
    Scans true 0 (-1) [] [] (line.toList ++ rest) out := by
  have hsplit : line.toList ++ rest = '#' :: s.toList ++ '\n' :: rest := by
    rw [hline, String.toList_append, String.toList_append, List.append_assoc, List.append_assoc]
    rfl
  rw [hsplit]
  exact h.comment hs

/-- What stands in the template before the source, from the first key on. -/
def opening (rest : List Char) : List Char :=
  "defaults".toList ++ ':' :: '\n' :: (List.replicate 2 ' ' ++ ("labels".toList ++ ':' :: ' ' ::
    '[' :: ']' :: '\n' :: '\n' :: ("workbooks".toList ++ ':' :: '\n' ::
    (List.replicate 2 ' ' ++ '-' :: ' ' :: ("name".toList ++ ':' :: ' ' ::
    ("GraphQL".toList ++ ' ' :: "Workbook".toList ++ '\n' ::
    (List.replicate 4 ' ' ++ ("source".toList ++ ':' :: ' ' :: rest))))))))

/-- What stands in the template after the line of the source, from the next key on. -/
def closing : List Char :=
  "sheets".toList ++ ':' :: ' ' :: '[' :: ']' :: '\n' :: '\n' ::
    ("space".toList ++ ':' :: ' ' :: '\x7b' :: '\x7d' :: ['\n'])

/-- The line of the template that holds the path. -/
theorem scans_usage (houtput : ∀ x ∈ output.toList, isLineEnd (some x) = false)
    (h : Scans true 0 (-1) [] [] rest out) :
    Scans true 0 (-1) [] [] ("#   graphql-workbook configure ".toList ++ (output.toList ++
      (" -o space.json\n".toList ++ rest))) out := by
  have hsplit : "#   graphql-workbook configure ".toList ++ (output.toList ++
      (" -o space.json\n".toList ++ rest)) = '#' :: ("   graphql-workbook configure ".toList ++
        (output.toList ++ " -o space.json".toList)) ++ '\n' :: rest := by
    have hcut : "#   graphql-workbook configure " = "#" ++ "   graphql-workbook configure " := rfl
    have hend : " -o space.json\n" = " -o space.json" ++ "\n" := rfl
    rw [hcut, hend, String.toList_append, String.toList_append, List.cons_append]
    simp only [List.append_assoc]
    rfl
  have hfront : ∀ x ∈ "   graphql-workbook configure ".toList, isLineEnd (some x) = false := by
    decide
  have hback : ∀ x ∈ " -o space.json".toList, isLineEnd (some x) = false := by decide
  rw [hsplit]
  apply h.comment
  simp only [List.forall_mem_append]
  exact ⟨hfront, houtput, hback⟩

theorem scans_comments (houtput : ∀ x ∈ output.toList, isLineEnd (some x) = false)
    (h : Scans true 0 (-1) [] [] (opening (source.toList ++ '\n' ::
      (List.replicate 4 ' ' ++ closing))) out) :
    Scans true 0 (-1) [] [] (template output source).toList out := by
  unfold template
  simp only [String.toList_append, List.append_assoc]
  apply scans_comment (s := " graphql-workbook setup") rfl (by decide +kernel)
  apply scans_comment (s := "") rfl (by decide +kernel)
  apply scans_comment (s := " Usage:") rfl (by decide +kernel)
  apply scans_usage houtput
  apply scans_comment (s := "") rfl (by decide +kernel)
  apply scans_comment
    (s := " Each workbook needs a 'source' (GraphQL endpoint URL or inline SDL) or a")
    rfl (by decide +kernel)
  apply scans_comment (s := " 'source_file' (path to an SDL file, relative to this file).")
    rfl (by decide +kernel)
  exact h.newline

/-- The words of the template that are keys. -/
def keyWords : List String :=
  ["defaults", "labels", "workbooks", "name", "source", "sheets", "space"]

theorem isKey_of_mem (word : String) (h : word ∈ keyWords) : IsKey word.toList := by
  have hall : ∀ word ∈ keyWords, word.toList ≠ [] ∧ (∀ x ∈ word.toList, x.isAlpha = true) ∧
      word.toList.length ≤ keyLimit := by decide
  obtain ⟨hne, hletters, hshort⟩ := hall word h
  exact .of_isAlpha hne hletters hshort

/-- The tokens of the template behind the source. -/
def closingTokens : List Token :=
  [.key, .text true "sheets", .value, .flowSequence, .flowSequenceEnd, .blockEnd, .blockEnd, .key,
    .text true "space", .value, .flowMapping, .flowMappingEnd, .blockEnd, .streamEnd]

theorem scans_closing {ts : List Token} :
    Scans true 4 (4 : Nat) [(2 : Nat), (0 : Nat), -1] ts closing (ts.reverse ++ closingTokens) := by
  have hs : StartsPlain 's' := .of_isAlpha (by decide)
  have hall : ts.reverse ++ closingTokens = (closingTokens.reverse ++ ts).reverse := by simp
  rw [hall]
  unfold closing
  apply Scans.key_stays (isKey_of_mem "sheets" (by decide)) rfl
  apply Scans.blank FlowMarks.sequence.startsTokens.1
  apply Scans.emptyFlow .sequence (by decide)
  apply Scans.newline
  apply Scans.newline
  -- the workbook ends, and the list of workbooks with it
  apply Scans.dedent hs (by decide)
  apply Scans.dedent hs (by decide)
  apply Scans.key_stays (isKey_of_mem "space" (by decide)) rfl
  apply Scans.blank FlowMarks.mapping.startsTokens.1
  apply Scans.emptyFlow .mapping (by decide)
  apply Scans.newline
  exact Scans.stop

theorem isLine_name : IsLine ("GraphQL".toList ++ ' ' :: "Workbook".toList) := by
  apply IsLine.more (by decide) (by decide) (by decide) (by decide)
  exact IsLine.part (by decide) (by decide) (by decide) (by decide)

/-- The tokens of the template before the source, the last one first. -/
def openingTokens : List Token :=
  [.value, .text true "source", .key, .text true "GraphQL Workbook", .value, .text true "name",
    .key, .blockMapping, .item, .blockSequence, .value, .text true "workbooks", .key, .blockEnd,
    .flowSequenceEnd, .flowSequence, .value, .text true "labels", .key, .blockMapping, .value,
    .text true "defaults", .key, .blockMapping]

theorem scans_opening {x : Char} {rest : List Char} (hx : StartsToken x)
    (h : Scans false 12 (4 : Nat) [(2 : Nat), (0 : Nat), -1] openingTokens (x :: rest) out) :
    Scans true 0 (-1) [] [] (opening (x :: rest)) out := by
  have hl : StartsPlain 'l' := .of_isAlpha (by decide)
  have hw : StartsPlain 'w' := .of_isAlpha (by decide)
  have hn : StartsPlain 'n' := .of_isAlpha (by decide)
  have hG : StartsPlain 'G' := .of_isAlpha (by decide)
  have hs : StartsPlain 's' := .of_isAlpha (by decide)
  have hdash : StartsToken '-' := ⟨by decide, by decide⟩
  unfold opening
  -- the defaults, whose one key opens a mapping of its own
  apply Scans.key_opens (isKey_of_mem "defaults" (by decide)) rfl (by decide)
  apply Scans.newline
  apply Scans.blanks hl.token
  apply Scans.key_opens (isKey_of_mem "labels" (by decide)) rfl (by decide)
  apply Scans.blank FlowMarks.sequence.startsTokens.1
  apply Scans.emptyFlow .sequence (by decide)
  apply Scans.newline
  apply Scans.newline
  -- the workbooks, in the column of the defaults
  apply Scans.dedent hw (by decide)
  apply Scans.key_stays (isKey_of_mem "workbooks" (by decide)) rfl
  apply Scans.newline
  apply Scans.blanks hdash
  apply Scans.item rfl (by decide)
  -- the first workbook, whose name ends where the next line is no deeper than its keys
  apply Scans.blank hn.token
  apply Scans.key_opens (isKey_of_mem "name" (by decide)) rfl (by decide)
  apply Scans.blank hG.token
  apply Scans.plain isLine_name hG hs.token (by decide) (by decide)
  apply Scans.key_stays (isKey_of_mem "source" (by decide)) rfl
  apply Scans.blank hx
  exact h

/-- With a source that does not end in a colon the template is a document of one workbook. -/
theorem tokens_template (h : IsSource source.toList) (hcolon : source.toList.getLast? ≠ some ':')
    (hline : ∀ x ∈ output.toList, isLineEnd (some x) = false)
    (houtput : output.toList.all isAllowed = true) :
    tokens (template output source).toList =
      openingTokens.reverse ++ .text true source :: closingTokens := by
  obtain ⟨x, xs, hcs, hx⟩ := h.exists_head
  have hstarts : StartsPlain x := (starts_of_mem hx).1
  have hs : StartsPlain 's' := .of_isAlpha (by decide)
  have hsource : IsLine source.toList := h.isLine hcolon
  apply tokens_of_scans (all_allowed_template h houtput) head_template
  apply scans_comments hline
  rw [hcs] at hsource ⊢
  apply scans_opening hstarts.token
  apply Scans.plain hsource hstarts hs.token (by decide) (by decide)
  have hout : openingTokens.reverse ++ .text true source :: closingTokens =
      (.text true (String.ofList (x :: xs)) :: openingTokens).reverse ++ closingTokens := by
    rw [← hcs, String.ofList_toList, List.reverse_cons, List.append_assoc, List.singleton_append]
  rw [hout]
  exact scans_closing

/-- A colon at the end of the source is one before a gap, where no key may begin. -/
theorem tokens_template_colon (h : IsSource source.toList)
    (hcolon : source.toList.getLast? = some ':')
    (hline : ∀ x ∈ output.toList, isLineEnd (some x) = false)
    (houtput : output.toList.all isAllowed = true) :
    ∃ front, tokens (template output source).toList =
      openingTokens.reverse ++ [.text true front, .fault .malformed] := by
  obtain ⟨x, ys, hcs, hx⟩ := h.exists_front hcolon
  have hstarts : StartsPlain x := (starts_of_mem hx).1
  have hrun : IsRun (x :: ys) (':' :: '\n' :: (List.replicate 4 ' ' ++ closing)) := by
    constructor
    · exact List.cons_ne_nil x ys
    · intro y hy
      apply h.filled
      rw [hcs]
      exact List.mem_append_left _ hy
    · intro _
      rfl
    · intro heq
      exact hstarts.token.no_comment (Option.some.inj heq)
    · rintro y ⟨⟩
      rfl
  refine ⟨String.ofList (x :: ys), ?_⟩
  apply tokens_of_scans (all_allowed_template h houtput) head_template
  apply scans_comments hline
  rw [hcs, List.append_assoc, List.cons_append]
  apply scans_opening hstarts.token
  have hout : openingTokens.reverse ++ [.text true (String.ofList (x :: ys)), .fault .malformed] =
      (.fault .malformed :: .text true (String.ofList (x :: ys)) :: openingTokens).reverse := by
    rw [List.reverse_cons, List.reverse_cons, List.append_assoc, List.singleton_append]
  rw [hout]
  exact Scans.plain_colon hrun hstarts rfl (by decide)

/-! ### Meaning -/

/-- The node of the template, given the tag of its source. -/
def templateNode (source : String) (tag : Tag) : Node :=
  .map .map
    [(.text .str "defaults", .map .map [(.text .str "labels", .seq .seq [])]),
      (.text .str "workbooks", .seq .seq
        [.map .map [(.text .str "name", .text .str "GraphQL Workbook"),
          (.text .str "source", .text tag source), (.text .str "sheets", .seq .seq [])]]),
      (.text .str "space", .map .map [])]

def templateValue (source : String) : Value :=
  .map
    [(.str "defaults", .map [(.str "labels", .list [])]),
      (.str "workbooks", .list
        [.map [(.str "name", .str "GraphQL Workbook"), (.str "source", .str source),
          (.str "sheets", .list [])]]),
      (.str "space", .map [])]

theorem value_templateNode (source : String) :
    (templateNode source .str).value = .ok (templateValue source) := by
  simp only [templateNode, Node.value, Node.valueAt, Node.valueAt.entriesOf, Node.ownAt,
    Node.mergedAt, Node.itemsAt]
  rfl

/-- The setup that the template stands for. -/
def first (source : String) : Setup where
  plans := [{ source := .str source, name := some "GraphQL Workbook", overrides := some []
              extras := [("labels", .list [])] }]
  space := []

theorem ofDocument_template (files : Files) (base : Path) (source : String) :
    ofDocument files base (templateValue source) = .ok (first source) := by
  rfl

/-! ### Reading -/

/-- So many levels of collections the template has. -/
def templateDepth : Nat := 4

section

variable [Capacity]

set_option maxRecDepth 20000 in
theorem ofTokens_template (source : String) (hroom : templateDepth ≤ Capacity.yaml) :
    Node.ofTokens (openingTokens.reverse ++ .text true source :: closingTokens) =
      .ok (some (templateNode source (Tag.ofForm (Form.ofText source.toList)))) := by
  obtain ⟨room, hroom⟩ := Nat.exists_eq_add_of_le' hroom
  rw [Node.ofTokens, hroom]
  rfl

set_option maxRecDepth 20000 in
theorem ofTokens_colon (front : String) (hroom : templateDepth ≤ Capacity.yaml) :
    Node.ofTokens (openingTokens.reverse ++ [.text true front, .fault .malformed]) =
      .error .malformed := by
  obtain ⟨room, hroom⟩ := Nat.exists_eq_add_of_le' hroom
  rw [Node.ofTokens, hroom]
  rfl

theorem ofTokens_fault : Node.ofTokens [.fault .malformed] = .error .malformed := rfl

theorem yaml_read_template (h : IsSource source.toList) (hcolon : source.toList.getLast? ≠ some ':')
    (hline : ∀ x ∈ output.toList, isLineEnd (some x) = false)
    (houtput : output.toList.all isAllowed = true) (hroom : templateDepth ≤ Capacity.yaml) :
    Yaml.read (template output source) = .ok (templateValue source) := by
  have hdocument : Yaml.document (template output source) =
      .ok (some (templateNode source .str)) := by
    rw [Yaml.document, tokens_template h hcolon hline houtput, ofTokens_template source hroom, h.form]
    rfl
  have hread : Yaml.read (template output source) = (templateNode source .str).value := by
    rw [Yaml.read, hdocument]
    rfl
  rw [hread, value_templateNode]

theorem yaml_read_malformed {text : String}
    (h : Node.ofTokens (tokens text.toList) = .error .malformed) :
    Yaml.read text = .error .malformed := by
  rw [Yaml.read, Yaml.document, h]
  rfl

theorem json_read_hash {text : String} (h : text.toList = '#' :: cs) :
    ∃ place, Json.read text = .error (.fault .value place) := by
  have hvalue : ∀ room, Json.documentWithin room ('#' :: cs) =
      .error (.fault .value (cs.length + 1)) := by
    intro room
    cases room <;> rfl
  rw [Json.read, h, hvalue]
  exact ⟨_, rfl⟩

theorem format_read_json {text name : String} (h : text.toList = '#' :: cs) :
    ∃ e, Format.read .json name text = .error e := by
  obtain ⟨place, hread⟩ := json_read_hash h
  simp only [Format.read, hread]
  exact ⟨_, rfl⟩

theorem format_read_template (name : String)
    (h : Yaml.read (template output source) = .ok (templateValue source)) :
    Format.read .yaml name (template output source) = .ok (templateValue source) := by
  simp only [Format.read, h]

theorem format_read_malformed {text name : String} (h : Yaml.read text = .error .malformed) :
    ∃ e, Format.read .yaml name text = .error e := by
  simp only [Format.read, h]
  exact ⟨_, rfl⟩

end

end SchemaSheets.Setup
