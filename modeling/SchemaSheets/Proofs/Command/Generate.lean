import SchemaSheets.Command.Run
import SchemaSheets.Proofs.Console.Markup
import SchemaSheets.Proofs.Steps

/-!
# Runs that generate a workbook

A run writes its document and then says what it has generated.  What it says last, the diagnostics,
can always be rendered.  The figures of the workbook cannot if the terminal makes nothing of a text
among them, such as a tag that closes nothing: then the run fails although the document is written.
-/

namespace SchemaSheets

open Markup Steps

/-! ### What is said -/

theorem Diagnostic.renders (d : Diagnostic) : Renders [] d.markup.toList := by
  have hcolour : d.severity.colour ∈ ["red", "yellow", "blue", "green", "cyan"] := by
    cases d.severity <;> decide
  have hname : ∀ c ∈ d.severity.name.toUpper.toList, IsOrdinary c := by
    cases d.severity <;> decide +kernel
  have hmarkup : d.markup.toList = "  ".toList ++ ('[' :: d.severity.colour.toList ++
      ']' :: (d.severity.name.toUpper.toList ++ ('[' :: '/' :: d.severity.colour.toList ++
        ']' :: (": ".toList ++ (escape d.message).toList)))) := by
    simp [Diagnostic.markup]
  have htag := names_of_colour hcolour
  rw [hmarkup]
  apply Renders.ordinary (by decide)
  apply htag.renders_open
  apply Renders.ordinary hname
  apply htag.renders_close
  apply Renders.ordinary (by decide)
  exact renders_escape [] d.message

theorem Diagnostics.exists_lines [Terminal] (hterminal : Terminal.Lawful) (verbose : Bool)
    (ds : Diagnostics) : ∃ lines, ds.lines verbose = .ok lines := by
  have hstyled : ∀ d ∈ ds.shown verbose, ∃ lines, Console.styled d.markup = .ok lines := by
    intro d _
    obtain ⟨text, htext⟩ := d.renders.on_terminal hterminal
    rw [Console.styled, htext]
    exact ⟨_, rfl⟩
  obtain ⟨lines, hlines⟩ := exists_mapM_eq_ok_iff.2 hstyled
  rw [Diagnostics.lines, hlines]
  exact ⟨_, rfl⟩

theorem Console.panel_eq_ok_iff [Terminal] (title s : String) :
    (∃ lines, panel title s = .ok lines) ↔ ∃ text, Terminal.render s = .ok text := by
  unfold panel
  cases Terminal.render s with
  | error fault => simp [bind, Except.bind]
  | ok text => simp [bind, Except.bind, pure, Except.pure]

namespace GeneratedWorkbook

/-- The texts that the figures of a workbook repeat hold no bracket that opens. -/
structure Unbracketed (output : Option String) (g : GeneratedWorkbook) : Prop where
  name : '[' ∉ g.workbook.name.toList
  dropped : ∀ slug ∈ g.droppedSheets, '[' ∉ slug.toList
  output : ∀ path ∈ output, '[' ∉ path.toList

theorem intercalate_unbracketed {sep : List Char} {ls : List (List Char)} (hsep : '[' ∉ sep)
    (h : ∀ l ∈ ls, '[' ∉ l) : '[' ∉ sep.intercalate ls := by
  induction ls with
  | nil => nofun
  | cons l ls ih =>
    have hl := h l List.mem_cons_self
    have hrest := ih fun l' hl' => h l' (List.mem_cons_of_mem _ hl')
    cases ls with
    | nil => simpa using hl
    | cons l' ls =>
      rw [List.intercalate_cons_cons, List.mem_append, List.mem_append]
      rintro ((hin | hin) | hin)
      · exact hl hin
      · exact hsep hin
      · exact hrest hin

theorem natural_unbracketed (n : Nat) : '[' ∉ (Decimal.intText n).toList := by
  have hdigits : (Decimal.intText n).toList = Nat.toDigits 10 n := by
    simp [Decimal.intText, Decimal.digitsOf]
  rw [hdigits]
  intro hmem
  have hdigit := Nat.isDigit_of_mem_toDigits (by omega) (by omega) hmem
  exact absurd hdigit (by decide)

/-- A line with a figure, before what follows it. -/
def figureThen (name value : String) (rest : List Char) : List Char :=
  "\n[cyan]".toList ++ (name.toList ++ (":[/cyan] ".toList ++ (value.toList ++ rest)))

theorem renders_figureThen {name value : String} {rest : List Char}
    (hname : ∀ c ∈ name.toList, IsOrdinary c) (hvalue : '[' ∉ value.toList)
    (hnext : ∀ d ∈ rest.head?, IsOrdinary d) (hrest : Renders [] rest) :
    Renders [] (figureThen name value rest) := by
  have hcyan : Names "cyan".toList "cyan" := names_of_colour (by decide)
  have hshown : Renders [] (' ' :: (value.toList ++ rest)) :=
    (hrest.unbracketed hvalue hnext).cons (escapedTag?_of_ordinary (by decide))
  have hclosed : Renders ["cyan"] (":[/cyan] ".toList ++ (value.toList ++ rest)) :=
    (hcyan.renders_close hshown).cons (escapedTag?_of_ordinary (by decide))
  exact (hcyan.renders_open (hclosed.ordinary hname)).cons (escapedTag?_of_ordinary (by decide))

/-- The names of dropped sheets as they are shown. -/
def droppedText (g : GeneratedWorkbook) : String :=
  if ", ".intercalate g.droppedSheets == "" then "none" else ", ".intercalate g.droppedSheets

/-- Where the document goes, as it is shown. -/
def outputText : Option String → String
  | some path => if path == "" then "stdout" else path
  | none => "stdout"

theorem toList_markup (output : Option String) (g : GeneratedWorkbook) :
    (g.markup output).toList = "[green]Generated workbook '".toList ++ (g.workbook.name.toList ++
      ("'[/green]\n".toList ++
        figureThen "Object types" (Decimal.intText g.objectNames.length) (
        figureThen "Sheets" (Decimal.intText g.workbook.sheets.length) (
        figureThen "Fields" (Decimal.intText g.fieldCount) (
        figureThen "Dropped" g.droppedText (
        figureThen "Output" (outputText output) [])))))) := by
  unfold markup
  simp only [String.toList_append, List.append_assoc]
  unfold figureThen
  rw [List.append_nil]
  rfl

/-- The figures of a workbook can be rendered if their texts hold no bracket that opens. -/
theorem Unbracketed.renders {output : Option String} {g : GeneratedWorkbook}
    (h : g.Unbracketed output) : Renders [] (g.markup output).toList := by
  have hgreen : Names "green".toList "green" := names_of_colour (by decide)
  have hall : '[' ∉ (", ".intercalate g.droppedSheets).toList := by
    rw [String.toList_intercalate]
    apply intercalate_unbracketed (by decide)
    intro l hl
    obtain ⟨slug, hslug, rfl⟩ := List.mem_map.1 hl
    exact h.dropped slug hslug
  have hdropped : '[' ∉ g.droppedText.toList := by
    unfold droppedText
    split
    · decide
    · exact hall
  have houtput : '[' ∉ (outputText output).toList := by
    unfold outputText
    split
    next path =>
      split
      · decide
      · exact h.output path rfl
    next => decide
  have hnext (name value : String) (rest : List Char) :
      ∀ d ∈ (figureThen name value rest).head?, IsOrdinary d := by
    intro d hd
    obtain rfl : '\n' = d := Option.some.inj hd
    decide
  have hlast : Renders [] (figureThen "Output" (outputText output) []) :=
    renders_figureThen (by decide) houtput (by simp) (renders_nil [])
  have hfigures : Renders [] (figureThen "Dropped" g.droppedText _) :=
    renders_figureThen (by decide) hdropped (hnext "Output" _ _) hlast
  rw [toList_markup]
  apply hgreen.renders_open
  have hlead : ∀ c ∈ "Generated workbook '".toList, IsOrdinary c := by decide
  apply Renders.ordinary hlead
  apply Renders.unbracketed h.name
  · intro d hd
    obtain rfl : '\'' = d := Option.some.inj hd
    decide
  apply Renders.cons (escapedTag?_of_ordinary (by decide))
  apply hgreen.renders_close
  apply Renders.cons (escapedTag?_of_ordinary (by decide))
  apply renders_figureThen (by decide) (natural_unbracketed _) (hnext _ _ _)
  apply renders_figureThen (by decide) (natural_unbracketed _) (hnext _ _ _)
  exact renders_figureThen (by decide) (natural_unbracketed _) (hnext _ _ _) hfigures

end GeneratedWorkbook

/-! ### Runs -/

/-- A document can be written where it goes, whatever its text. -/
def Delivery.Writable (d : Delivery) (files : Files) : Prop :=
  ∀ p, d.path? = some p → ∀ text, ∃ files', files.save p text = .ok files'

theorem Delivery.deliver_eq_ok {d : Delivery} {e : Ending} (h : d.Writable e.files) (v : Value) :
    ∃ e', d.deliver v e = .ok e' ∧ e'.status = e.status := by
  unfold deliver
  cases hpath : d.path? with
  | none => exact ⟨_, rfl, rfl⟩
  | some p =>
    obtain ⟨files', hsave⟩ := h p hpath (d.chosenFormat.print d.pretty v)
    simp only [hsave]
    exact ⟨_, rfl, rfl⟩

theorem Delivery.deliver_files {d : Delivery} {v : Value} {e e₀ e' : Ending}
    (hfiles : e₀.files = e.files) (h : d.deliver v e = .ok e') :
    ∃ e₀', d.deliver v e₀ = .ok e₀' ∧ e'.files = e₀'.files := by
  unfold deliver at h ⊢
  cases hpath : d.path? with
  | none =>
    simp only [hpath] at h
    cases h
    exact ⟨_, rfl, hfiles.symm⟩
  | some p =>
    simp only [hpath] at h
    rw [hfiles]
    obtain ⟨files, hsave, he⟩ := bind_eq_ok_iff.1 h
    cases he
    simp only [hsave]
    exact ⟨_, rfl, rfl⟩

namespace Ending

@[simp] theorem saying_status (e : Ending) (lines : List String) :
    (e.saying lines).status = e.status := rfl

@[simp] theorem saying_files (e : Ending) (lines : List String) :
    (e.saying lines).files = e.files := rfl

@[simp] theorem styled_files (e : Ending) (lines : Except String (List String)) :
    (e.styled lines).files = e.files := by
  cases lines <;> rfl

theorem broken_styled_status (e : Ending) (lines : Except String (List String)) :
    (e.broken.styled lines).status = 1 := by
  cases lines <;> rfl

theorem failed_status [Terminal] (verbose : Bool) (message : String) (e : Ending) :
    (e.failed verbose message).status = 1 := by
  unfold failed
  cases verbose <;> exact broken_styled_status e _

theorem failed_files [Terminal] (verbose : Bool) (message : String) (e : Ending) :
    (e.failed verbose message).files = e.files := by
  unfold failed
  cases verbose <;> exact styled_files e.broken _

end Ending

namespace Surroundings

variable {s : Surroundings} {source : String} {name : Option String} {mode : IntegrityMode}
  {delivery : Delivery} {g : GeneratedWorkbook}

section Presenting

variable [Terminal]

/-- The workbook is written as a document, and its figures can be rendered. -/
structure Presentable (output : Option String) (g : GeneratedWorkbook) : Prop where
  document : ∃ v, g.workbook.toValue false = .ok v
  figures : ∃ text, Terminal.render (g.markup output) = .ok text

theorem withoutSource_status (s : Surroundings) (verbose : Bool) (grammar : Grammar)
    (fault : SourceFault) : (s.withoutSource verbose grammar fault).status ≠ 0 := by
  cases fault with
  | usage fault => exact Nat.succ_ne_zero 1
  | failure e =>
    rw [withoutSource, Ending.failed_status]
    exact Nat.one_ne_zero

theorem withoutSource_files (s : Surroundings) (verbose : Bool) (grammar : Grammar)
    (fault : SourceFault) : (s.withoutSource verbose grammar fault).files = s.files := by
  cases fault with
  | usage fault => rfl
  | failure e => exact Ending.failed_files verbose e.message s.start

/-- Either the document is written, and the run succeeds if the figures can be rendered, or there is
no document and nothing is written. -/
theorem presented_cases (hterminal : Terminal.Lawful) {e : Ending} (verbose : Bool)
    (h : delivery.Writable e.files) (hstatus : e.status = 0) :
    (∃ v e', g.workbook.toValue false = .ok v ∧ delivery.deliver v e = .ok e' ∧
      (presented verbose delivery g e).files = e'.files ∧
      ((presented verbose delivery g e).status = 0 ↔
        ∃ text, Terminal.render (g.markup delivery.output) = .ok text)) ∨
    (¬∃ v, g.workbook.toValue false = .ok v) ∧ (presented verbose delivery g e).status ≠ 0 ∧
      (presented verbose delivery g e).files = e.files := by
  unfold presented
  cases hdocument : g.workbook.toValue false with
  | error m =>
    simp only [Except.mapError, Except.bind]
    refine .inr ⟨nofun, ?_, Ending.failed_files ..⟩
    rw [Ending.failed_status]
    exact Nat.one_ne_zero
  | ok v =>
    obtain ⟨e', hdeliver, hsame⟩ := Delivery.deliver_eq_ok h v
    refine .inl ⟨v, e', rfl, hdeliver, ?_⟩
    rw [← Console.panel_eq_ok_iff "Workbook Generated" (g.markup delivery.output)]
    simp only [Except.mapError, Except.bind, hdeliver]
    cases Console.panel "Workbook Generated" (g.markup delivery.output) with
    | error fault => simp [Ending.failed_status, Ending.failed_files]
    | ok lines =>
      obtain ⟨shown, hshown⟩ := Diagnostics.exists_lines hterminal verbose g.diagnostics
      simp [hshown, hsame, hstatus]

end Presenting

section

variable [Capacity]

/-- The source is a plan, and this is the workbook that is generated for it. -/
def Makes (s : Surroundings) (source : String) (name : Option String) (mode : IntegrityMode)
    (g : GeneratedWorkbook) : Prop :=
  ∃ plan, WorkbookPlan.ofWord s.files source = .ok plan ∧
    (Run.from_ {} (Workbook.generate s.network mode (plan.renamed name) .null)).1 = .ok g

theorem makes_iff {plan : WorkbookPlan} {session : Session}
    {outcome : Except Failure GeneratedWorkbook}
    (hplan : WorkbookPlan.ofWord s.files source = .ok plan)
    (hrun : Run.from_ {} (Workbook.generate s.network mode (plan.renamed name) .null) =
      (outcome, session)) : s.Makes source name mode g ↔ outcome = .ok g := by
  constructor
  · rintro ⟨plan', hplan', hg⟩
    cases hplan.symm.trans hplan'
    rw [hrun] at hg
    exact hg
  · rintro rfl
    exact ⟨plan, hplan, by rw [hrun]⟩

theorem Makes.unique {g' : GeneratedWorkbook} (h : s.Makes source name mode g)
    (h' : s.Makes source name mode g') : g' = g := by
  obtain ⟨plan, hplan, hg⟩ := h
  obtain ⟨plan', hplan', hg'⟩ := h'
  cases hplan.symm.trans hplan'
  exact Except.ok.inj (hg'.symm.trans hg)

variable [Terminal]

/-- Either a workbook is made and its document written, and the run succeeds if the figures can be
rendered, or there is no document and nothing is written. -/
theorem generate_cases (hterminal : Terminal.Lawful) (s : Surroundings) (verbose : Bool)
    (source : String) (name : Option String) (mode : IntegrityMode) (delivery : Delivery)
    (h : delivery.Writable s.files) :
    (∃ g v e', s.Makes source name mode g ∧ g.workbook.toValue false = .ok v ∧
      delivery.deliver v s.start = .ok e' ∧
      (s.generate verbose source name mode delivery).files = e'.files ∧
      ((s.generate verbose source name mode delivery).status = 0 ↔
        ∃ text, Terminal.render (g.markup delivery.output) = .ok text)) ∨
    (¬∃ g v, s.Makes source name mode g ∧ g.workbook.toValue false = .ok v) ∧
      (s.generate verbose source name mode delivery).status ≠ 0 ∧
      (s.generate verbose source name mode delivery).files = s.files := by
  cases hplan : WorkbookPlan.ofWord s.files source with
  | error fault =>
    have he : s.generate verbose source name mode delivery =
        s.withoutSource verbose Command.generateGrammar fault := by
      simp only [generate, hplan]
    rw [he]
    refine .inr ⟨?_, withoutSource_status s verbose _ fault, withoutSource_files s verbose _ fault⟩
    rintro ⟨g, v, ⟨plan, hplan', -⟩, -⟩
    rw [hplan] at hplan'
    cases hplan'
  | ok plan =>
    cases hrun : Run.from_ {} (Workbook.generate s.network mode (plan.renamed name) .null) with
    | mk outcome session =>
      have hmakes : ∀ g, s.Makes source name mode g ↔ outcome = .ok g :=
        fun g => makes_iff hplan hrun
      cases outcome with
      | error failure =>
        have he : s.generate verbose source name mode delivery =
            (s.start.saying (session.lines verbose)).failed verbose failure.message := by
          simp only [generate, hplan, hrun]
        rw [he]
        refine .inr ⟨?_, ?_, Ending.failed_files ..⟩
        · rintro ⟨g, v, hg, -⟩
          cases (hmakes g).1 hg
        · rw [Ending.failed_status]
          exact Nat.one_ne_zero
      | ok g =>
        have he : s.generate verbose source name mode delivery =
            presented verbose delivery g (s.start.saying (session.lines verbose)) := by
          simp only [generate, hplan, hrun]
        have hg : s.Makes source name mode g := (hmakes g).2 rfl
        have hwritable : delivery.Writable (s.start.saying (session.lines verbose)).files := h
        rw [he]
        rcases presented_cases hterminal verbose hwritable rfl with
          ⟨v, e', hdocument, hdeliver, hfiles, hiff⟩ | ⟨hnone, hstatus, hfiles⟩
        · have hbefore : s.start.files = (s.start.saying (session.lines verbose)).files := rfl
          obtain ⟨e₀', hdeliver', hsame⟩ := Delivery.deliver_files hbefore hdeliver
          exact .inl ⟨g, v, e₀', hg, hdocument, hdeliver', hfiles.trans hsame, hiff⟩
        · refine .inr ⟨?_, hstatus, hfiles⟩
          rintro ⟨g', v, hg', hv⟩
          cases hg.unique hg'
          exact hnone ⟨v, hv⟩

/-- With an output that can be written, a run succeeds exactly if its source is read, a workbook is
generated for it, its document is written and its figures can be rendered, and then the document is
where it should be.  A run that fails leaves all files as they were, unless the figures cannot be
rendered.  They can if none of their texts holds a bracket that opens. -/
theorem generate_succeeds_iff (hterminal : Terminal.Lawful) (s : Surroundings) (verbose : Bool)
    (source : String) (name : Option String) (mode : IntegrityMode) (delivery : Delivery)
    (h : delivery.Writable s.files) :
    let e := s.generate verbose source name mode delivery
    (e.status = 0 ↔ ∃ g, s.Makes source name mode g ∧ Presentable delivery.output g) ∧
    (e.status = 0 → ∃ g v e', s.Makes source name mode g ∧ g.workbook.toValue false = .ok v ∧
      delivery.deliver v s.start = .ok e' ∧ e.files = e'.files) ∧
    (e.status ≠ 0 → e.files = s.files ∨ ∃ g fault, s.Makes source name mode g ∧
      Terminal.render (g.markup delivery.output) = .error fault) ∧
    ∀ g : GeneratedWorkbook, g.Unbracketed delivery.output →
      ∃ text, Terminal.render (g.markup delivery.output) = .ok text := by
  intro e
  rcases generate_cases hterminal s verbose source name mode delivery h with
    ⟨g, v, e', hg, hdocument, hdeliver, hfiles, hiff⟩ | ⟨hnone, hstatus, hfiles⟩
  · refine ⟨⟨fun h0 => ⟨g, hg, ⟨v, hdocument⟩, hiff.1 h0⟩, ?_⟩,
      fun _ => ⟨g, v, e', hg, hdocument, hdeliver, hfiles⟩, ?_,
      fun g' hg' => hg'.renders.on_terminal hterminal⟩
    · rintro ⟨g', hg', hpresentable⟩
      cases hg.unique hg'
      exact hiff.2 hpresentable.figures
    · intro hfailed
      refine .inr ⟨g, ?_⟩
      cases hrender : Terminal.render (g.markup delivery.output) with
      | ok text => exact absurd (hiff.2 ⟨text, hrender⟩) hfailed
      | error fault => exact ⟨fault, hg, rfl⟩
  · refine ⟨⟨fun h0 => absurd h0 hstatus, ?_⟩, fun h0 => absurd h0 hstatus,
      fun _ => .inl hfiles, fun g' hg' => hg'.renders.on_terminal hterminal⟩
    rintro ⟨g, hg, ⟨v, hv⟩, -⟩
    exact absurd ⟨g, v, hg, hv⟩ hnone

end

/-- A schema in a file, and nothing else. -/
def movieSchema : Surroundings where
  program := "cli"
  files := Files.putFile { home := "w" } ["s.graphql"]
    (Text.encodeUtf8 "type Query \x7b a: Int \x7d type Movie \x7b title: String \x7d")
  network := fun _ => .failed "ConnectError" ""

def toMovies : Delivery := { output := some "movies.json" }

theorem writable_toMovies : toMovies.Writable movieSchema.files := by
  intro p hp text
  cases hp
  exact ⟨_, rfl⟩

theorem generate_movies_succeeds :
    toMovies.Writable movieSchema.files ∧
      ∃ g, movieSchema.Makes "s.graphql" (some "Movies [2]") .universe g ∧
        Presentable toMovies.output g := by
  have hstatus : (movieSchema.generate false "s.graphql" (some "Movies [2]") .universe
      toMovies).status = 0 := by
    decide +kernel
  exact ⟨writable_toMovies, (generate_succeeds_iff lawful_usual movieSchema false "s.graphql"
    (some "Movies [2]") .universe toMovies writable_toMovies).1.1 hstatus⟩

/-- The name of a workbook may be a tag that closes nothing.  Then the run fails, and the document is
there already. -/
theorem closing_name_fails_late :
    toMovies.Writable movieSchema.files ∧
      (∃ g, movieSchema.Makes "s.graphql" (some "[/x]") .universe g) ∧
      (movieSchema.generate false "s.graphql" (some "[/x]") .universe toMovies).status = 1 ∧
      (movieSchema.generate false "s.graphql" (some "[/x]") .universe toMovies).files ≠
        movieSchema.files := by
  have hplan : (WorkbookPlan.ofWord movieSchema.files "s.graphql").toOption =
      some { source := .str "type Query \x7b a: Int \x7d type Movie \x7b title: String \x7d" } := by
    decide +kernel
  have hmade : (Run.from_ {} (Workbook.generate movieSchema.network .universe
      { source := .str "type Query \x7b a: Int \x7d type Movie \x7b title: String \x7d",
        name := some "[/x]" } .null)).1.toOption.isSome = true := by
    decide +kernel
  have hmakes : ∃ g, movieSchema.Makes "s.graphql" (some "[/x]") .universe g := by
    obtain ⟨g, hg⟩ := Option.isSome_iff_exists.1 hmade
    exact ⟨g, _, eq_ok_of_toOption hplan, eq_ok_of_toOption hg⟩
  have hend : (movieSchema.generate false "s.graphql" (some "[/x]") .universe toMovies).status = 1 ∧
      (movieSchema.generate false "s.graphql" (some "[/x]") .universe toMovies).files ≠
        movieSchema.files := by
    decide +kernel
  exact ⟨writable_toMovies, hmakes, hend⟩

end Surroundings

end SchemaSheets
