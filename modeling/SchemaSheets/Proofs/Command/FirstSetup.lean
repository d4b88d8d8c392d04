import SchemaSheets.Command.Run
import SchemaSheets.Proofs.Files.Store
import SchemaSheets.Proofs.Setup.Template

/-!
# A first setup loads

What is written for a source is read back as a setup of one workbook with that source, unless the
source ends in a colon, some character may not stand in a stream, or the path asks for JSON.
-/

namespace SchemaSheets

namespace Setup

open Yaml

variable {output source : String}

theorem ofFile_eq [Capacity] {files : Files} {p : Path} {text : String}
    (hthere : files.isThere p = .ok true)
    (hread : files.read p = .ok text) :
    ofFile files p = ((Format.ofInputSuffix p.suffix).read (Format.ofInputSuffix p.suffix).name text
      >>= ofDocument files p.parent) := by
  simp only [ofFile, hthere, hread]
  rfl

/-- What a path and a source need for the template to be read back. -/
structure Loadable (output source : String) : Prop where
  /-- the document is read as YAML -/
  format : Format.ofInputSuffix (Path.ofText output).suffix = .yaml
  output_allowed : output.toList.all isAllowed = true
  source_allowed : source.toList.all isAllowed = true
  no_colon : source.toList.getLast? ≠ some ':'

section

variable [Capacity] {files : Files} (hroom : templateDepth ≤ Capacity.yaml)
  (habsolute : Url.isAbsolute source.toList = true)
  (htrim : Text.trim source.toList = source.toList)
  (hline : ∀ x ∈ output.toList, isLineEnd (some x) = false)
  (hthere : files.isThere (Path.ofText output) = .ok true)
  (hread : files.read (Path.ofText output) = .ok (template output source))

include hroom habsolute htrim hline hthere hread

theorem ofFile_of_loadable (h : Loadable output source) :
    ofFile files (Path.ofText output) = .ok (first source) := by
  have hsource : IsSource source.toList := ⟨habsolute, htrim, List.all_eq_true.1 h.source_allowed⟩
  have hformat := format_read_template Format.yaml.name
    (yaml_read_template hsource h.no_colon hline h.output_allowed hroom)
  rw [ofFile_eq hthere hread, h.format, hformat]
  exact ofDocument_template files (Path.ofText output).parent source

theorem ofFile_of_not_loadable (h : ¬Loadable output source) :
    ∃ e, ofFile files (Path.ofText output) = .error e := by
  rw [ofFile_eq hthere hread]
  suffices hformat : ∃ e, (Format.ofInputSuffix (Path.ofText output).suffix).read
      (Format.ofInputSuffix (Path.ofText output).suffix).name (template output source) = .error e by
    obtain ⟨e, he⟩ := hformat
    rw [he]
    exact ⟨e, rfl⟩
  cases hf : Format.ofInputSuffix (Path.ofText output).suffix with
  | json =>
    obtain ⟨rest, hrest⟩ := exists_head_template output source
    exact format_read_json hrest
  | yaml =>
    apply format_read_malformed
    apply yaml_read_malformed
    cases hallowed : (template output source).toList.all isAllowed with
    | false => rw [tokens_of_not_allowed hallowed, ofTokens_fault]
    | true =>
      rw [all_isAllowed_template, Bool.and_eq_true] at hallowed
      have hsource : IsSource source.toList := ⟨habsolute, htrim, List.all_eq_true.1 hallowed.2⟩
      by_cases hcolon : source.toList.getLast? = some ':'
      · obtain ⟨front, hfront⟩ := tokens_template_colon hsource hcolon hline hallowed.1
        rw [hfront, ofTokens_colon front hroom]
      · exact absurd ⟨hf, hallowed.1, hallowed.2, hcolon⟩ h

end

end Setup

namespace Surroundings

open Setup Yaml

variable {output source : String} {files : Files}

theorem initConfig_files [Terminal] (s : Surroundings)
    (hsave : s.files.save (Path.ofText output) (template output source) = .ok files) :
    (s.initConfig output source).files = files := by
  rw [initConfig, hsave]
  dsimp only
  cases Console.styled ("[green]Created config: " ++ output ++ "[/green]") with
  | ok lines => rfl
  | error fault => rfl

/-- A first setup for an absolute URL loads with that very source exactly if the path asks for YAML,
all characters may stand in a stream and the source does not end in a colon.  Otherwise it does not
load at all. -/
theorem initConfig_loads_iff [Capacity] [Terminal] (hroom : templateDepth ≤ Capacity.yaml)
    (s : Surroundings) (habsolute : Url.isAbsolute source.toList = true)
    (htrim : Text.trim source.toList = source.toList)
    (hline : ∀ x ∈ output.toList, isLineEnd (some x) = false)
    (hsave : s.files.save (Path.ofText output) (template output source) = .ok files) :
    (s.initConfig output source).files = files ∧
      (Setup.ofFile files (Path.ofText output) = .ok
        { plans := [{ source := .str source, name := some "GraphQL Workbook", overrides := some []
                      extras := [("labels", .list [])] }]
          space := [] } ↔ Loadable output source) ∧
      (¬Loadable output source → ∃ e, Setup.ofFile files (Path.ofText output) = .error e) := by
  obtain ⟨hthere, hread⟩ := Files.read_of_save hsave (not_mem_template habsolute htrim hline)
  have hloads := ofFile_of_loadable hroom habsolute htrim hline hthere hread
  have hfails := ofFile_of_not_loadable hroom habsolute htrim hline hthere hread
  refine ⟨s.initConfig_files hsave, ⟨fun hfile => ?_, hloads⟩, hfails⟩
  by_contra hnot
  obtain ⟨e, he⟩ := hfails hnot
  rw [hfile] at he
  cases he

/-- A working directory without files. -/
def emptyDirectory : Surroundings where
  program := "cli"
  files := { home := "w" }
  network := fun _ => .failed "ConnectError" ""

theorem save_emptyDirectory (text : String) :
    emptyDirectory.files.save (Path.ofText "graphql-workbook.yaml") text = .ok
      { home := "w"
        items := [(["graphql-workbook.yaml"], .file (Text.encodeUtf8 text))] } := by
  rfl

theorem initConfig_example_loads :
    let source := "https" ++ "://example.com/graphql"
    let output := "graphql-workbook.yaml"
    templateDepth ≤ Capacity.yaml ∧ Url.isAbsolute source.toList = true ∧
      Text.trim source.toList = source.toList ∧
      (∀ x ∈ output.toList, isLineEnd (some x) = false) ∧
      ∃ files, emptyDirectory.files.save (Path.ofText output) (template output source) = .ok files ∧
        Setup.ofFile files (Path.ofText output) = .ok
          { plans := [{ source := .str source, name := some "GraphQL Workbook", overrides := some []
                        extras := [("labels", .list [])] }]
            space := [] } := by
  have hroom : templateDepth ≤ Capacity.yaml := by decide
  have habsolute : Url.isAbsolute ("https" ++ "://example.com/graphql").toList = true := by
    decide +kernel
  have htrim : Text.trim ("https" ++ "://example.com/graphql").toList =
      ("https" ++ "://example.com/graphql").toList := by
    decide +kernel
  have hline : ∀ x ∈ "graphql-workbook.yaml".toList, isLineEnd (some x) = false := by
    decide +kernel
  have hloadable : Loadable "graphql-workbook.yaml" ("https" ++ "://example.com/graphql") := by
    constructor
    · decide +kernel
    · decide +kernel
    · decide +kernel
    · decide +kernel
  have hsave := save_emptyDirectory
    (template "graphql-workbook.yaml" ("https" ++ "://example.com/graphql"))
  have hloads := initConfig_loads_iff hroom emptyDirectory habsolute htrim hline hsave
  exact ⟨hroom, habsolute, htrim, hline, _, hsave, hloads.2.1.2 hloadable⟩

/-- An empty port leaves a colon at the end of a URL.  What is written then is no YAML. -/
theorem initConfig_colon_not_loaded :
    let source := "http" ++ "://example.com:"
    let output := "graphql-workbook.yaml"
    Url.isAbsolute source.toList = true ∧ Text.trim source.toList = source.toList ∧
      (∀ x ∈ output.toList, isLineEnd (some x) = false) ∧
      ∃ files, emptyDirectory.files.save (Path.ofText output) (template output source) = .ok files ∧
        (emptyDirectory.initConfig output source).files = files ∧
        ∃ e, Setup.ofFile files (Path.ofText output) = .error e := by
  have hroom : templateDepth ≤ Capacity.yaml := by decide
  have habsolute : Url.isAbsolute ("http" ++ "://example.com:").toList = true := by
    decide +kernel
  have htrim : Text.trim ("http" ++ "://example.com:").toList =
      ("http" ++ "://example.com:").toList := by
    decide +kernel
  have hline : ∀ x ∈ "graphql-workbook.yaml".toList, isLineEnd (some x) = false := by
    decide +kernel
  have hcolon : ¬Loadable "graphql-workbook.yaml" ("http" ++ "://example.com:") := by
    intro h
    exact h.no_colon (by decide +kernel)
  have hsave := save_emptyDirectory
    (template "graphql-workbook.yaml" ("http" ++ "://example.com:"))
  obtain ⟨hthere, hread⟩ := Files.read_of_save hsave (not_mem_template habsolute htrim hline)
  exact ⟨habsolute, htrim, hline, _, hsave, initConfig_files _ hsave,
    ofFile_of_not_loadable hroom habsolute htrim hline hthere hread hcolon⟩

end Surroundings

end SchemaSheets
