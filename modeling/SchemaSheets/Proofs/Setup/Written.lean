import SchemaSheets.Proofs.Json.RoundTrip
import SchemaSheets.Setup.Loading

/-!
# Setups from written mappings

A mapping that is written as JSON, on one line or on many, loads as the mapping
itself would.
-/

namespace SchemaSheets

namespace Setup

/-- A mapping written as a JSON document. -/
def jsonText (pretty : Bool) (D : Entries) : String :=
  (Format.forWriting "json").print pretty (.map D)

theorem jsonText_eq (pretty : Bool) (D : Entries) :
    ∃ layout, jsonText pretty D = String.ofList (Json.written layout (.map D)) ++ "\n" := by
  have hformat : Format.forWriting "json" = .json := by decide
  rw [jsonText, hformat]
  cases pretty with
  | true => exact ⟨.indented 0, rfl⟩
  | false => exact ⟨.compact, rfl⟩

theorem toList_jsonText {D : Entries} {pretty : Bool} {layout : Json.Layout}
    (h : jsonText pretty D = String.ofList (Json.written layout (.map D)) ++ "\n") :
    (jsonText pretty D).toList = Json.written layout (.map D) ++ ['\n'] := by
  rw [h]
  simp

/-- A mapping that JSON holds is written in ASCII.  It reads back as itself, its entries in their
order, wherever there is room for its lists and mappings, and so its text loads as it does. -/
theorem ofText_jsonText [Capacity] {D : Entries} (h : Json.Holds (.map D)) (pretty : Bool) :
    (∀ c ∈ (jsonText pretty D).toList, c.toNat < 0x80) ∧
      (∀ room, Json.documentWithin room (jsonText pretty D).toList =
        if Json.depth (.map D) ≤ room then .ok (.map D) else .error .tooDeep) ∧
      ∀ files base format, Format.forReading format = .json →
        ofText files base format (jsonText pretty D) =
          if Json.depth (.map D) ≤ Capacity.json then
            ofDocument files
              (if base == "" then { anchor := .home files.home } else Path.ofText base) (.map D)
          else .error (.misuse .tooDeep) := by
  obtain ⟨layout, hlayout⟩ := jsonText_eq pretty D
  refine ⟨?_, ?_, ?_⟩
  · intro c hc
    rw [toList_jsonText hlayout] at hc
    rcases List.mem_append.1 hc with hvalue | hline
    · exact h.ascii layout c hvalue
    · rw [List.mem_singleton.1 hline]
      decide
  · intro room
    rw [toList_jsonText hlayout]
    exact Json.documentWithin_written h layout room
  · intro files base format hformat
    have hread := Json.read_written h layout
    rw [← hlayout] at hread
    rw [ofText, hformat, Format.read, hread]
    by_cases hdepth : Json.depth (.map D) ≤ Capacity.json
    · rw [if_pos hdepth, if_pos hdepth]
      rfl
    · rw [if_neg hdepth, if_neg hdepth]
      rfl

/-- Quotes, line ends and characters of both planes, and each kind of part. -/
def spread : Entries :=
  [(.str "source", .str "type A \x7b\n  \"né 😀\"\n  x: Int\n\x7d"),
   (.str "n\\\"", .list [.int (-120), .int 0, .null, .bool true, .list [], .map []]),
   (.str "", .map [(.str "n\\\"", .list [.list [.str "\x7f"]])])]

theorem holds_spread : Json.Holds (.map spread) := by
  have hempty : Json.Holds (.list []) := .list nofun
  have hmap : Json.Holds (.map []) := .map nofun .nil nofun
  have hparts : Json.Holds (.list [.int (-120), .int 0, .null, .bool true, .list [], .map []]) := by
    apply Json.Holds.list
    simp only [List.forall_mem_cons]
    exact ⟨.int (by decide), .int (by decide), .null, .bool true, hempty, hmap, nofun⟩
  have hnested : Json.Holds (.list [.list [.str "\x7f"]]) := by
    apply Json.Holds.list
    simp only [List.forall_mem_cons]
    refine ⟨.list ?_, nofun⟩
    simp only [List.forall_mem_cons]
    exact ⟨.str _, nofun⟩
  have hinner : Json.Holds (.map [(.str "n\\\"", .list [.list [.str "\x7f"]])]) := by
    refine .map ?_ (by decide) ?_
    · simp
    · simpa only [List.forall_mem_cons] using ⟨hnested, nofun⟩
  refine .map ?_ (by decide) ?_
  · simp [spread]
  · simp only [spread, List.forall_mem_cons]
    exact ⟨.str _, hparts, hinner, nofun⟩

theorem ofText_jsonText_spread :
    Json.Holds (.map spread) ∧ Format.forReading "JSON" = .json ∧
      Json.documentWithin 980 (jsonText true spread).toList = .ok (.map spread) ∧
      ofText { home := "work" } "" "JSON" (jsonText false spread) =
        ofDocument { home := "work" } { anchor := .home "work" } (.map spread) := by
  have hformat : Format.forReading "JSON" = .json := by decide +kernel
  obtain ⟨-, hwithin, -⟩ := ofText_jsonText holds_spread true
  obtain ⟨-, -, hload⟩ := ofText_jsonText holds_spread false
  exact ⟨holds_spread, hformat, hwithin 980, hload { home := "work" } "" "JSON" hformat⟩

end Setup

end SchemaSheets
