import Mathlib.Data.List.Nodup
import SchemaSheets.Diagnostic

/-!
# Collectors put together

Collectors are put together like lists: in order, with nothing lost and nothing
said twice.  So every figure of a collector, and what it has under a code, is
put together from the figures of its parts.
-/

namespace SchemaSheets

namespace DiagnosticCode

/-- All codes. -/
def all : List DiagnosticCode := names.map Prod.snd

theorem nodup_all : all.Nodup := by decide

theorem mem_all (code : DiagnosticCode) : code ∈ all := by
  cases code <;> decide

end DiagnosticCode

namespace Diagnostics

@[simp] theorem merge_empty (a : Diagnostics) : a.merge {} = a := by
  simp [merge]

@[simp] theorem empty_merge (a : Diagnostics) : merge {} a = a := rfl

theorem merge_assoc (a b c : Diagnostics) : (a.merge b).merge c = a.merge (b.merge c) := by
  simp [merge]

theorem add_eq_merge (c : Diagnostics) (d : Diagnostic) : c.add d = c.merge ⟨[d]⟩ := rfl

/-- Many collectors put together one after another hold what they hold, in order. -/
theorem items_foldl_merge (a : Diagnostics) (cs : List Diagnostics) :
    (cs.foldl merge a).items = a.items ++ cs.flatMap (·.items) := by
  induction cs generalizing a with
  | nil => simp
  | cons c rest ih => simp [ih]

/-! ### Figures -/

theorem size_merge (a b : Diagnostics) : (a.merge b).size = a.size + b.size := by
  simp [size]

theorem count_merge (a b : Diagnostics) (s : Severity) :
    (a.merge b).count s = a.count s + b.count s := by
  simp [count]

theorem byCode_merge (a b : Diagnostics) (code : DiagnosticCode) :
    (a.merge b).byCode code = a.byCode code ++ b.byCode code := by
  simp [byCode]

/-- Every entry is counted under its severity. -/
theorem size_eq_counts (c : Diagnostics) :
    c.size = c.count .error + c.warningCount + c.infoCount := by
  obtain ⟨items⟩ := c
  induction items with
  | nil => rfl
  | cons d rest ih =>
    simp only [size, count, warningCount, infoCount, List.length_cons, List.countP_cons] at ih ⊢
    cases d.severity <;> simp <;> omega

/-- The whole has the figures of both parts, and under each code it has what they have. -/
structure Joins (a b whole : Diagnostics) : Prop where
  size : whole.size = a.size + b.size
  warnings : whole.warningCount = a.warningCount + b.warningCount
  infos : whole.infoCount = a.infoCount + b.infoCount
  byCode : ∀ code, whole.byCode code = a.byCode code ++ b.byCode code

theorem joins_merge (a b : Diagnostics) : Joins a b (a.merge b) where
  size := size_merge a b
  warnings := count_merge a b .warning
  infos := count_merge a b .info
  byCode := byCode_merge a b

/-! ### Codes -/

theorem byCode_cons_self (d : Diagnostic) (rest : List Diagnostic) :
    byCode ⟨d :: rest⟩ d.code = d :: byCode ⟨rest⟩ d.code := by
  simp [byCode]

theorem byCode_cons_of_ne {d : Diagnostic} {code : DiagnosticCode} (h : d.code ≠ code)
    (rest : List Diagnostic) : byCode ⟨d :: rest⟩ code = byCode ⟨rest⟩ code := by
  simp [byCode, h]

/-- One more entry is under its own code and under no other. -/
theorem flatMap_byCode_cons {codes : List DiagnosticCode} (hcodes : codes.Nodup) {d : Diagnostic}
    (hd : d.code ∈ codes) (rest : List Diagnostic) :
    (codes.flatMap (byCode ⟨d :: rest⟩)).Perm (d :: codes.flatMap (byCode ⟨rest⟩)) := by
  obtain ⟨before, after, rfl⟩ := List.append_of_mem hd
  obtain ⟨-, hafter, hapart⟩ := List.nodup_append.1 hcodes
  have hsame : ∀ part : List DiagnosticCode, d.code ∉ part →
      part.flatMap (byCode ⟨d :: rest⟩) = part.flatMap (byCode ⟨rest⟩) := by
    intro part hpart
    refine List.flatMap_congr fun code hcode => byCode_cons_of_ne ?_ rest
    exact fun h => hpart (h ▸ hcode)
  have hbefore : d.code ∉ before := fun hin => hapart _ hin _ (.head after) rfl
  simp only [List.flatMap_append, List.flatMap_cons, byCode_cons_self, hsame before hbefore,
    hsame after (List.nodup_cons.1 hafter).1, List.cons_append]
  exact List.perm_middle

/-- Every entry is under one code. -/
theorem byCode_perm (c : Diagnostics) : (DiagnosticCode.all.flatMap c.byCode).Perm c.items := by
  obtain ⟨items⟩ := c
  induction items with
  | nil => exact .refl _
  | cons d rest ih =>
    have hcons := flatMap_byCode_cons DiagnosticCode.nodup_all (DiagnosticCode.mem_all d.code) rest
    exact hcons.trans (ih.cons d)

end Diagnostics

end SchemaSheets
