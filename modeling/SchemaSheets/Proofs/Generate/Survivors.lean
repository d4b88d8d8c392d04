import SchemaSheets.Proofs.Generate.Runs
import Mathlib.Data.List.Nodup
import Mathlib.Logic.Relation

/-!
# Sheets that survive

Which sheets are left of source objects when their references are checked
until nothing is dropped any more.  An object refers to the names under the
non-null wrappers of its fields' types; a sheet is dropped exactly if a chain
of such references leads from its object out of the list, and every reference
of a sheet that is left finds a sheet and a column that are left.
-/

namespace SchemaSheets

open Steps

theorem Value.text?_eq_some_iff {v : Value} {s : String} : v.text? = some s ↔ v = .str s := by
  unfold Value.text?
  split
  · simp
  · rename_i h
    simp only [reduceCtorEq, false_iff]
    exact h s

/-! ### References between source objects -/

namespace SourceObject

/-- A field of the object has an object type of the name under its non-null wrappers. -/
def RefersTo (o : SourceObject) (n : String) : Prop :=
  ∃ f ∈ o.fields, ∃ name, f.type.core = .object name ∧ Check.text name = .ok n

/-- The first object refers to the name of the second, which is in the list. -/
def Refers (objects : List SourceObject) (a b : SourceObject) : Prop :=
  b ∈ objects ∧ ∃ n, a.RefersTo n ∧ b.name = .str n

/-- A chain of references leads from the object to a name that no object of the list has. -/
def LeadsOut (objects : List SourceObject) (o : SourceObject) : Prop :=
  ∃ p n, Relation.ReflTransGen (Refers objects) o p ∧ p.RefersTo n ∧
    ∀ q ∈ objects, q.name ≠ .str n

theorem mem_targets_iff {o : SourceObject} {n : String} : n ∈ o.targets ↔ o.RefersTo n := by
  simp [targets, RefersTo, TypeRef.target?_eq_some_iff]

variable {objects ring : List SourceObject} {o : SourceObject}

/-- What an object that does not lead out refers to is in the list and does not lead out either. -/
theorem exists_refers_of_not_leadsOut (h : ¬LeadsOut objects o) {n : String}
    (hn : o.RefersTo n) : ∃ q ∈ objects, q.name = .str n ∧ ¬LeadsOut objects q := by
  by_cases hq : ∃ q ∈ objects, q.name = .str n
  · obtain ⟨q, hq, hname⟩ := hq
    refine ⟨q, hq, hname, ?_⟩
    rintro ⟨p, m, hchain, hm, hout⟩
    exact h ⟨p, m, hchain.head ⟨hq, n, hn, hname⟩, hm, hout⟩
  · exact absurd ⟨o, n, .refl, hn, fun q hmem hname => hq ⟨q, hmem, hname⟩⟩ h

theorem eq_of_name_eq (hd : (objects.map (·.name)).Nodup) {a b : SourceObject}
    (ha : a ∈ objects) (hb : b ∈ objects) (h : a.name = b.name) : a = b :=
  List.inj_on_of_nodup_map hd ha hb h

/-- No chain leads out of objects that only refer to each other. -/
theorem not_leadsOut_of_ring (hd : (objects.map (·.name)).Nodup) (hring : ring ⊆ objects)
    (hclosed : ∀ a ∈ ring, ∀ n, a.RefersTo n → ∃ b ∈ ring, b.name = .str n)
    (ho : o ∈ ring) : ¬LeadsOut objects o := by
  rintro ⟨p, n, hchain, hn, hout⟩
  induction hchain using Relation.ReflTransGen.head_induction_on with
  | refl =>
    obtain ⟨b, hb, hname⟩ := hclosed p ho n hn
    exact hout b (hring hb) hname
  | @head a c hac _ ih =>
    obtain ⟨hc, m, hm, hname⟩ := hac
    obtain ⟨b, hb, hbname⟩ := hclosed a ho m hm
    have hbc : b = c := eq_of_name_eq hd (hring hb) hc (hbname.trans hname.symm)
    exact ih (hbc ▸ hb)

end SourceObject

/-! ### Sheets made from objects -/

namespace Sheet

/-- The sheet that is generated from an object, whatever the session. -/
def MadeFrom (overrides : List SheetOverride) (o : SourceObject) (t : Sheet) : Prop :=
  ∀ s, ∃ s', Run.from_ s (generate o overrides) = (.ok t, s')

variable {overrides : List SheetOverride} {objects : List SourceObject} {o : SourceObject}
  {t : Sheet}

theorem madeFrom_iff : MadeFrom overrides o t ↔ ∃ notes, account overrides o = .ok (t, notes) := by
  constructor
  · intro h
    obtain ⟨s', hs⟩ := h {}
    obtain ⟨notes, hnotes, -⟩ := (generate_keeps o overrides).from_eq_ok_iff.1 hs
    exact ⟨notes, hnotes⟩
  · rintro ⟨notes, hnotes⟩ s
    exact ⟨_, (generate_keeps o overrides).from_eq_ok_iff.2 ⟨notes, hnotes, rfl⟩⟩

theorem MadeFrom.name_eq (h : MadeFrom overrides o t) : o.name = .str t.slug := by
  obtain ⟨notes, h⟩ := madeFrom_iff.1 h
  exact name_of_account h

theorem MadeFrom.slug_eq (h : MadeFrom overrides o t) {n : String} (hn : o.name = .str n) :
    t.slug = n := by
  have heq := h.name_eq.symm.trans hn
  simpa using heq

theorem MadeFrom.mem_targets_iff (h : MadeFrom overrides o t) {n : String} :
    n ∈ t.targets ↔ o.RefersTo n := by
  obtain ⟨notes, h⟩ := madeFrom_iff.1 h
  rw [targets_of_account h, SourceObject.mem_targets_iff]

theorem MadeFrom.looksUpId (h : MadeFrom overrides o t) {c : Field} (hc : c ∈ t.fields) :
    c.LooksUpId := by
  obtain ⟨notes, h⟩ := madeFrom_iff.1 h
  exact looksUpId_of_account h hc

theorem MadeFrom.id_mem (h : MadeFrom overrides o t) : ∃ c ∈ t.fields, c.key = idKey := by
  obtain ⟨notes, h⟩ := madeFrom_iff.1 h
  exact id_mem_of_account h

theorem forall₂_madeFrom {made : List (Sheet × List Note)}
    (h : objects.mapM (account overrides) = .ok made) :
    List.Forall₂ (MadeFrom overrides) objects (made.map Prod.fst) := by
  rw [List.forall₂_map_right_iff]
  exact (mapM_eq_ok_iff.1 h).imp fun _ p hp => madeFrom_iff.2 ⟨p.2, hp⟩

/-! ### Survivors -/

theorem mem_names_iff {n : String} :
    n ∈ objects.filterMap (·.name.text?) ↔ ∃ o ∈ objects, o.name = .str n := by
  simp only [List.mem_filterMap, Value.text?_eq_some_iff]

theorem survivors_succeed_iff {s : Session} :
    (∃ stay s', Run.from_ s (generateAll .survivors objects overrides) = (.ok stay, s')) ↔
      ∀ o ∈ objects, o.Usable := generateAll_succeeds_iff

theorem exists_sheets_of_survivors {s s' : Session} {stay : List Sheet}
    (h : Run.from_ s (generateAll .survivors objects overrides) = (.ok stay, s')) :
    ∃ sheets, (∀ t, t ∈ sheets ↔ ∃ o ∈ objects, MadeFrom overrides o t) ∧
      (∀ o ∈ objects, ∃ t, MadeFrom overrides o t) ∧
      stay = (Integrity.rounds (objects.filterMap (·.name.text?)) sheets).1 := by
  obtain ⟨notes, hr, -⟩ := (generateAll_keeps .survivors objects overrides).from_eq_ok_iff.1 h
  obtain ⟨made, hmade, he⟩ := map_eq_ok_iff.1 hr
  refine ⟨made.map Prod.fst, fun t => ?_, fun o ho => ?_, (congrArg Prod.fst he).symm⟩
  · simp only [List.mem_map, mem_mapM_iff hmade, madeFrom_iff]
    constructor
    · rintro ⟨⟨u, notes⟩, ⟨o, ho, ha⟩, rfl⟩
      exact ⟨o, ho, notes, ha⟩
    · rintro ⟨o, ho, notes, ha⟩
      exact ⟨(t, notes), ⟨o, ho, ha⟩, rfl⟩
  · obtain ⟨⟨t, notes⟩, ha⟩ := exists_mapM_eq_ok_iff.1 ⟨made, hmade⟩ o ho
    exact ⟨t, madeFrom_iff.2 ⟨notes, ha⟩⟩

variable {s s' : Session} {stay : List Sheet}

theorem madeFrom_of_survives
    (h : Run.from_ s (generateAll .survivors objects overrides) = (.ok stay, s'))
    (ht : t ∈ stay) : ∃ o ∈ objects, MadeFrom overrides o t := by
  obtain ⟨sheets, hsheets, -, rfl⟩ := exists_sheets_of_survivors h
  exact (hsheets t).1 ((Integrity.rounds_sublist _ _).subset ht)

theorem closed_survivors
    (h : Run.from_ s (generateAll .survivors objects overrides) = (.ok stay, s')) :
    Integrity.Closed stay := by
  obtain ⟨made, -, rfl, -⟩ := generateAll_eq_ok_iff.1 h
  exact Integrity.closed_rounds_of_subset (List.Subset.refl _)

/-- The sheet of an object that no chain leads out from. -/
def Stands (overrides : List SheetOverride) (objects : List SourceObject) (t : Sheet) : Prop :=
  ∃ o ∈ objects, MadeFrom overrides o t ∧ ¬o.LeadsOut objects

theorem survives_of_stands
    (h : Run.from_ s (generateAll .survivors objects overrides) = (.ok stay, s'))
    (ht : Stands overrides objects t) : t ∈ stay := by
  obtain ⟨sheets, hsheets, hall, rfl⟩ := exists_sheets_of_survivors h
  have hsupport : ∀ t ∈ sheets, Stands overrides objects t → ∀ n ∈ t.targets,
      n ∈ objects.filterMap (·.name.text?) ∧
        ∃ u ∈ sheets, Stands overrides objects u ∧ u.slug = n := by
    rintro t - ⟨o, -, ht, hnot⟩ n hn
    obtain ⟨q, hq, hname, hqnot⟩ :=
      SourceObject.exists_refers_of_not_leadsOut hnot (ht.mem_targets_iff.1 hn)
    obtain ⟨u, hu⟩ := hall q hq
    exact ⟨mem_names_iff.2 ⟨q, hq, hname⟩, u, (hsheets u).2 ⟨q, hq, hu⟩, ⟨q, hq, hu, hqnot⟩,
      hu.slug_eq hname⟩
  have hmem : t ∈ sheets := by
    obtain ⟨o, ho, hmade, -⟩ := ht
    exact (hsheets t).2 ⟨o, ho, hmade⟩
  exact Integrity.mem_rounds_of_support hsupport hmem ht

theorem not_survives_of_leadsOut
    (h : Run.from_ s (generateAll .survivors objects overrides) = (.ok stay, s'))
    (hd : (objects.map (·.name)).Nodup) (ht : MadeFrom overrides o t)
    (hout : o.LeadsOut objects) : t ∉ stay := by
  have hclosed := closed_survivors h
  -- a target of a survivor is the name of an object whose sheet survives
  have hnext : ∀ {o : SourceObject} {t : Sheet}, MadeFrom overrides o t → t ∈ stay →
      ∀ {n : String}, o.RefersTo n →
        ∃ q ∈ objects, q.name = .str n ∧ ∃ u ∈ stay, MadeFrom overrides q u := by
    intro o t ht hstay n hn
    obtain ⟨u, hu, hslug⟩ :=
      Integrity.mem_slugs.1 (hclosed t hstay n (ht.mem_targets_iff.2 hn))
    obtain ⟨q, hq, hmade⟩ := madeFrom_of_survives h hu
    exact ⟨q, hq, hslug ▸ hmade.name_eq, u, hu, hmade⟩
  obtain ⟨p, n, hchain, hn, hnone⟩ := hout
  induction hchain using Relation.ReflTransGen.head_induction_on generalizing t with
  | refl =>
    intro hstay
    obtain ⟨q, hq, hname, -⟩ := hnext ht hstay hn
    exact hnone q hq hname
  | @head a c hac _ ih =>
    intro hstay
    obtain ⟨hc, m, hm, hcname⟩ := hac
    obtain ⟨q, hq, hname, u, hu, hmade⟩ := hnext ht hstay hm
    have hqc : q = c := SourceObject.eq_of_name_eq hd hq hc (hname.trans hcname.symm)
    exact ih (hqc ▸ hmade) hu

/-- A run in the `survivors` mode returns exactly if there is a sheet of every object.  It then
drops the sheet of an object exactly if a chain of references leads out of the list, and objects
that only refer to each other all keep theirs. -/
theorem survivors_drop_iff_leadsOut (objects : List SourceObject) (overrides : List SheetOverride)
    (s : Session) (hd : (objects.map (·.name)).Nodup) :
    ((∃ stay s', Run.from_ s (generateAll .survivors objects overrides) = (.ok stay, s')) ↔
      ∀ o ∈ objects, o.Usable) ∧
    ∀ stay s', Run.from_ s (generateAll .survivors objects overrides) = (.ok stay, s') →
      (∀ t ∈ stay, ∃ o ∈ objects, MadeFrom overrides o t) ∧
      (∀ o ∈ objects, ∃ t, MadeFrom overrides o t ∧ (t ∉ stay ↔ o.LeadsOut objects)) ∧
      ∀ ring ⊆ objects, (∀ a ∈ ring, ∀ n, a.RefersTo n → ∃ b ∈ ring, b.name = .str n) →
        ∀ o ∈ ring, ∃ t ∈ stay, MadeFrom overrides o t := by
  refine ⟨survivors_succeed_iff, fun stay s' h => ?_⟩
  obtain ⟨sheets, hsheets, hall, -⟩ := exists_sheets_of_survivors h
  refine ⟨fun t ht => madeFrom_of_survives h ht, fun o ho => ?_, fun ring hring hclosed o ho => ?_⟩
  · obtain ⟨t, ht⟩ := hall o ho
    refine ⟨t, ht, ?_, not_survives_of_leadsOut h hd ht⟩
    intro hdrop
    by_contra hnot
    exact hdrop (survives_of_stands h ⟨o, ho, ht, hnot⟩)
  · obtain ⟨t, ht⟩ := hall o (hring ho)
    have hnot := SourceObject.not_leadsOut_of_ring hd hring hclosed ho
    exact ⟨t, survives_of_stands h ⟨o, hring ho, ht, hnot⟩, ht⟩

/-- An object with a column for each of the names that it refers to. -/
def linked (name : String) (targets : List String) : SourceObject :=
  { name := .str name
    fields := targets.map fun n => { name := .str "next", type := .nonNull (.object (.str n)) } }

theorem usable_linked (name : String) (targets : List String) : (linked name targets).Usable := by
  refine ⟨⟨name, rfl⟩, Value.describes_str "", ?_⟩
  simp only [linked, List.forall_mem_map]
  exact fun n _ => ⟨trivial, ⟨n, rfl⟩, ⟨"next", rfl⟩, Value.describes_str ""⟩

@[simp] theorem name_linked (name : String) (targets : List String) :
    (linked name targets).name = .str name := rfl

@[simp] theorem refersTo_linked {name n : String} {targets : List String} :
    (linked name targets).RefersTo n ↔ n ∈ targets := by
  simp [SourceObject.RefersTo, linked, TypeRef.core, Check.text]

/-- Two objects in a cycle, and two in a chain that leads out. -/
def ringAndChain : List SourceObject :=
  [linked "A" ["B"], linked "B" ["A"], linked "C" ["A", "D"], linked "D" ["Missing"]]

theorem survivors_keep_ring_drop_chain :
    ∃ stay s', Run.from_ {} (generateAll .survivors ringAndChain []) = (.ok stay, s') ∧
      (∃ t ∈ stay, MadeFrom [] (linked "A" ["B"]) t) ∧
      ∃ t, t ∉ stay ∧ MadeFrom [] (linked "C" ["A", "D"]) t := by
  have hd : (ringAndChain.map (·.name)).Nodup := by decide
  obtain ⟨hreturns, hruns⟩ := survivors_drop_iff_leadsOut ringAndChain [] {} hd
  obtain ⟨stay, s', h⟩ := hreturns.2 (by simp [ringAndChain, usable_linked])
  obtain ⟨-, hdrop, hring⟩ := hruns stay s' h
  refine ⟨stay, s', h, ?_, ?_⟩
  · refine hring [linked "A" ["B"], linked "B" ["A"]] (by simp [ringAndChain]) ?_ _ (by simp)
    simp
  · obtain ⟨t, ht, hiff⟩ := hdrop (linked "C" ["A", "D"]) (by simp [ringAndChain])
    have hout : (linked "C" ["A", "D"]).LeadsOut ringAndChain := by
      refine ⟨linked "D" ["Missing"], "Missing", .single ⟨?_, "D", ?_, rfl⟩, ?_, ?_⟩
      · simp [ringAndChain]
      · simp
      · simp
      · simp [ringAndChain]
    exact ⟨t, hiff.2 hout, ht⟩

/-- Every reference of a sheet that a run in the `survivors` mode returns finds a sheet that is
returned too, and a column there. -/
theorem survivors_references_resolve (objects : List SourceObject)
    (overrides : List SheetOverride) (s : Session) :
    ((∃ stay s', Run.from_ s (generateAll .survivors objects overrides) = (.ok stay, s')) ↔
      ∀ o ∈ objects, o.Usable) ∧
    ∀ stay s', Run.from_ s (generateAll .survivors objects overrides) = (.ok stay, s') →
      ∀ t ∈ stay, ∀ c ∈ t.fields, c.isReference = true → ∃ r, c.reference = some r ∧
        ∃ u ∈ stay, u.slug = r.target ∧ ∃ g ∈ u.fields, g.key = r.key := by
  refine ⟨survivors_succeed_iff, fun stay s' h t ht c hc href => ?_⟩
  obtain ⟨o, -, hmade⟩ := madeFrom_of_survives h ht
  obtain ⟨r, hr, hkey⟩ := hmade.looksUpId hc href
  have htarget : r.target ∈ t.targets :=
    List.mem_filterMap.2 ⟨c, hc, by simp [Field.target?, href, hr]⟩
  obtain ⟨u, hu, hslug⟩ := Integrity.mem_slugs.1 (closed_survivors h t ht r.target htarget)
  obtain ⟨q, -, humade⟩ := madeFrom_of_survives h hu
  obtain ⟨g, hg, hgkey⟩ := humade.id_mem
  exact ⟨r, hr, u, hu, hslug, g, hg, hgkey.trans hkey.symm⟩

def linkedColumn (target : String) : Field :=
  { key := "next", label := "Next", type := .reference, constraints := [.required],
    reference := some { target := target } }

def linkedSheet (name target : String) : Sheet :=
  { name := name, slug := name, fields := [idField, linkedColumn target] }

theorem survivors_references_resolve_in_ring :
    ∃ stay s', Run.from_ {} (generateAll .survivors ringAndChain []) = (.ok stay, s') ∧
      ∃ t ∈ stay, ∃ c ∈ t.fields, c.isReference = true ∧ ∃ r, c.reference = some r ∧
        ∃ u ∈ stay, u.slug = r.target ∧ ∃ g ∈ u.fields, g.key = r.key := by
  have h : Run.from_ {} (generateAll .survivors ringAndChain []) =
      (.ok [linkedSheet "A" "B", linkedSheet "B" "A"],
        (Run.from_ {} (generateAll .survivors ringAndChain [])).2) := rfl
  obtain ⟨-, hresolve⟩ := survivors_references_resolve ringAndChain [] {}
  have ht : linkedSheet "A" "B" ∈ [linkedSheet "A" "B", linkedSheet "B" "A"] := .head _
  have hc : linkedColumn "B" ∈ (linkedSheet "A" "B").fields := .tail _ (.head _)
  exact ⟨_, _, h, _, ht, _, hc, rfl, hresolve _ _ h _ ht _ hc rfl⟩

end Sheet

end SchemaSheets
