import SchemaSheets.Proofs.Source.Roots

/-!
# Names without fields

The names of a document's object types can be listed without a look at their
fields.  Reading the types in full looks at all that the listing looks at, in the
same order, and at the fields besides.  So the two agree on the names wherever
the types can be read, and where the names cannot be listed the types cannot be
read either.
-/

namespace SchemaSheets

open Steps

namespace Introspection

variable {α β : Type} {document data : Value} {entries : List Value} {e : Failure}
variable {full : Value → Except Failure α} {short : Value → Except Failure β} {part : α → β}

/-! ### A part of an action -/

/-- One action does the first part of another: its result is a part of the other's, and where it
fails the other fails in the same way. -/
structure IsPart (short : Value → Except Failure β) (full : Value → Except Failure α)
    (part : α → β) : Prop where
  ok : ∀ data a, full data = .ok a → short data = .ok (part a)
  error : ∀ data e, short data = .error e → full data = .error e

theorem IsPart.visit_ok (h : IsPart short full part) {r : Option α}
    (hr : visit full data = .ok r) : visit short data = .ok (r.map part) := by
  cases r with
  | none => exact visit_eq_none_iff.2 (visit_eq_none_iff.1 hr)
  | some a =>
    obtain ⟨hchosen, ha⟩ := visit_eq_some_iff.1 hr
    exact visit_eq_some_iff.2 ⟨hchosen, h.ok data a ha⟩

theorem IsPart.visit_error (h : IsPart short full part) (he : visit short data = .error e) :
    visit full data = .error e := by
  rw [visit_eq] at he ⊢
  split at he
  next hchosen =>
    have hshort := map_eq_error_iff.1 he
    rw [h.error data e hshort]
    rfl
  next => contradiction
  next =>
    cases he
    rfl

/-- Only the rest of an action can fail at an entry where its first part succeeds. -/
theorem chosen_of_visit {r : Option β} (hshort : visit short data = .ok r)
    (hfull : visit full data = .error e) :
    Chosen data ∧ full data = .error e ∧ ∃ b, short data = .ok b := by
  cases r with
  | none =>
    have hpassed : visit full data = .ok none := visit_eq_none_iff.2 (visit_eq_none_iff.1 hshort)
    cases hpassed.symm.trans hfull
  | some b =>
    obtain ⟨hchosen, hb⟩ := visit_eq_some_iff.1 hshort
    rw [visit_eq, isDomainObject_eq_true_iff.2 hchosen] at hfull
    exact ⟨hchosen, map_eq_error_iff.1 hfull, b, hb⟩

/-! ### All entries -/

theorem IsPart.run_ok (h : IsPart short full part) {as : List α}
    (has : forDomainObjects full entries = .ok as) :
    forDomainObjects short entries = .ok (as.map part) := by
  rw [forDomainObjects_eq_mapM, map_eq_ok_iff] at has ⊢
  obtain ⟨parts, hparts, rfl⟩ := has
  refine ⟨parts.map (Option.map part), ?_, ?_⟩
  · rw [mapM_eq_ok_iff] at hparts ⊢
    rw [List.forall₂_map_right_iff]
    exact hparts.imp fun _ _ => h.visit_ok
  · rw [List.filterMap_map, List.map_filterMap]
    rfl

/-- Where the first part fails, the action fails: in the same way, or before that at an entry that
only the first part gets over. -/
theorem IsPart.run_error (h : IsPart short full part)
    (he : forDomainObjects short entries = .error e) :
    ∃ e', forDomainObjects full entries = .error e' ∧ (e' = e ∨ ∃ data ∈ entries, Chosen data ∧
      full data = .error e' ∧ ∃ b, short data = .ok b) := by
  rw [forDomainObjects_eq_mapM, map_eq_error_iff] at he
  obtain ⟨before, data, after, hsplit, -, hdata⟩ := mapM_eq_error_iff.1 he
  have hmem : data ∈ entries := by simp [hsplit]
  obtain ⟨e', he'⟩ := exists_mapM_eq_error_iff.2 ⟨data, hmem, e, h.visit_error hdata⟩
  refine ⟨e', by rw [forDomainObjects_eq_mapM, map_eq_error_iff, he'], ?_⟩
  obtain ⟨before', data', after', hsplit', hbefore', hdata'⟩ := mapM_eq_error_iff.1 he'
  cases hshort : visit short data' with
  | ok r =>
    have hmem' : data' ∈ entries := by simp [hsplit']
    exact .inr ⟨data', hmem', chosen_of_visit hshort hdata'⟩
  | error d =>
    -- no entry before this one stops the first part, so this one does
    have hfirst : entries.mapM (visit short) = .error d :=
      mapM_eq_error_iff.2 ⟨before', data', after', hsplit',
        fun x hx => (hbefore' x hx).elim fun r hr => ⟨_, h.visit_ok hr⟩, hshort⟩
    have hde : d = e := Except.error.inj (hfirst.symm.trans he)
    have he'd : e' = d := Except.error.inj (hdata'.symm.trans (h.visit_error hshort))
    exact .inl (he'd.trans hde)

/-! ### Names -/

/-- The name that an entry has to have. -/
def readName (data : Value) : Except Failure Value := (data.member "name").mapError .misuse

theorem isPart_readName : IsPart readName SourceObject.ofValue (·.name) where
  ok data o ho := by
    obtain ⟨items, ⟨members, rfl, hname, -, -⟩, -⟩ := SourceObject.ofValue_eq_ok_iff.1 ho
    have hmember : (Value.map members).member "name" = .ok o.name := by rw [Value.member, hname]
    rw [readName, hmember]
    rfl
  error data e he := by
    obtain ⟨m, hm, rfl⟩ := mapError_eq_error_iff.1 he
    rw [SourceObject.ofValue, hm, lift_misuse_error_bind]

theorem objectNames_of_types (h : types document = .ok entries) :
    objectNames document = forDomainObjects readName entries := by
  have haction : (fun data : Value => (do return ← data.member "name" : Except Failure Value)) =
      readName := by
    funext data
    rw [readName]
    cases data.member "name" <;> rfl
  rw [objectNames, haction, h]
  rfl

theorem objects_of_types (h : types document = .ok entries) :
    objects document = forDomainObjects SourceObject.ofValue entries := by
  rw [objects, h]
  rfl

/-- Where the object types of a document can be read, their names are listed, each as often and in
the same order.  Where the names cannot be listed the types cannot be read: they fail in the same
way, or in the fields of an object type with a name. -/
theorem objectNames_agree (document : Value) :
    (∀ os, objects document = .ok os → objectNames document = .ok (os.map (·.name))) ∧
      ∀ e, objectNames document = .error e → ∃ e', objects document = .error e' ∧
        (e' = e ∨ ∃ entries data name, Lists document entries ∧ data ∈ entries ∧ Chosen data ∧
          data.member "name" = .ok name ∧ SourceObject.ofValue data = .error e') := by
  cases htypes : types document with
  | error m =>
    have hobjects : objects document = .error (.malformed m) := by
      rw [objects, htypes]
      rfl
    have hnames : objectNames document = .error (.malformed m) := by
      rw [objectNames, htypes]
      rfl
    rw [hobjects, hnames]
    constructor
    · rintro os ⟨⟩
    · rintro e ⟨⟩
      exact ⟨_, rfl, .inl rfl⟩
  | ok entries =>
    rw [objects_of_types htypes, objectNames_of_types htypes]
    refine ⟨fun os => isPart_readName.run_ok, fun e he => ?_⟩
    obtain ⟨e', he', hcause⟩ := isPart_readName.run_error he
    refine ⟨e', he', hcause.imp_right ?_⟩
    rintro ⟨data, hmem, hchosen, hfull, name, hname⟩
    exact ⟨entries, data, name, types_eq_ok_iff.1 htypes, hmem, hchosen,
      mapError_eq_ok_iff.1 hname, hfull⟩

/-- An entry of an object type whose fields are no list. -/
def misshapen (name : String) : Value :=
  .record [("kind", .str "OBJECT"), ("name", .str name), ("fields", .int 1)]

/-- A name is listed as often as it occurs.  Behind an object type without readable fields, an entry
that is no record ends the list of names. -/
theorem objectNames_agree_on_movies :
    objects (queried "Query" [emptyObject "Query", emptyObject "Movie", emptyObject "__Type",
        emptyObject "Movie"]) = .ok [{ name := .str "Movie" }, { name := .str "Movie" }] ∧
      objectNames (queried "Query" [emptyObject "Query", emptyObject "Movie", emptyObject "__Type",
        emptyObject "Movie"]) = .ok [.str "Movie", .str "Movie"] ∧
      objectNames (queried "Query" [misshapen "Movie", .null]) =
        .error (.misuse (.lacks "NoneType" "get")) ∧
      ∃ e', objects (queried "Query" [misshapen "Movie", .null]) = .error e' := by
  have hread : objects (queried "Query" [emptyObject "Query", emptyObject "Movie",
      emptyObject "__Type", emptyObject "Movie"]) =
        .ok [{ name := .str "Movie" }, { name := .str "Movie" }] := rfl
  have hnames : objectNames (queried "Query" [misshapen "Movie", .null]) =
      .error (.misuse (.lacks "NoneType" "get")) := rfl
  obtain ⟨hagree, -⟩ := objectNames_agree (queried "Query" [emptyObject "Query",
    emptyObject "Movie", emptyObject "__Type", emptyObject "Movie"])
  obtain ⟨-, hfails⟩ := objectNames_agree (queried "Query" [misshapen "Movie", .null])
  obtain ⟨e', he', -⟩ := hfails _ hnames
  exact ⟨hread, hagree _ hread, hnames, e', he'⟩

end Introspection

end SchemaSheets
