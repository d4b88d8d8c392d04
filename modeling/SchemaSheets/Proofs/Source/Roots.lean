import SchemaSheets.Proofs.Source.Entries

/-!
# Root operation types

A document states which types are the roots of its operations, whatever they are
called.  The choice of domain objects goes by three usual names instead, so it
leaves out the root types, and nothing but them, exactly if among the object
types the roots are those that have one of these names.
-/

namespace SchemaSheets

open Steps

namespace Introspection

variable {document data : Value} {entries : List Value} {excluded : List String} {name : String}

/-! ### Choices by name -/

/-- The name of an entry; an entry without one counts as having an empty name. -/
def nameOf : Value → String
  | .map members => ((Entries.get members "name").text?).getD ""
  | _ => ""

/-- The entry is of an object type. -/
def isObject : Value → Bool
  | .map members => Entries.get members "kind" == .str "OBJECT"
  | _ => false

/-- A name that starts with an underscore. -/
def isPrivate (name : String) : Bool := name.toList.head? == some '_'

/-- The entry is of an object type whose name is neither excluded nor private. -/
def isTable (excluded : List String) (data : Value) : Bool :=
  isObject data && !excluded.contains (nameOf data) && !isPrivate (nameOf data)

theorem isTable_iff : isTable excluded data = true ↔
    isObject data = true ∧ nameOf data ∉ excluded ∧ isPrivate (nameOf data) = false := by
  simp [isTable, and_assoc]

/-- An entry with a text as its kind and one as its name; an object type is declared in full. -/
def WellFormed (data : Value) : Prop :=
  ∃ members kind name, data = .map members ∧ Entries.get members "kind" = .str kind ∧
    Entries.get? members "name" = some (.str name) ∧
      (kind = "OBJECT" → ∃ o, SourceObject.ofValue data = .ok o)

theorem WellFormed.readable (h : WellFormed data) (hobject : isObject data = true) :
    ∃ o, SourceObject.ofValue data = .ok o := by
  obtain ⟨members, kind, name, rfl, hkind, -, hread⟩ := h
  refine hread ?_
  simpa [isObject, hkind] using hobject

/-- The choice of domain objects goes by the usual names of the roots. -/
theorem WellFormed.isDomainObject_eq (h : WellFormed data) :
    isDomainObject data = .ok (isTable rootNames data) := by
  obtain ⟨members, kind, name, rfl, hkind, hname, -⟩ := h
  have htext : (Entries.get members "name").orElse (.str "") = .str name := by
    rw [Entries.get, hname]
    exact Value.orElse_str name
  have hnameOf : nameOf (.map members) = name := by
    simp [nameOf, Entries.get, hname, Value.text?]
  refine isDomainObject_eq_ok_iff.2 ⟨members, rfl, ?_⟩
  split
  · rename_i hobject
    rw [htext]
    simp [isTable, isObject, hobject, hnameOf, isDomainName?, isDomainName, isPrivate, bne]
  · rename_i hobject
    simp [isTable, isObject, hobject]

/-! ### Roots -/

/-- The members of a schema that state its root types. -/
def rootMembers : List String := ["queryType", "mutationType", "subscriptionType"]

/-- The names of the root types that a document states. -/
def statedRoots (document : Value) : List String :=
  match document with
  | .map members =>
    match Entries.get members "__schema" with
    | .map schema => rootMembers.filterMap fun m =>
      match Entries.get schema m with
      | .map root => (Entries.get root "name").text?
      | _ => none
    | _ => []
  | _ => []

/-- The entry is read as the object type. -/
def ReadAs (data : Value) (o : SourceObject) : Prop := SourceObject.ofValue data = .ok o

theorem WellFormed.name_eq (h : WellFormed data) {o : SourceObject} (ho : ReadAs data o) :
    o.name = .str (nameOf data) := by
  obtain ⟨members, kind, name, rfl, -, hname, -⟩ := h
  obtain ⟨items, ⟨_, ⟨⟩, hdeclared, -, -⟩, -⟩ := SourceObject.ofValue_eq_ok_iff.1 ho
  have hnameOf : nameOf (.map members) = name := by
    simp [nameOf, Entries.get, hname, Value.text?]
  rw [hnameOf]
  exact Option.some.inj (hdeclared.symm.trans hname)

theorem names_of_readAs {es : List Value} {objects : List SourceObject}
    (hwell : ∀ e ∈ es, WellFormed e) (h : List.Forall₂ ReadAs es objects) :
    objects.map (·.name) = es.map fun e => .str (nameOf e) := by
  induction h with
  | nil => rfl
  | @cons e o es objects ho _ ih =>
    obtain ⟨he, hrest⟩ := List.forall_mem_cons.1 hwell
    rw [List.map_cons, List.map_cons, he.name_eq ho, ih hrest]

/-- The names among the chosen entries: those of the object types that are not excluded. -/
theorem mem_names_filter_iff : name ∈ (entries.filter (isTable excluded)).map nameOf ↔
    (∃ e ∈ entries, isObject e = true ∧ nameOf e = name) ∧ name ∉ excluded ∧
      isPrivate name = false := by
  simp only [List.mem_map, List.mem_filter, isTable_iff]
  constructor
  · rintro ⟨e, ⟨he, hobject, hout, hpublic⟩, rfl⟩
    exact ⟨⟨e, he, hobject, rfl⟩, hout, hpublic⟩
  · rintro ⟨⟨e, he, hobject, rfl⟩, hout, hpublic⟩
    exact ⟨e, ⟨he, hobject, hout, hpublic⟩, rfl⟩

/-- Two lists of names exclude the same of the public object types. -/
def ExcludeAlike (entries : List Value) (excluded excluded' : List String) : Prop :=
  ∀ e ∈ entries, isObject e = true → isPrivate (nameOf e) = false →
    (nameOf e ∈ excluded ↔ nameOf e ∈ excluded')

theorem ExcludeAlike.filter_eq {excluded' : List String}
    (h : ExcludeAlike entries excluded excluded') :
    entries.filter (isTable excluded) = entries.filter (isTable excluded') := by
  refine List.filter_congr fun e he => ?_
  rw [Bool.eq_iff_iff, isTable_iff, isTable_iff]
  refine and_congr_right fun hobject => and_congr_left fun hpublic => ?_
  exact not_congr (h e he hobject hpublic)

theorem excludeAlike_of_names_eq {excluded' : List String}
    (h : (entries.filter (isTable excluded)).map nameOf =
      (entries.filter (isTable excluded')).map nameOf) :
    ExcludeAlike entries excluded excluded' := by
  intro e he hobject hpublic
  have hthere : ∃ x ∈ entries, isObject x = true ∧ nameOf x = nameOf e := ⟨e, he, hobject, rfl⟩
  have hleft : nameOf e ∈ (entries.filter (isTable excluded)).map nameOf ↔ nameOf e ∉ excluded := by
    rw [mem_names_filter_iff]
    simp only [hthere, hpublic, true_and, and_true]
  have hright : nameOf e ∈ (entries.filter (isTable excluded')).map nameOf ↔
      nameOf e ∉ excluded' := by
    rw [mem_names_filter_iff]
    simp only [hthere, hpublic, true_and, and_true]
  rw [h, hright] at hleft
  exact (not_iff_not.1 hleft).symm

/-- From well-formed entries the object types come in their order, those with a usual name of a root
or a private name left out.  These are the object types that are no root and have no private name
exactly if, among the public ones, the roots are the types with a usual name. -/
theorem objects_leave_out_roots_iff (hlists : Lists document entries)
    (hwell : ∀ e ∈ entries, WellFormed e) :
    ∃ objects, Introspection.objects document = .ok objects ∧
      List.Forall₂ ReadAs (entries.filter (isTable rootNames)) objects ∧
      (List.Forall₂ ReadAs (entries.filter (isTable (statedRoots document))) objects ↔
        ExcludeAlike entries rootNames (statedRoots document)) := by
  have hread : forDomainObjects SourceObject.ofValue entries =
      (entries.filter (isTable rootNames)).mapM SourceObject.ofValue := by
    have hmap := forDomainObjects_map SourceObject.ofValue id fun e he =>
      (hwell e he).isDomainObject_eq
    rwa [List.map_id] at hmap
  obtain ⟨objects, hobjects⟩ := exists_mapM_eq_ok_iff.2 fun e
      (he : e ∈ entries.filter (isTable rootNames)) =>
    (hwell e (List.mem_of_mem_filter he)).readable (isTable_iff.1 (List.mem_filter.1 he).2).1
  have hchosen : List.Forall₂ ReadAs (entries.filter (isTable rootNames)) objects :=
    mapM_eq_ok_iff.1 hobjects
  refine ⟨objects, objects_eq_ok_iff.2 ⟨entries, hlists, hread.trans hobjects⟩, hchosen, ?_⟩
  constructor
  · -- both choices give the names of the same objects
    intro h
    have hsome : ∀ excluded, ∀ e ∈ entries.filter (isTable excluded), WellFormed e :=
      fun _ e he => hwell e (List.mem_of_mem_filter he)
    have hnames := (names_of_readAs (hsome _) hchosen).symm.trans (names_of_readAs (hsome _) h)
    have htexts := congrArg (List.map fun v => (Value.text? v).getD "") hnames
    simp only [List.map_map] at htexts
    exact excludeAlike_of_names_eq htexts
  · intro h
    rw [← h.filter_eq]
    exact hchosen

/-- An entry of an object type without fields. -/
def emptyObject (name : String) : Value :=
  .record [("kind", .str "OBJECT"), ("name", .str name), ("fields", .list [])]

theorem wellFormed_emptyObject (name : String) : WellFormed (emptyObject name) :=
  ⟨_, "OBJECT", name, rfl, rfl, rfl, fun _ => ⟨_, rfl⟩⟩

/-- A document with these types, one of them the root of all queries. -/
def queried (root : String) (entries : List Value) : Value :=
  .record [("__schema", .record [("queryType", .record [("name", .str root)]),
    ("mutationType", .null), ("subscriptionType", .null), ("types", .list entries)])]

theorem objects_leave_out_query :
    Lists (queried "Query" [emptyObject "Query", emptyObject "Movie", emptyObject "_Service"])
        [emptyObject "Query", emptyObject "Movie", emptyObject "_Service"] ∧
      (∀ e ∈ [emptyObject "Query", emptyObject "Movie", emptyObject "_Service"], WellFormed e) ∧
      ∃ objects, Introspection.objects
          (queried "Query" [emptyObject "Query", emptyObject "Movie", emptyObject "_Service"]) =
            .ok objects ∧ List.Forall₂ ReadAs [emptyObject "Movie"] objects := by
  have hlists : ∀ entries, Lists (queried "Query" entries) entries := fun _ => ⟨_, _, rfl, rfl, rfl⟩
  have hwell : ∀ e ∈ [emptyObject "Query", emptyObject "Movie", emptyObject "_Service"],
      WellFormed e := by
    simp only [List.forall_mem_cons, wellFormed_emptyObject, List.not_mem_nil, false_implies,
      implies_true, and_self]
  obtain ⟨objects, hobjects, hread, -⟩ := objects_leave_out_roots_iff (hlists _) hwell
  exact ⟨hlists _, hwell, objects, hobjects, hread⟩

/-- A root with a name of its own stays, and a type with the usual name of a root is left out. -/
theorem objects_keep_renamed_root :
    Lists (queried "Root" [emptyObject "Root", emptyObject "Subscription"])
        [emptyObject "Root", emptyObject "Subscription"] ∧
      (∀ e ∈ [emptyObject "Root", emptyObject "Subscription"], WellFormed e) ∧
      statedRoots (queried "Root" [emptyObject "Root", emptyObject "Subscription"]) = ["Root"] ∧
      Introspection.objects (queried "Root" [emptyObject "Root", emptyObject "Subscription"]) =
        .ok [{ name := .str "Root" }] ∧
      ¬List.Forall₂ ReadAs
        ([emptyObject "Root", emptyObject "Subscription"].filter (isTable ["Root"]))
        [{ name := .str "Root" }] := by
  have hwell : ∀ e ∈ [emptyObject "Root", emptyObject "Subscription"], WellFormed e := by
    simp only [List.forall_mem_cons, wellFormed_emptyObject, List.not_mem_nil, false_implies,
      implies_true, and_self]
  refine ⟨⟨_, _, rfl, rfl, rfl⟩, hwell, rfl, rfl, ?_⟩
  have hfilter : [emptyObject "Root", emptyObject "Subscription"].filter (isTable ["Root"]) =
      [emptyObject "Subscription"] := by decide
  rw [hfilter]
  have hread : SourceObject.ofValue (emptyObject "Subscription") =
      .ok { name := .str "Subscription" } := rfl
  rintro (_ | ⟨h, _⟩)
  have hsame := Except.ok.inj (hread.symm.trans h)
  exact absurd (congrArg SourceObject.name hsame) (by decide)

end Introspection

end SchemaSheets
