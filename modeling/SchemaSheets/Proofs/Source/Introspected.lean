import SchemaSheets.Proofs.Schema.Grammar
import SchemaSheets.Proofs.Schema.Spelling
import SchemaSheets.Proofs.Source.Entries

/-!
# Objects of introspected schemas

What is read from the introspection document of a schema.  If no field of a
domain object has more wrappers than a spelled type shows, every domain object
is read with all its fields, each described as the schema document writes its
type.  Otherwise the document is refused as malformed.
-/

namespace SchemaSheets

open Schema Steps Introspection

variable {s : TypeSystem} {t : TypeDefinition} {f : FieldDefinition} {d : Document} {text : String}

/-! ### Fields -/

/-- A type's field as it is read if it is shown in full. -/
def Schema.TypeSystem.sourceField (s : TypeSystem) (f : FieldDefinition) : SourceField :=
  ⟨.str f.name, s.refOf f.type, .str (f.description.getD "")⟩

/-- The type of a field is shown in full. -/
def Schema.FieldDefinition.Shown (f : FieldDefinition) : Prop :=
  f.type.wrappers ≤ TypeSystem.spelledLevels

instance : Decidable f.Shown := inferInstanceAs (Decidable (_ ≤ _))

theorem orElse_textOrNull (d : Option String) :
    (TypeSystem.textOrNull d).orElse (.str "") = .str (d.getD "") := by
  cases d with
  | none => rfl
  | some w => exact Value.orElse_str w

theorem SourceField.ofValue_fieldValue : SourceField.ofValue (s.fieldValue f) =
    (TypeRef.ofValue (s.typeValue f.type)).map
      fun r => ⟨.str f.name, r, .str (f.description.getD "")⟩ := by
  have hbind : SourceField.ofValue (s.fieldValue f) = (do
      return ⟨.str f.name, ← TypeRef.ofValue (s.typeValue f.type),
        (TypeSystem.textOrNull f.description).orElse (.str "")⟩) := rfl
  rw [hbind, orElse_textOrNull]
  cases TypeRef.ofValue (s.typeValue f.type) <;> rfl

theorem ofValue_of_shown (hbase : f.type.base ≠ "") (h : f.Shown) :
    SourceField.ofValue (s.fieldValue f) = .ok (s.sourceField f) := by
  have hbound : f.type.wrappers < TypeRef.maxWrappers + 1 := by
    have hlevels : TypeSystem.spelledLevels < TypeRef.maxWrappers := by decide
    have hshown : f.type.wrappers ≤ TypeSystem.spelledLevels := h
    omega
  have hread : TypeRef.ofValue (s.typeValue f.type) = .ok (s.refOf f.type) :=
    readBack hbase _ _ h hbound
  rw [SourceField.ofValue_fieldValue, hread]
  rfl

theorem ofValue_of_not_shown (h : ¬f.Shown) : ∃ kind ∈ wrapperKinds,
    SourceField.ofValue (s.fieldValue f) = .error (.withoutInner kind) := by
  have hlevels : TypeSystem.spelledLevels < f.type.wrappers := Nat.lt_of_not_le h
  have hcut : ∃ kind ∈ wrapperKinds,
      TypeRef.ofValue (s.typeValue f.type) = .error (.withoutInner kind) :=
    cutOff s f.type _ _ hlevels (by decide)
  obtain ⟨kind, hkind, hread⟩ := hcut
  refine ⟨kind, hkind, ?_⟩
  rw [SourceField.ofValue_fieldValue, hread]
  rfl

/-! ### Types -/

/-- A type that a sheet is made from. -/
def Schema.TypeDefinition.isDomain (t : TypeDefinition) : Bool :=
  TypeSystem.kindName t.body == "OBJECT" && isDomainName t.name

/-- A type as it is read if all its fields are shown in full. -/
def Schema.TypeSystem.sourceObject (s : TypeSystem) (t : TypeDefinition) : SourceObject :=
  ⟨.str t.name, .str (t.description.getD ""), t.body.fields.map s.sourceField⟩

theorem isDomainObject_fullType : isDomainObject (s.fullType t) = .ok t.isDomain := by
  refine isDomainObject_eq_ok_iff.2 ⟨_, rfl, ?_⟩
  have hkind : Value.str (TypeSystem.kindName t.body) = .str "OBJECT" ↔
      (TypeSystem.kindName t.body == "OBJECT") = true := by simp
  change if Value.str (TypeSystem.kindName t.body) = .str "OBJECT" then _ else _
  split
  next h =>
    rw [TypeDefinition.isDomain, hkind.1 h, Bool.true_and]
    exact congrArg isDomainName? (Value.orElse_str t.name)
  next h => simp [TypeDefinition.isDomain, mt hkind.2 h]

theorem declares_fullType (h : t.isDomain = true) :
    Declares (s.fullType t) (.str t.name) (.str (t.description.getD ""))
      (t.body.fields.map s.fieldValue) := by
  refine ⟨_, rfl, rfl, orElse_textOrNull t.description, ?_⟩
  obtain ⟨description, name, directives, body⟩ := t
  cases body with
  | object interfaces fields =>
    change ((Value.list (fields.map s.fieldValue)).orElse (.list [])).visited =
      .ok (fields.map s.fieldValue)
    cases fields <;> rfl
  | _ => exact absurd h Bool.false_ne_true

theorem lists_document : Lists s.document (s.types.map s.fullType) := ⟨_, _, rfl, rfl, rfl⟩

theorem objects_document : Introspection.objects s.document =
    (s.types.filter (·.isDomain)).mapM fun t => SourceObject.ofValue (s.fullType t) := by
  rw [← forDomainObjects_map SourceObject.ofValue s.fullType fun t _ => isDomainObject_fullType]
  rw [Introspection.objects, types_eq_ok_iff.2 lists_document]
  rfl

/-! ### Whole documents -/

theorem ofValue_fullType (h : t.isDomain = true) : SourceObject.ofValue (s.fullType t) =
    ((t.body.fields.mapM fun f => SourceField.ofValue (s.fieldValue f)).mapError .malformed).map
      fun fields => ⟨.str t.name, .str (t.description.getD ""), fields⟩ := by
  rw [SourceObject.ofValue_of_declares (declares_fullType h), List.mapM_map]
  rfl

/-- The fields of the domain objects have names for their types. -/
def Schema.TypeSystem.Named (s : TypeSystem) : Prop :=
  ∀ t ∈ s.types, t.isDomain = true → ∀ f ∈ t.body.fields, f.type.base ≠ ""

/-- The fields of the domain objects are shown in full. -/
def Schema.TypeSystem.Shown (s : TypeSystem) : Prop :=
  ∀ t ∈ s.types, t.isDomain = true → ∀ f ∈ t.body.fields, f.Shown

instance : Decidable s.Shown :=
  inferInstanceAs (Decidable (∀ t ∈ s.types, t.isDomain = true → ∀ f ∈ t.body.fields, f.Shown))

theorem objects_of_shown (hnamed : s.Named) (hshown : s.Shown) :
    Introspection.objects s.document = .ok ((s.types.filter (·.isDomain)).map s.sourceObject) := by
  rw [objects_document]
  refine mapM_eq_ok_map fun t ht => ?_
  obtain ⟨ht, hdomain⟩ := List.mem_filter.1 ht
  rw [ofValue_fullType hdomain, mapM_eq_ok_map fun f hf =>
    ofValue_of_shown (hnamed t ht hdomain f hf) (hshown t ht hdomain f hf)]
  rfl

/-- A wrapper has nothing inside. -/
def IsCut (e : Failure) : Prop := ∃ kind ∈ wrapperKinds, e = .malformed (.withoutInner kind)

theorem isCut_of_field {e : Malformed} (hbase : f.type.base ≠ "")
    (h : SourceField.ofValue (s.fieldValue f) = .error e) : IsCut (.malformed e) := by
  have hcut : ¬f.Shown := by
    intro hshown
    have hread := ofValue_of_shown (s := s) hbase hshown
    exact nomatch h.symm.trans hread
  obtain ⟨kind, hkind, hread⟩ := ofValue_of_not_shown (s := s) hcut
  obtain rfl := Except.error.inj (h.symm.trans hread)
  exact ⟨kind, hkind, rfl⟩

theorem isCut_of_type {e : Failure} (hdomain : t.isDomain = true)
    (hbase : ∀ f ∈ t.body.fields, f.type.base ≠ "")
    (h : SourceObject.ofValue (s.fullType t) = .error e) : IsCut e := by
  rw [ofValue_fullType hdomain, map_eq_error_iff, mapError_eq_error_iff] at h
  obtain ⟨m, hm, rfl⟩ := h
  obtain ⟨before, f, after, hfields, -, hf⟩ := mapM_eq_error_iff.1 hm
  have hmem : f ∈ t.body.fields := by simp [hfields]
  exact isCut_of_field (hbase f hmem) hf

theorem ofValue_fullType_fails (hdomain : t.isDomain = true) (hf : f ∈ t.body.fields)
    (hcut : ¬f.Shown) : ∃ e, SourceObject.ofValue (s.fullType t) = .error e := by
  obtain ⟨kind, -, hread⟩ := ofValue_of_not_shown (s := s) hcut
  have hfields : ∃ m, (t.body.fields.mapM fun f => SourceField.ofValue (s.fieldValue f)) = .error m :=
    exists_mapM_eq_error_iff.2 ⟨f, hf, _, hread⟩
  obtain ⟨m, hm⟩ := hfields
  refine ⟨.malformed m, ?_⟩
  rw [ofValue_fullType hdomain, hm]
  rfl

theorem objects_of_not_shown (hnamed : s.Named) (h : ¬s.Shown) :
    ∃ e, Introspection.objects s.document = .error e ∧ IsCut e := by
  simp only [TypeSystem.Shown, not_forall] at h
  obtain ⟨t, ht, hdomain, f, hf, hcut⟩ := h
  have hfilter : t ∈ s.types.filter (·.isDomain) := List.mem_filter.2 ⟨ht, hdomain⟩
  have herror : ∃ e, ((s.types.filter (·.isDomain)).mapM fun t =>
      SourceObject.ofValue (s.fullType t)) = .error e :=
    exists_mapM_eq_error_iff.2 ⟨t, hfilter, ofValue_fullType_fails hdomain hf hcut⟩
  obtain ⟨e, he⟩ := herror
  rw [objects_document]
  -- the type that fails first need not be the one found above
  refine ⟨e, he, ?_⟩
  obtain ⟨before, t', after, htypes, -, ht'⟩ := mapM_eq_error_iff.1 he
  have hmem : t' ∈ s.types.filter (·.isDomain) := by simp [htypes]
  obtain ⟨hmem, hdomain'⟩ := List.mem_filter.1 hmem
  exact isCut_of_type hdomain' (hnamed t' hmem hdomain') ht'

/-! ### Schema documents -/

/-- The document defines the field, in the definition or an extension of the type. -/
def Schema.Document.DefinesField (d : Document) (type : String) (f : FieldDefinition) : Prop :=
  ∃ t, (.type t ∈ d ∨ .typeExtension t ∈ d) ∧ t.name = type ∧ f ∈ t.body.fields

theorem type_mem_of_mem_types {u : TypeDefinition} (h : u ∈ d.types) : .type u ∈ d := by
  obtain ⟨x, hx, hu⟩ := List.mem_filterMap.1 h
  cases x with
  | type v =>
    obtain rfl : v = u := Option.some.inj hu
    exact hx
  | _ => exact nomatch hu

theorem extension_mem_of_mem_typeExtensions {u : TypeDefinition} (h : u ∈ d.typeExtensions) :
    .typeExtension u ∈ d := by
  obtain ⟨x, hx, hu⟩ := List.mem_filterMap.1 h
  cases x with
  | typeExtension v =>
    obtain rfl : v = u := Option.some.inj hu
    exact hx
  | _ => exact nomatch hu

theorem name_foldl_extend (es : List TypeDefinition) (u : TypeDefinition) :
    (es.foldl TypeDefinition.extend u).name = u.name := by
  induction es generalizing u with
  | nil => rfl
  | cons e es ih => rw [List.foldl_cons, ih, TypeDefinition.extend]

theorem mem_fields_extend {u e : TypeDefinition} (h : f ∈ (u.extend e).body.fields) :
    f ∈ u.body.fields ∨ f ∈ e.body.fields := by
  simp only [TypeDefinition.extend] at h
  split at h
  next hu he =>
    rw [hu, he]
    exact List.mem_append.1 h
  next hu he =>
    rw [hu, he]
    exact List.mem_append.1 h
  all_goals first
    | exact .inl h
    | exact nomatch h

theorem mem_fields_foldl_extend {es : List TypeDefinition} {u : TypeDefinition}
    (h : f ∈ (es.foldl TypeDefinition.extend u).body.fields) :
    f ∈ u.body.fields ∨ ∃ e ∈ es, f ∈ e.body.fields := by
  induction es generalizing u with
  | nil => exact .inl h
  | cons e es ih =>
    rcases ih h with hu | ⟨e', he', hf⟩
    · rcases mem_fields_extend hu with hu | he
      · exact .inl hu
      · exact .inr ⟨e, List.mem_cons_self, he⟩
    · exact .inr ⟨e', List.mem_cons_of_mem e he', hf⟩

theorem builtin_not_domain : ∀ b ∈ Builtin.types, b.isDomain = false := by
  decide

/-- The fields of a domain object stand in the document. -/
theorem definesField_of_mem (ht : t ∈ (TypeSystem.ofDocument d).types) (hdomain : t.isDomain = true)
    (hf : f ∈ t.body.fields) : d.DefinesField t.name f := by
  obtain ⟨n, -, hn⟩ := List.mem_filterMap.1 ht
  have hbuiltin : t ∉ Builtin.types := by
    intro hmem
    rw [builtin_not_domain t hmem] at hdomain
    contradiction
  rcases List.mem_append.1 (List.mem_of_find?_eq_some hn) with hmem | hmem
  · obtain ⟨u, hu, hut⟩ := List.mem_map.1 hmem
    split at hut
    next b hb =>
      obtain rfl := hut
      exact absurd (List.mem_of_find?_eq_some hb) hbuiltin
    next =>
      obtain rfl := hut
      rw [name_foldl_extend]
      rcases mem_fields_foldl_extend hf with hf | ⟨e, he, hf⟩
      · exact ⟨u, .inl (type_mem_of_mem_types hu), rfl, hf⟩
      · obtain ⟨he, hname⟩ := List.mem_filter.1 he
        exact ⟨e, .inr (extension_mem_of_mem_typeExtensions he), by simpa using hname, hf⟩
  · exact absurd hmem hbuiltin

section

variable [Capacity]

theorem named_ofDocument (hread : Document.read text = .ok d) : (TypeSystem.ofDocument d).Named := by
  intro t ht hdomain f hf
  obtain ⟨u, hu, -, hf⟩ := definesField_of_mem ht hdomain hf
  exact base_ne_empty hread hu hf

/-- The object is the type: it has its name and its fields in their order, and each field, which the
document defines for the type, is described by the tokens of its type there, one after another. -/
def Reproduces (d : Document) (t : TypeDefinition) (o : SourceObject) : Prop :=
  o.name = .str t.name ∧ List.Forall₂ (fun f g => g.name = .str f.name ∧ d.DefinesField t.name f ∧
    g.type.label = .ok (.str (String.ofList (f.type.lexemes.flatMap Lexeme.written))))
    t.body.fields o.fields

theorem reproduces_sourceObject (hread : Document.read text = .ok d)
    (ht : t ∈ (TypeSystem.ofDocument d).types) (hdomain : t.isDomain = true) :
    Reproduces d t ((TypeSystem.ofDocument d).sourceObject t) := by
  refine ⟨rfl, ?_⟩
  rw [TypeSystem.sourceObject, List.forall₂_map_right_iff, List.forall₂_same]
  intro f hf
  have hbase := named_ofDocument hread t ht hdomain f hf
  refine ⟨rfl, definesField_of_mem ht hdomain hf, ?_⟩
  rw [← text_eq_written]
  exact label_refOf hbase

theorem ofText_eq_ok (h : TypeSystem.ofText text = .ok s) :
    ∃ d, Document.read text = .ok d ∧ s = TypeSystem.ofDocument d := by
  obtain ⟨d, hread, h⟩ := bind_eq_ok_iff.1 h
  refine ⟨d, mapError_eq_ok_iff.1 hread, ?_⟩
  split at h
  next =>
    dsimp only at h
    split at h
    · exact (Except.ok.inj h).symm
    · exact nomatch h
  next => exact nomatch h

theorem introspectText_of_coherent (h : TypeSystem.ofText text = .ok s)
    (hcoherent : s.incoherences = []) : introspectText text = .ok s.document := by
  have hdocument : s.introspect = .ok s.document := by
    rw [TypeSystem.introspect, hcoherent]
  exact bind_eq_ok_iff.2 ⟨s, mapError_eq_ok_iff.2 h, lift_malformed_eq_ok_iff.2 hdocument⟩

theorem introspectText_of_incoherent (h : TypeSystem.ofText text = .ok s)
    (hfound : s.incoherences ≠ []) : introspectText text =
      .error (.malformed (.invalidSchema (s.incoherences.map Incoherence.message))) := by
  have hrefused : s.introspect =
      .error (.invalidSchema (s.incoherences.map Incoherence.message)) := by
    rw [TypeSystem.introspect]
    split
    next hnone => exact absurd hnone hfound
    next => rfl
  exact bind_eq_error_iff.2
    (.inr ⟨s, mapError_eq_ok_iff.2 h, lift_malformed_eq_error_iff.2 hrefused⟩)

/-- A text that defines a schema gives an introspection document unless the schema is incoherent.
The domain objects are read from it exactly if none of their fields has more wrappers than a spelled
type shows; then they reproduce the types of the text, and else a wrapper has nothing inside. -/
theorem objects_of_text (h : TypeSystem.ofText text = .ok s) :
    ∃ d, Document.read text = .ok d ∧ SpellsDocument (lexemes (tokens text.toList)) d ∧
      (s.incoherences ≠ [] → introspectText text =
        .error (.malformed (.invalidSchema (s.incoherences.map Incoherence.message)))) ∧
      (s.incoherences = [] → ∃ document, introspectText text = .ok document ∧
        (s.Shown → ∃ objects, Introspection.objects document = .ok objects ∧
          List.Forall₂ (Reproduces d) (s.types.filter (·.isDomain)) objects) ∧
        (¬s.Shown → ∃ e, Introspection.objects document = .error e ∧ IsCut e)) := by
  obtain ⟨d, hread, rfl⟩ := ofText_eq_ok h
  have hnamed := named_ofDocument hread
  refine ⟨d, hread, spellsDocument_of_read hread, introspectText_of_incoherent h, fun hcoherent => ?_⟩
  refine ⟨_, introspectText_of_coherent h hcoherent, fun hshown => ?_, objects_of_not_shown hnamed⟩
  refine ⟨_, objects_of_shown hnamed hshown, ?_⟩
  rw [List.forall₂_map_right_iff, List.forall₂_same]
  intro t ht
  obtain ⟨ht, hdomain⟩ := List.mem_filter.1 ht
  exact reproduces_sourceObject hread ht hdomain

/-- The text defines a coherent schema that the condition holds for. -/
def DefinesSuch (text : String) (p : TypeSystem → Bool) : Bool :=
  match TypeSystem.ofText text with
  | .ok s => s.incoherences.isEmpty && p s
  | .error _ => false

theorem exists_of_definesSuch {p : TypeSystem → Bool} (h : DefinesSuch text p = true) :
    ∃ s, TypeSystem.ofText text = .ok s ∧ s.incoherences = [] ∧ p s = true := by
  unfold DefinesSuch at h
  split at h
  next s hs =>
    obtain ⟨hnone, hp⟩ := Bool.and_eq_true_iff.1 h
    exact ⟨s, hs, List.isEmpty_iff.1 hnone, hp⟩
  next => contradiction

end

/-- Films with a list of casts, under a root. -/
def filmText : String := "type Query { films: [Film] } type Film { casts: [[String!]!]! }"

theorem objects_of_filmText : ∃ s d document objects, TypeSystem.ofText filmText = .ok s ∧
    Document.read filmText = .ok d ∧ introspectText filmText = .ok document ∧
      Introspection.objects document = .ok objects ∧
        List.Forall₂ (Reproduces d) (s.types.filter (·.isDomain)) objects := by
  have hsuch : DefinesSuch filmText (fun s => s.Shown) = true := by decide +kernel
  obtain ⟨s, hs, hcoherent, hshown⟩ := exists_of_definesSuch hsuch
  obtain ⟨d, hread, -, -, hobjects⟩ := objects_of_text hs
  obtain ⟨document, hdocument, hfull, -⟩ := hobjects hcoherent
  obtain ⟨objects, hok, hreproduces⟩ := hfull (of_decide_eq_true hshown)
  exact ⟨s, d, document, objects, hs, hread, hdocument, hok, hreproduces⟩

theorem not_ok_of_isNone {ε α : Type} {x : Except ε α} (h : x.toOption.isNone = true) :
    ¬∃ a, x = .ok a := by
  rintro ⟨a, rfl⟩
  contradiction

/-- A type with ten lists in one another, which a reader of references would take. -/
def deepText : String := "type Query { a: A } type A { x: [[[[[[[[[[Int]]]]]]]]]] }"

/-- The wrappers stay within what a reference may have, and still no object is read. -/
theorem objects_of_deepText : (∃ s, TypeSystem.ofText deepText = .ok s ∧ s.incoherences = [] ∧
      ∀ t ∈ s.types, ∀ f ∈ t.body.fields, f.type.wrappers ≤ TypeRef.maxWrappers) ∧
    ¬∃ objects, (introspectText deepText >>= Introspection.objects) = .ok objects := by
  constructor
  · have hsuch : DefinesSuch deepText (fun s => s.types.all fun t =>
        t.body.fields.all fun f => f.type.wrappers ≤ TypeRef.maxWrappers) = true := by
      decide +kernel
    obtain ⟨s, hs, hcoherent, hwrappers⟩ := exists_of_definesSuch hsuch
    simp only [List.all_eq_true, decide_eq_true_eq] at hwrappers
    exact ⟨s, hs, hcoherent, hwrappers⟩
  · have hfails : (introspectText deepText >>= Introspection.objects).toOption.isNone = true := by
      decide +kernel
    exact not_ok_of_isNone hfails

end SchemaSheets
