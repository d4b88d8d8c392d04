import SchemaSheets.Source.Object
import SchemaSheets.Proofs.Steps

/-!
# Entries of a document

What is made of one entry of a document's types: it is passed over, or the
object type that it declares is read, or it is refused.  The entries of a
document are read one by one, so a whole document is read exactly if each of its
entries is.
-/

namespace SchemaSheets

open Steps

variable {α : Type} {document data : Value} {entries : List Value}

namespace Introspection

/-! ### The list of types -/

/-- The document has a list of types. -/
def Lists (document : Value) (entries : List Value) : Prop :=
  ∃ members schema, document = .map members ∧ Entries.get members "__schema" = .map schema ∧
    Entries.get schema "types" = .list entries

theorem types_eq_ok_iff : types document = .ok entries ↔ Lists document entries := by
  unfold types Lists
  split
  · split
    · split <;> simp_all
    · simp_all
  · simp_all

theorem types_eq_error_iff {m : Malformed} :
    types document = .error m ↔ m = .withoutTypes ∧ ∀ entries, ¬Lists document entries := by
  simp only [← types_eq_ok_iff]
  unfold types
  split
  · split
    · split <;> simp [eq_comm]
    · simp [eq_comm]
  · simp [eq_comm]

/-! ### The choice of entries -/

/-- A name of a type that a sheet is made from. -/
def isDomainName (name : String) : Bool :=
  !rootNames.contains name && name.toList.head? != some '_'

/-- Whether a value is the name of a type that a sheet is made from; nothing, if it is no text.  A
torn text is no usual name of a root. -/
def isDomainName? : Value → Option Bool
  | .scalar (.str name) => some (isDomainName name)
  | .scalar (.torn codes) => some (codes.head? != some '_'.toNat)
  | _ => none

/-- The entry is of an object type with a name for a sheet; a missing name counts as empty. -/
def Chosen (data : Value) : Prop :=
  ∃ members, data = .map members ∧ Entries.get members "kind" = .str "OBJECT" ∧
    isDomainName? ((Entries.get members "name").orElse (.str "")) = some true

/-- The entry is of another kind, or of an object type with another name. -/
def PassedOver (data : Value) : Prop :=
  ∃ members, data = .map members ∧ (Entries.get members "kind" = .str "OBJECT" →
    isDomainName? ((Entries.get members "name").orElse (.str "")) = some false)

theorem isDomainObject_eq_ok_iff {b : Bool} :
    isDomainObject data = .ok b ↔ ∃ members, data = .map members ∧
      if Entries.get members "kind" = .str "OBJECT" then
        isDomainName? ((Entries.get members "name").orElse (.str "")) = some b
      else b = false := by
  cases data with
  | map members =>
    simp only [isDomainObject, Value.entriesFor, bind, Except.bind, Value.map.injEq,
      exists_eq_left', bne_iff_ne, ne_eq, ite_not]
    by_cases hkind : Entries.get members "kind" = .str "OBJECT"
    · rw [if_pos hkind, if_pos hkind]
      generalize (Entries.get members "name").orElse (.str "") = name
      cases name with
      | scalar k =>
        -- a name that is no text ends in a misuse, whether or not it could be a key
        cases k <;> simp [isDomainName?, isDomainName, pure, Except.pure, Value.key?]
      | _ => simp [isDomainName?, Value.key?]
    · rw [if_neg hkind, if_neg hkind]
      simp [pure, Except.pure, eq_comm]
  | _ => simp [isDomainObject, Value.entriesFor, bind, Except.bind]

theorem isDomainObject_eq_true_iff : isDomainObject data = .ok true ↔ Chosen data := by
  rw [isDomainObject_eq_ok_iff, Chosen]
  refine exists_congr fun members => ?_
  split <;> simp_all

theorem isDomainObject_eq_false_iff : isDomainObject data = .ok false ↔ PassedOver data := by
  rw [isDomainObject_eq_ok_iff, PassedOver]
  refine exists_congr fun members => and_congr_right fun _ => ?_
  split <;> simp_all

theorem Chosen.not_passedOver (h : Chosen data) : ¬PassedOver data := fun hpassed =>
  nomatch (isDomainObject_eq_true_iff.2 h).symm.trans (isDomainObject_eq_false_iff.2 hpassed)

/-! ### One entry after another -/

/-- What an action makes of an entry: nothing, unless it is chosen. -/
def visit (action : Value → Except Failure α) (data : Value) : Except Failure (Option α) := do
  if ← isDomainObject data then
    let a ← action data
    return some a
  else return none

variable {action : Value → Except Failure α}

theorem forDomainObjects_eq_mapM (action : Value → Except Failure α) (entries : List Value) :
    forDomainObjects action entries =
      (entries.mapM (visit action)).map (List.filterMap id) := by
  induction entries with
  | nil => rfl
  | cons data rest ih =>
    rw [forDomainObjects, ih, List.mapM_cons, visit]
    cases isDomainObject data with
    | error m => rfl
    | ok b =>
      cases b with
      | false => cases rest.mapM (visit action) <;> rfl
      | true =>
        cases action data with
        | error e => rfl
        | ok a => cases rest.mapM (visit action) <;> rfl

/-- Where the choice is decided, the entries that it falls on are dealt with one after another. -/
theorem forDomainObjects_map {τ : Type} {chosen : τ → Bool} {ts : List τ}
    (action : Value → Except Failure α) (entry : τ → Value)
    (h : ∀ t ∈ ts, isDomainObject (entry t) = .ok (chosen t)) :
    forDomainObjects action (ts.map entry) = (ts.filter chosen).mapM fun t => action (entry t) := by
  induction ts with
  | nil => rfl
  | cons t rest ih =>
    obtain ⟨ht, hrest⟩ := List.forall_mem_cons.1 h
    rw [List.map_cons, forDomainObjects, ht, lift_misuse_ok_bind, ih hrest]
    cases hchosen : chosen t with
    | false => rw [List.filter_cons_of_neg (by simp [hchosen])]; rfl
    | true => rw [List.filter_cons_of_pos hchosen, List.mapM_cons]; rfl

theorem visit_eq (action : Value → Except Failure α) (data : Value) :
    visit action data = match isDomainObject data with
      | .ok true => (action data).map some
      | .ok false => .ok none
      | .error m => .error (.misuse m) := by
  unfold visit
  cases isDomainObject data with
  | error m => rfl
  | ok b =>
    cases b with
    | false => rfl
    | true => cases action data <;> rfl

theorem visit_eq_some_iff {a : α} :
    visit action data = .ok (some a) ↔ Chosen data ∧ action data = .ok a := by
  rw [← isDomainObject_eq_true_iff, visit_eq]
  split <;> simp_all [map_eq_ok_iff]

theorem visit_eq_none_iff : visit action data = .ok none ↔ PassedOver data := by
  rw [← isDomainObject_eq_false_iff, visit_eq]
  split <;> simp_all [map_eq_ok_iff]

/-- The choice itself never finds an entry malformed. -/
theorem visit_eq_malformed_iff {m : Malformed} :
    visit action data = .error (.malformed m) ↔
      Chosen data ∧ action data = .error (.malformed m) := by
  rw [← isDomainObject_eq_true_iff, visit_eq]
  split <;> simp_all [map_eq_error_iff]

theorem exists_visit_iff :
    (∃ r, visit action data = .ok r) ↔
      PassedOver data ∨ Chosen data ∧ ∃ a, action data = .ok a := by
  simp only [Option.exists, visit_eq_none_iff, visit_eq_some_iff, exists_and_left]

theorem forDomainObjects_succeeds_iff :
    (∃ as, forDomainObjects action entries = .ok as) ↔
      ∀ e ∈ entries, PassedOver e ∨ Chosen e ∧ ∃ a, action e = .ok a := by
  simp only [forDomainObjects_eq_mapM, map_eq_ok_iff, ← exists_visit_iff, ← exists_mapM_eq_ok_iff]
  constructor
  · rintro ⟨as, parts, hparts, -⟩
    exact ⟨parts, hparts⟩
  · rintro ⟨parts, hparts⟩
    exact ⟨_, parts, hparts, rfl⟩

theorem mem_forDomainObjects_iff {as : List α} (h : forDomainObjects action entries = .ok as)
    {a : α} : a ∈ as ↔ ∃ e ∈ entries, Chosen e ∧ action e = .ok a := by
  rw [forDomainObjects_eq_mapM, map_eq_ok_iff] at h
  obtain ⟨parts, hparts, rfl⟩ := h
  simp only [List.mem_filterMap, id_eq, exists_eq_right, mem_mapM_iff hparts, visit_eq_some_iff]

/-- The first entry that is not dealt with is malformed. -/
theorem forDomainObjects_malformed_iff {m : Malformed} :
    forDomainObjects action entries = .error (.malformed m) ↔
      ∃ before e after, entries = before ++ e :: after ∧
        (∀ x ∈ before, PassedOver x ∨ Chosen x ∧ ∃ a, action x = .ok a) ∧
        Chosen e ∧ action e = .error (.malformed m) := by
  simp only [forDomainObjects_eq_mapM, map_eq_error_iff, mapM_eq_error_iff, exists_visit_iff,
    visit_eq_malformed_iff]

end Introspection

/-! ### Object types -/

/-- The entry gives an object type its name and its description, and these field entries. -/
def Introspection.Declares (data name description : Value) (items : List Value) : Prop :=
  ∃ members, data = .map members ∧ Entries.get? members "name" = some name ∧
    (Entries.get members "description").orElse (.str "") = description ∧
    ((Entries.get members "fields").orElse (.list [])).visited = .ok items

open Introspection

namespace SourceObject

variable {name description : Value} {items : List Value}

theorem ofValue_of_declares (h : Declares data name description items) :
    ofValue data = ((items.mapM SourceField.ofValue).mapError .malformed).map
      fun fields => ⟨name, description, fields⟩ := by
  obtain ⟨members, rfl, hname, rfl, hitems⟩ := h
  simp only [ofValue, Value.member, Value.entriesFor, hname, lift_misuse_ok_bind, hitems,
    mapM_mapError]
  cases items.mapM SourceField.ofValue <;> rfl

/-- No field is read before the entry is known to declare an object type. -/
theorem declares_or_misuse (data : Value) :
    (∃ name description items, Declares data name description items) ∨
      ∃ m, ofValue data = .error (.misuse m) := by
  cases data with
  | map members =>
    cases hname : Entries.get? members "name" with
    | none =>
      have hmember : (Value.map members).member "name" = .error (.missingKey (.str "name")) := by
        simp [Value.member, hname]
      exact .inr ⟨_, by rw [ofValue, hmember, lift_misuse_error_bind]⟩
    | some name =>
      cases hitems : ((Entries.get members "fields").orElse (.list [])).visited with
      | error m =>
        refine .inr ⟨m, ?_⟩
        simp only [ofValue, Value.member, Value.entriesFor, hname, lift_misuse_ok_bind, hitems,
          lift_misuse_error_bind]
      | ok items => exact .inl ⟨name, _, items, members, rfl, hname, rfl, hitems⟩
  | scalar k => cases k <;> exact .inr ⟨_, lift_misuse_error_bind _ _⟩
  | _ => exact .inr ⟨_, lift_misuse_error_bind _ _⟩

theorem ofValue_eq_ok_iff {o : SourceObject} :
    ofValue data = .ok o ↔ ∃ items, Declares data o.name o.description items ∧
      items.mapM SourceField.ofValue = .ok o.fields := by
  constructor
  · intro h
    rcases declares_or_misuse data with ⟨name, description, items, hd⟩ | ⟨m, hm⟩
    · rw [ofValue_of_declares hd, map_eq_ok_iff] at h
      obtain ⟨fields, hfields, rfl⟩ := h
      exact ⟨items, hd, mapError_eq_ok_iff.1 hfields⟩
    · exact nomatch hm.symm.trans h
  · rintro ⟨items, hd, hfields⟩
    rw [ofValue_of_declares hd, hfields]
    rfl

theorem ofValue_eq_malformed_iff {m : Malformed} :
    ofValue data = .error (.malformed m) ↔ ∃ name description items,
      Declares data name description items ∧ items.mapM SourceField.ofValue = .error m := by
  constructor
  · intro h
    rcases declares_or_misuse data with ⟨name, description, items, hd⟩ | ⟨m', hm'⟩
    · rw [ofValue_of_declares hd, map_eq_error_iff, mapError_eq_error_iff] at h
      obtain ⟨m', hm', he⟩ := h
      cases he
      exact ⟨name, description, items, hd, hm'⟩
    · exact nomatch hm'.symm.trans h
  · rintro ⟨name, description, items, hd, hm⟩
    rw [ofValue_of_declares hd, hm]
    rfl

end SourceObject

/-! ### Documents -/

namespace Introspection

/-- The entry is of an object type all of whose fields can be read. -/
def Readable (data : Value) : Prop :=
  Chosen data ∧ ∃ name description items, Declares data name description items ∧
    ∀ item ∈ items, ∃ f, SourceField.ofValue item = .ok f

/-- The entry is of an object type with a field entry that is no field. -/
def Refused (data : Value) : Prop :=
  Chosen data ∧ ∃ name description items, Declares data name description items ∧
    ∃ item ∈ items, ∃ m, SourceField.ofValue item = .error m

theorem readable_iff : Readable data ↔ Chosen data ∧ ∃ o, SourceObject.ofValue data = .ok o := by
  refine and_congr_right fun _ => ?_
  simp only [SourceObject.ofValue_eq_ok_iff, ← exists_mapM_eq_ok_iff]
  constructor
  · rintro ⟨name, description, items, hd, fields, hfields⟩
    exact ⟨⟨name, description, fields⟩, items, hd, hfields⟩
  · rintro ⟨o, items, hd, hfields⟩
    exact ⟨o.name, o.description, items, hd, o.fields, hfields⟩

theorem refused_iff :
    Refused data ↔ Chosen data ∧ ∃ m, SourceObject.ofValue data = .error (.malformed m) := by
  refine and_congr_right fun _ => ?_
  simp only [SourceObject.ofValue_eq_malformed_iff, ← exists_mapM_eq_error_iff]
  constructor
  · rintro ⟨name, description, items, hd, m, hm⟩
    exact ⟨m, name, description, items, hd, hm⟩
  · rintro ⟨m, name, description, items, hd, hm⟩
    exact ⟨name, description, items, hd, m, hm⟩

theorem objects_eq_ok_iff {objects : List SourceObject} :
    Introspection.objects document = .ok objects ↔
      ∃ entries, Lists document entries ∧
        forDomainObjects SourceObject.ofValue entries = .ok objects := by
  simp only [Introspection.objects, bind_eq_ok_iff, lift_malformed_eq_ok_iff, types_eq_ok_iff]

theorem objects_malformed_iff : (∃ m, objects document = .error (.malformed m)) ↔
    (∀ entries, ¬Lists document entries) ∨ ∃ before e after,
      Lists document (before ++ e :: after) ∧ (∀ x ∈ before, PassedOver x ∨ Readable x) ∧
        Refused e := by
  simp only [objects, bind_eq_error_iff, lift_malformed_eq_error_iff, lift_malformed_eq_ok_iff,
    types_eq_error_iff, types_eq_ok_iff, forDomainObjects_malformed_iff, readable_iff, refused_iff]
  constructor
  · rintro ⟨m, ⟨-, hnone⟩ | ⟨_, hlists, before, e, after, rfl, hbefore, he, hm⟩⟩
    · exact .inl hnone
    · exact .inr ⟨before, e, after, hlists, hbefore, he, m, hm⟩
  · rintro (hnone | ⟨before, e, after, hlists, hbefore, he, m, hm⟩)
    · exact ⟨_, .inl ⟨rfl, hnone⟩⟩
    · exact ⟨m, .inr ⟨_, hlists, before, e, after, rfl, hbefore, he, hm⟩⟩

end Introspection

end SchemaSheets
