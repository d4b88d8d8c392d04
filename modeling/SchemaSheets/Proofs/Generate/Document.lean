import SchemaSheets.Proofs.Generate.Runs
import SchemaSheets.Proofs.Source.Entries

/-!
# Sheets of a document

From the document of an introspection to its sheets, with nothing known about
the document: when there are sheets, when the document is called malformed, and
which failures are left.
-/

namespace SchemaSheets

open Steps Introspection

variable {mode : IntegrityMode} {document data : Value} {s : Session}

/-! ### Failures -/

namespace Field

theorem ofCore_failsOnly (f : SourceField) (t : TypeRef) :
    FailsOnly Failure.OfValue (ofCore f t) := by
  refine (failsOnly_misuse _).bind fun heading => ?_
  cases t with
  | scalar name =>
    refine (failsOnly_misuse _).bind fun type => (failsOnly_invalid _).bind fun c => ?_
    exact failsOnly_ok _
  | object name =>
    refine (failsOnly_invalid _).bind fun r => (failsOnly_invalid _).bind fun c => ?_
    exact failsOnly_ok _
  | list inner => exact (failsOnly_invalid _).bind fun c => failsOnly_ok _
  | _ => exact failsOnly_ok _

theorem account_failsOnly (sheet : Value) (f : SourceField) :
    FailsOnly Failure.OfValue (account sheet f) := by
  have hcore := (ofCore_failsOnly f f.type.core).map
    fun out => if f.type.isNonNull then out.require else out
  rw [← ofType_eq_ofCore] at hcore
  exact hcore.map _

end Field

namespace Sheet

theorem account_failsOnly (overrides : List SheetOverride) (o : SourceObject) :
    FailsOnly Failure.OfValue (account overrides o) := by
  refine (failsOnly_misuse _).bind fun b => ?_
  refine (failsOnly_mapM (Field.account_failsOnly o.name) o.fields).bind fun parts => ?_
  exact (failsOnly_invalid _).bind fun t => failsOnly_ok _

theorem generateAll_failsOnly {objects : List SourceObject} {overrides : List SheetOverride}
    {e : Failure} {s' : Session}
    (h : Run.from_ s (generateAll mode objects overrides) = (.error e, s')) : e.OfValue := by
  have haccount := (generateAll_keeps mode objects overrides).from_eq_error_iff.1 ⟨s', h⟩
  exact ((failsOnly_mapM (account_failsOnly overrides) objects).map _) e haccount

end Sheet

namespace Introspection

theorem forDomainObjects_failsOnly {α : Type} {p : Failure → Prop}
    {action : Value → Except Failure α} (hp : ∀ m, p (.misuse m))
    (haction : ∀ e, FailsOnly p (action e)) (entries : List Value) :
    FailsOnly p (forDomainObjects action entries) := by
  rw [forDomainObjects_eq_mapM]
  refine (failsOnly_mapM (fun e => ?_) entries).map _
  refine (failsOnly_mapError hp _).bind fun chosen => ?_
  cases chosen with
  | false => exact failsOnly_ok none
  | true => exact (haction e).bind fun a => failsOnly_ok (some a)

theorem objects_failsOnly (document : Value) :
    FailsOnly (fun e => e.OfValue ∨ ∃ m, e = .malformed m) (objects document) := by
  have hmisuse : ∀ m, (Failure.misuse m).OfValue ∨ ∃ m', Failure.misuse m = .malformed m' :=
    fun _ => .inl trivial
  have hmalformed : ∀ m, (Failure.malformed m).OfValue ∨
      ∃ m', Failure.malformed m = .malformed m' := fun m => .inr ⟨m, rfl⟩
  refine (failsOnly_mapError hmalformed _).bind fun entries => ?_
  refine forDomainObjects_failsOnly hmisuse (fun e => ?_) entries
  refine (failsOnly_mapError hmisuse _).bind fun name => ?_
  refine (failsOnly_mapError hmisuse _).bind fun members => ?_
  refine (failsOnly_mapError hmisuse _).bind fun items => ?_
  exact (failsOnly_mapM (fun item => failsOnly_mapError hmalformed _) items).bind
    fun fields => failsOnly_ok _

/-! ### Sound entries -/

/-- The entry is of an object type with texts where texts belong and with fields that can be made
columns. -/
def Sound (data : Value) : Prop :=
  Chosen data ∧ ∃ name description items, Declares data (.str name) description items ∧
    description.Describes ∧ ∀ item ∈ items, ∃ f, SourceField.ofValue item = .ok f ∧ f.Usable

theorem sound_iff :
    Sound data ↔ Chosen data ∧ ∃ o, SourceObject.ofValue data = .ok o ∧ o.Usable := by
  refine and_congr_right fun _ => ?_
  simp only [SourceObject.ofValue_eq_ok_iff]
  constructor
  · rintro ⟨name, description, items, hd, hdescribes, hitems⟩
    obtain ⟨fields, hfields⟩ := exists_mapM_eq_ok_iff.2 fun item hitem =>
      (hitems item hitem).imp fun f hf => hf.1
    refine ⟨⟨.str name, description, fields⟩, ⟨items, hd, hfields⟩, ⟨name, rfl⟩, hdescribes, ?_⟩
    intro f hf
    obtain ⟨item, hitem, hread⟩ := (mem_mapM_iff hfields).1 hf
    obtain ⟨f', hread', husable⟩ := hitems item hitem
    cases hread.symm.trans hread'
    exact husable
  · rintro ⟨⟨_, description, fields⟩, ⟨items, hd, hfields⟩, ⟨name, rfl⟩, hdescribes, husable⟩
    refine ⟨name, description, items, hd, hdescribes, fun item hitem => ?_⟩
    obtain ⟨f, hread⟩ := exists_mapM_eq_ok_iff.1 ⟨fields, hfields⟩ item hitem
    exact ⟨f, hread, husable f ((mem_mapM_iff hfields).2 ⟨item, hitem, hread⟩)⟩

end Introspection

/-! ### From a document to its sheets -/

namespace Sheet

/-- The sheets of a document's domain objects. -/
def ofDocument (mode : IntegrityMode) (document : Value) : Run (List Sheet) := do
  let objects ← Introspection.objects document
  generateAll mode objects []

theorem from_ofDocument (mode : IntegrityMode) (document : Value) (s : Session) :
    Run.from_ s (ofDocument mode document) = match Introspection.objects document with
      | .ok objects => Run.from_ s (generateAll mode objects [])
      | .error e => (.error e, s) := by
  rw [ofDocument, Run.from_bind, Run.from_lift]
  cases Introspection.objects document <;> rfl

theorem ofDocument_succeeds_iff :
    (∃ stay s', Run.from_ s (ofDocument mode document) = (.ok stay, s')) ↔
      ∃ entries, Lists document entries ∧ ∀ e ∈ entries, PassedOver e ∨ Sound e := by
  rw [from_ofDocument]
  constructor
  · intro h
    cases hobjects : Introspection.objects document with
    | error e => simp [hobjects] at h
    | ok objects =>
      rw [hobjects] at h
      have husable := generateAll_succeeds_iff.1 h
      obtain ⟨entries, hlists, hread⟩ := objects_eq_ok_iff.1 hobjects
      refine ⟨entries, hlists, fun e he => ?_⟩
      rcases forDomainObjects_succeeds_iff.1 ⟨objects, hread⟩ e he with hpassed | ⟨hchosen, o, ho⟩
      · exact .inl hpassed
      · have hmem := (mem_forDomainObjects_iff hread).2 ⟨e, he, hchosen, ho⟩
        exact .inr (sound_iff.2 ⟨hchosen, o, ho, husable o hmem⟩)
  · rintro ⟨entries, hlists, hsound⟩
    simp only [sound_iff] at hsound
    obtain ⟨objects, hread⟩ := forDomainObjects_succeeds_iff.2 fun e he =>
      (hsound e he).imp_right fun ⟨hchosen, o, ho, _⟩ => ⟨hchosen, o, ho⟩
    have hobjects := objects_eq_ok_iff.2 ⟨entries, hlists, hread⟩
    rw [hobjects]
    refine generateAll_succeeds_iff.2 fun o ho => ?_
    obtain ⟨e, he, hchosen, hreado⟩ := (mem_forDomainObjects_iff hread).1 ho
    rcases hsound e he with hpassed | ⟨-, o', ho', husable⟩
    · exact absurd hpassed hchosen.not_passedOver
    · cases hreado.symm.trans ho'
      exact husable

theorem ofDocument_malformed_iff :
    (∃ m s', Run.from_ s (ofDocument mode document) = (.error (.malformed m), s')) ↔
      ∃ m, Introspection.objects document = .error (.malformed m) := by
  rw [from_ofDocument]
  cases Introspection.objects document with
  | error e => simp
  | ok objects =>
    simp only [reduceCtorEq, exists_false, iff_false]
    rintro ⟨m, s', h⟩
    exact generateAll_failsOnly h

/-- A document with these types. -/
def listing (entries : List Value) : Value :=
  .record [("__schema", .record [("types", .list entries)])]

/-- An object type with one field, of this type. -/
def person (type : Value) : Value :=
  .record [("kind", .str "OBJECT"), ("name", .str "Person"),
    ("fields", .list [.record [("name", .str "born"), ("type", type)]])]

/-- A document with an object type that has no name. -/
def nameless : Value := listing [.record [("kind", .str "OBJECT")]]

end Sheet

end SchemaSheets
