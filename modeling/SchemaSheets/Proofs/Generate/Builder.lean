import Mathlib.Data.List.Induction
import SchemaSheets.Proofs.Descriptor.Extras
import SchemaSheets.Proofs.Generate.Account

/-!
# Uses of a sheet in the making

A caller may use a sheet in the making in any order and as often as wanted.
`play_follows_history` says what each call then answers in terms of the calls
before it alone: the texts, fields and overrides they passed, and whether one of
them had to add an identity field.
-/

namespace SchemaSheets

namespace SheetBuilder

/-- One use of a sheet in the making. -/
inductive Call where
  | overrides (o : Option SheetOverride)
  | describe (text : String)
  | field (f : Field)
  | ensureId
  | build

/-- What a call gives back. -/
inductive Answer where
  | done
  | added (b : Bool)
  | built (t : Except Check.Invalid Sheet)

/-- The call told that it added an identity field. -/
def Answer.isAdded : Answer → Bool
  | added b => b
  | _ => false

/-- A call, with its answer and the sheet in the making it leaves. -/
def call (b : SheetBuilder) : Call → Answer × SheetBuilder
  | .overrides o => (.done, b.overrides o)
  | .describe text => (.done, b.describe (.str text))
  | .field f => (.done, b.field f)
  | .ensureId => (.added b.ensureId.1, b.ensureId.2)
  | .build => (.built b.build, b)

/-- Calls one after another, with all their answers. -/
def play (b : SheetBuilder) : List Call → List Answer × SheetBuilder
  | [] => ([], b)
  | c :: cs => ((b.call c).1 :: (play (b.call c).2 cs).1, (play (b.call c).2 cs).2)

theorem play_append (b : SheetBuilder) (before after : List Call) :
    b.play (before ++ after) =
      ((b.play before).1 ++ ((b.play before).2.play after).1, ((b.play before).2.play after).2) := by
  induction before generalizing b with
  | nil => rfl
  | cons c cs ih =>
    rw [List.cons_append, play, ih]
    rfl

theorem length_play (b : SheetBuilder) (calls : List Call) :
    (b.play calls).1.length = calls.length := by
  induction calls generalizing b with
  | nil => rfl
  | cons c cs ih => rw [play, List.length_cons, ih, List.length_cons]

theorem play_concat (b : SheetBuilder) (calls : List Call) (c : Call) :
    b.play (calls ++ [c]) =
      ((b.play calls).1 ++ [((b.play calls).2.call c).1], ((b.play calls).2.call c).2) :=
  play_append b calls [c]

/-- The answer of a call is the one that the calls before it lead to. -/
theorem answer_play (b : SheetBuilder) (before after : List Call) (c : Call) :
    (b.play (before ++ c :: after)).1[before.length]? = some ((b.play before).2.call c).1 := by
  have hlength : (b.play before).1.length ≤ before.length := Nat.le_of_eq (length_play b before)
  rw [play_append, List.getElem?_append_right hlength, length_play, Nat.sub_self]
  rfl

/-- Without a call for the sheet, all other answers and the end are the same. -/
theorem play_erase_build (b : SheetBuilder) (before after : List Call) :
    b.play (before ++ after) =
      ((b.play (before ++ .build :: after)).1.eraseIdx before.length,
        (b.play (before ++ .build :: after)).2) := by
  have hlength : (b.play before).1.length ≤ before.length := Nat.le_of_eq (length_play b before)
  rw [play_append, play_append, List.eraseIdx_append_of_length_le hlength, length_play,
    Nat.sub_self]
  rfl

/-! ### What the calls passed -/

/-- The properties of the overrides, in the order of the calls. -/
def given (calls : List Call) : Extras :=
  calls.flatMap fun
    | .overrides (some o) => o.extras
    | _ => []

/-- The descriptions, in the order of the calls. -/
def described (calls : List Call) : List String :=
  calls.filterMap fun
    | .describe text => some text
    | _ => none

/-- The fields, in the order of the calls. -/
def passed (calls : List Call) : List Field :=
  calls.filterMap fun
    | .field f => some f
    | _ => none

/-- An identity field was asked for while none had been passed. -/
def AddsId (calls : List Call) : Prop :=
  ∃ before after, calls = before ++ .ensureId :: after ∧ ∀ f ∈ passed before, f.key ≠ idKey

theorem addsId_concat {calls : List Call} {c : Call} :
    AddsId (calls ++ [c]) ↔
      AddsId calls ∨ (c = .ensureId ∧ ∀ f ∈ passed calls, f.key ≠ idKey) := by
  constructor
  · rintro ⟨before, after, hcalls, hnone⟩
    rcases List.eq_nil_or_concat after with rfl | ⟨after, last, rfl⟩
    · obtain ⟨rfl, hc⟩ := List.append_inj' hcalls rfl
      exact .inr ⟨List.singleton_inj.1 hc, hnone⟩
    · have hsplit : calls ++ [c] = (before ++ .ensureId :: after) ++ [last] := by
        rw [hcalls]
        simp
      exact .inl ⟨before, after, (List.append_inj' hsplit rfl).1, hnone⟩
  · rintro (⟨before, after, rfl, hnone⟩ | ⟨rfl, hnone⟩)
    · exact ⟨before, after ++ [c], by simp, hnone⟩
    · exact ⟨calls, [], rfl, hnone⟩

theorem given_concat (calls : List Call) (c : Call) :
    given (calls ++ [c]) = given calls ++ given [c] := List.flatMap_append

theorem described_concat (calls : List Call) (c : Call) :
    described (calls ++ [c]) = described calls ++ described [c] := List.filterMap_append

theorem passed_concat (calls : List Call) (c : Call) :
    passed (calls ++ [c]) = passed calls ++ passed [c] := List.filterMap_append

/-! ### What one call changes -/

theorem ensureId_eq (b : SheetBuilder) :
    b.ensureId.2 = { b with fields := (if b.ensureId.1 then [idField] else []) ++ b.fields } := by
  unfold ensureId
  split <;> rfl

theorem slug_call (b : SheetBuilder) (c : Call) : (b.call c).2.slug = b.slug := by
  cases c with
  | overrides o => cases o <;> rfl
  | ensureId => exact slug_ensureId b
  | _ => rfl

theorem name_call (b : SheetBuilder) (c : Call) : (b.call c).2.name = b.name := by
  cases c with
  | overrides o => cases o <;> rfl
  | ensureId =>
    show b.ensureId.2.name = b.name
    rw [ensureId_eq]
  | _ => rfl

theorem description_call {b : SheetBuilder} {text : String} (c : Call)
    (h : b.description = .str text) :
    (b.call c).2.description = .str ((described [c]).getLast?.getD text) := by
  cases c with
  | overrides o => cases o <;> exact h
  | describe given => exact Value.orElse_str given
  | ensureId => exact (description_ensureId b).trans h
  | _ => exact h

theorem extras_call (b : SheetBuilder) (c : Call) :
    (b.call c).2.extras = Extras.insertAll b.extras (given [c]) := by
  cases c with
  | overrides o =>
    cases o with
    | none => rfl
    | some o =>
      have hgiven : given [.overrides (some o)] = o.extras := List.append_nil _
      rw [hgiven]
      rfl
  | ensureId =>
    show b.ensureId.2.extras = b.extras
    rw [ensureId_eq]
  | _ => rfl

theorem isAdded_call_iff (b : SheetBuilder) (c : Call) :
    (b.call c).1.isAdded = true ↔ c = .ensureId ∧ ∀ f ∈ b.fields, f.key ≠ idKey := by
  cases c with
  | ensureId =>
    have hadded : b.ensureId.1 = !b.hasId := by
      unfold ensureId
      cases b.hasId <;> rfl
    show b.ensureId.1 = true ↔ _
    rw [hadded]
    simp [hasId]
  | _ => simp [call, Answer.isAdded]

theorem fields_call (b : SheetBuilder) (c : Call) :
    (b.call c).2.fields =
      (if (b.call c).1.isAdded then [idField] else []) ++ b.fields ++ passed [c] := by
  cases c with
  | overrides o => cases o <;> exact (List.append_nil _).symm
  | ensureId =>
    show b.ensureId.2.fields = _
    rw [ensureId_eq]
    exact (List.append_nil _).symm
  | field f => rfl
  | _ => exact (List.append_nil _).symm

/-! ### What the calls lead to -/

/-- The sheet in the making is the one that the calls lead to. -/
structure Follows (slug : String) (calls : List Call) (b : SheetBuilder) : Prop where
  slug_eq : b.slug = slug
  name_eq : b.name = Words.heading slug
  description_eq : b.description = .str ((described calls).getLast?.getD "")
  fields_added : AddsId calls → b.fields = idField :: passed calls
  fields_plain : ¬AddsId calls → b.fields = passed calls
  extras_eq : b.extras = Extras.insertAll [] (given calls)

variable {slug : String} {calls : List Call} {b : SheetBuilder}

theorem Follows.mem_id_iff (h : Follows slug calls b) :
    (∃ f ∈ b.fields, f.key = idKey) ↔ AddsId calls ∨ ∃ f ∈ passed calls, f.key = idKey := by
  by_cases hadds : AddsId calls
  · have hmem : idField ∈ b.fields := by
      rw [h.fields_added hadds]
      exact .head _
    exact ⟨fun _ => .inl hadds, fun _ => ⟨idField, hmem, rfl⟩⟩
  · rw [h.fields_plain hadds]
    exact ⟨.inr, fun hor => hor.resolve_left hadds⟩

/-- A call adds an identity field exactly if the calls before it neither added nor passed one. -/
theorem Follows.isAdded_iff (h : Follows slug calls b) (c : Call) :
    (b.call c).1.isAdded = true ↔
      c = .ensureId ∧ ¬AddsId calls ∧ ∀ f ∈ passed calls, f.key ≠ idKey := by
  have hnone : (∀ f ∈ b.fields, f.key ≠ idKey) ↔
      ¬AddsId calls ∧ ∀ f ∈ passed calls, f.key ≠ idKey := by
    have hnot := not_congr h.mem_id_iff
    simpa only [not_or, not_exists, not_and] using hnot
  rw [isAdded_call_iff, hnone]

theorem Follows.addsId_concat_iff (h : Follows slug calls b) (c : Call) :
    AddsId (calls ++ [c]) ↔ AddsId calls ∨ (b.call c).1.isAdded = true := by
  rw [addsId_concat, h.isAdded_iff]
  by_cases hadds : AddsId calls
  · simp [hadds]
  · simp [hadds]

theorem not_addsId_nil : ¬AddsId [] := by
  rintro ⟨before, after, hcalls, -⟩
  simp at hcalls

theorem follows_ofSlug (slug : String) : Follows slug [] (ofSlug slug) where
  slug_eq := rfl
  name_eq := rfl
  description_eq := rfl
  fields_added hadds := absurd hadds not_addsId_nil
  fields_plain _ := rfl
  extras_eq := rfl

theorem Follows.fields_concat (h : Follows slug calls b) (c : Call) :
    (AddsId (calls ++ [c]) → (b.call c).2.fields = idField :: passed (calls ++ [c])) ∧
      (¬AddsId (calls ++ [c]) → (b.call c).2.fields = passed (calls ++ [c])) := by
  rw [h.addsId_concat_iff, passed_concat, fields_call]
  cases hadded : (b.call c).1.isAdded with
  | true =>
    have hbefore : ¬AddsId calls := ((h.isAdded_iff c).1 hadded).2.1
    rw [h.fields_plain hbefore]
    exact ⟨fun _ => rfl, fun hout => absurd (.inr rfl) hout⟩
  | false =>
    constructor
    · intro hor
      have hbefore : AddsId calls := hor.resolve_right Bool.false_ne_true
      rw [h.fields_added hbefore]
      rfl
    · intro hout
      have hbefore : ¬AddsId calls := fun hadds => hout (.inl hadds)
      rw [h.fields_plain hbefore]
      rfl

theorem Follows.step (h : Follows slug calls b) (c : Call) :
    Follows slug (calls ++ [c]) (b.call c).2 where
  slug_eq := (slug_call b c).trans h.slug_eq
  name_eq := (name_call b c).trans h.name_eq
  description_eq := by
    rw [description_call c h.description_eq, described_concat, List.getLast?_append, Option.getD_or]
  fields_added := (h.fields_concat c).1
  fields_plain := (h.fields_concat c).2
  extras_eq := by
    rw [extras_call, h.extras_eq, given_concat]
    exact List.foldl_append.symm

/-- The sheet in the making after any calls is the one they lead to. -/
theorem follows_play (slug : String) (calls : List Call) :
    Follows slug calls ((ofSlug slug).play calls).2 := by
  induction calls using List.reverseRecOn with
  | nil => exact follows_ofSlug slug
  | append_singleton calls c ih =>
    rw [play_concat]
    exact ih.step c

/-- One call added an identity field if the calls ask for one, and no call did otherwise. -/
theorem countP_added (slug : String) (calls : List Call) :
    (AddsId calls → ((ofSlug slug).play calls).1.countP Answer.isAdded = 1) ∧
      (¬AddsId calls → ((ofSlug slug).play calls).1.countP Answer.isAdded = 0) := by
  induction calls using List.reverseRecOn with
  | nil => exact ⟨fun hadds => absurd hadds not_addsId_nil, fun _ => rfl⟩
  | append_singleton calls c ih =>
    have hfollows := follows_play slug calls
    rw [play_concat, List.countP_append, hfollows.addsId_concat_iff]
    cases hadded : (((ofSlug slug).play calls).2.call c).1.isAdded with
    | true =>
      have hbefore : ¬AddsId calls := ((hfollows.isAdded_iff c).1 hadded).2.1
      have hzero := ih.2 hbefore
      simp [hadded, hzero]
    | false =>
      simp only [List.countP_singleton, hadded, Bool.false_eq_true, or_false, if_false,
        Nat.add_zero]
      exact ih

/-- The sheet that some calls ask for. -/
structure MadeBy (slug : String) (calls : List Call) (t : Sheet) : Prop where
  slug_eq : t.slug = slug
  name_eq : t.name = Words.heading slug
  description_eq : t.description = (described calls).getLast?.getD ""
  fields_added : AddsId calls → t.fields = idField :: passed calls
  fields_plain : ¬AddsId calls → t.fields = passed calls
  id_field : .ensureId ∈ calls → ∃ f ∈ t.fields, f.key = idKey
  extras_get : ∀ n, t.extras.get? n =
    if n ∈ Sheet.declared then none else Extras.get? (given calls).reverse n
  extras_distinct : t.extras.names.Nodup

/-- Once asked for, there is an identity field. -/
theorem addsId_or_passed (h : .ensureId ∈ calls) :
    AddsId calls ∨ ∃ f ∈ passed calls, f.key = idKey := by
  obtain ⟨before, after, rfl⟩ := List.append_of_mem h
  by_cases hpassed : ∃ f ∈ passed before, f.key = idKey
  · obtain ⟨f, hf, hkey⟩ := hpassed
    have hmem : f ∈ passed (before ++ .ensureId :: after) := by
      have happend : passed (before ++ .ensureId :: after) = passed before ++ passed after :=
        List.filterMap_append
      rw [happend]
      exact List.mem_append_left _ hf
    exact .inr ⟨f, hmem, hkey⟩
  · have hnone : ∀ f ∈ passed before, f.key ≠ idKey := by
      intro f hf hkey
      exact hpassed ⟨f, hf, hkey⟩
    exact .inl ⟨before, after, rfl, hnone⟩

theorem Follows.build (h : Follows slug calls b) :
    ∃ t, b.build = .ok t ∧ MadeBy slug calls t := by
  have hdescription : Check.text b.description = .ok ((described calls).getLast?.getD "") := by
    rw [h.description_eq]
    rfl
  refine ⟨_, build_eq_ok_iff.2 ⟨_, hdescription, rfl⟩, ?_⟩
  constructor
  · exact h.slug_eq
  · exact h.name_eq
  · rfl
  · exact h.fields_added
  · exact h.fields_plain
  · intro hmem
    exact h.mem_id_iff.2 (addsId_or_passed hmem)
  · intro n
    show (b.extras.without Sheet.declared).get? n = _
    rw [Extras.get?_without, h.extras_eq, Extras.get?_insertAll]
    have hnil : Extras.get? [] n = none := rfl
    rw [hnil, Option.or_none]
  · apply Extras.nodup_without
    rw [h.extras_eq]
    exact Extras.nodup_insertAll _ List.nodup_nil

/-- All answers to calls on a new sheet. -/
def answers (slug : String) (calls : List Call) : List Answer := ((ofSlug slug).play calls).1

/-- The sheet in the making that calls on a new one leave. -/
def reached (slug : String) (calls : List Call) : SheetBuilder := ((ofSlug slug).play calls).2

/-- Whatever the order of the calls: every sheet built is the one that the calls before it ask for,
and building it changes nothing; an identity field is added at most once, by the call that tells
so. -/
theorem play_follows_history (slug : String) :
    (∀ before after,
      (∃ t, (answers slug (before ++ .build :: after))[before.length]? = some (.built (.ok t)) ∧
        MadeBy slug before t) ∧
      answers slug (before ++ after) =
        (answers slug (before ++ .build :: after)).eraseIdx before.length ∧
      reached slug (before ++ after) = reached slug (before ++ .build :: after)) ∧
    (∀ before after, ∃ added,
      (answers slug (before ++ .ensureId :: after))[before.length]? = some (.added added) ∧
      (added = true ↔ ¬AddsId before ∧ ∀ f ∈ passed before, f.key ≠ idKey) ∧
      reached slug (before ++ [.ensureId]) =
        { reached slug before with
          fields := (if added then [idField] else []) ++ (reached slug before).fields }) ∧
    ∀ calls, (answers slug calls).countP Answer.isAdded ≤ 1 := by
  refine ⟨?_, ?_, ?_⟩
  · intro before after
    obtain ⟨t, hbuild, hmade⟩ := (follows_play slug before).build
    have hanswer := answer_play (ofSlug slug) before after .build
    have hcall : (((ofSlug slug).play before).2.call .build).1 = .built (.ok t) :=
      congrArg Answer.built hbuild
    rw [hcall] at hanswer
    obtain ⟨hanswers, hreached⟩ := Prod.ext_iff.1 (play_erase_build (ofSlug slug) before after)
    exact ⟨⟨t, hanswer, hmade⟩, hanswers, hreached⟩
  · intro before after
    have hadded := (follows_play slug before).isAdded_iff .ensureId
    refine ⟨_, answer_play (ofSlug slug) before after .ensureId, ?_, ?_⟩
    · exact hadded.trans ⟨And.right, fun hand => ⟨rfl, hand⟩⟩
    · rw [reached, play_concat]
      exact ensureId_eq _
  · intro calls
    show ((ofSlug slug).play calls).1.countP Answer.isAdded ≤ 1
    by_cases hadds : AddsId calls
    · exact Nat.le_of_eq ((countP_added slug calls).1 hadds)
    · have hzero := (countP_added slug calls).2 hadds
      omega

end SheetBuilder

end SchemaSheets
