import SchemaSheets.Failure
import Mathlib.Data.List.Forall2
import Mathlib.Data.List.Perm.Basic

/-!
# Steps that can fail

When a sequence of steps succeeds, what it fails with, and which failures it can have.
-/

namespace SchemaSheets

/-- A value is of the wrong type, or a descriptor refuses it. -/
def Failure.OfValue : Failure → Prop
  | misuse _ | invalid _ => True
  | _ => False

namespace Steps

variable {ε α β : Type}

theorem bind_eq_ok_iff {x : Except ε α} {f : α → Except ε β} {b : β} :
    x >>= f = .ok b ↔ ∃ a, x = .ok a ∧ f a = .ok b := by
  cases x <;> simp [bind, Except.bind]

theorem map_eq_ok_iff {x : Except ε α} {f : α → β} {b : β} :
    x.map f = .ok b ↔ ∃ a, x = .ok a ∧ f a = b := by
  cases x <;> simp [Except.map]

theorem eq_ok_of_toOption {x : Except ε α} {a : α} (h : x.toOption = some a) : x = .ok a := by
  cases x with
  | error e => cases h
  | ok b =>
    cases h
    rfl

theorem mapError_eq_ok_iff {ε' : Type} {x : Except ε α} {f : ε → ε'} {a : α} :
    x.mapError f = .ok a ↔ x = .ok a := by
  cases x <;> simp [Except.mapError]

theorem mapM_eq_ok_iff {f : α → Except ε β} {as : List α} {bs : List β} :
    as.mapM f = .ok bs ↔ List.Forall₂ (fun a b => f a = .ok b) as bs := by
  induction as generalizing bs with
  | nil =>
    rw [List.mapM_nil, List.forall₂_nil_left_iff]
    simp [pure, Except.pure, eq_comm]
  | cons a as ih =>
    simp only [List.mapM_cons, bind_eq_ok_iff, ih, List.forall₂_cons_left_iff]
    constructor
    · rintro ⟨b, hb, bs', hbs, he⟩
      cases he
      exact ⟨b, bs', hb, hbs, rfl⟩
    · rintro ⟨b, bs', hb, hbs, rfl⟩
      exact ⟨b, hb, bs', hbs, rfl⟩

theorem mapM_eq_ok_map {f : α → Except ε β} {g : α → β} {as : List α}
    (h : ∀ a ∈ as, f a = .ok (g a)) : as.mapM f = .ok (as.map g) := by
  rw [mapM_eq_ok_iff, List.forall₂_map_right_iff, List.forall₂_same]
  exact h

/-- A test on each item lets all of them pass or fails. -/
theorem mapM_ite {p : α → Prop} [DecidablePred p] {e : ε} {f : α → Except ε α}
    (h : ∀ a, f a = if p a then .ok a else .error e) (as : List α) :
    as.mapM f = if ∀ a ∈ as, p a then .ok as else .error e := by
  induction as with
  | nil => rfl
  | cons a as ih =>
    rw [List.mapM_cons, ih, h]
    by_cases ha : p a
    · by_cases has : ∀ b ∈ as, p b
      · rw [if_pos ha, if_pos has, if_pos (List.forall_mem_cons.2 ⟨ha, has⟩)]
        rfl
      · rw [if_pos ha, if_neg has, if_neg fun hall => has (List.forall_mem_cons.1 hall).2]
        rfl
    · rw [if_neg ha, if_neg fun hall => ha (List.forall_mem_cons.1 hall).1]
      rfl

theorem exists_mapM_eq_ok_iff {f : α → Except ε β} {as : List α} :
    (∃ bs, as.mapM f = .ok bs) ↔ ∀ a ∈ as, ∃ b, f a = .ok b := by
  induction as with
  | nil => simp [pure, Except.pure]
  | cons a as ih =>
    simp only [mapM_eq_ok_iff, List.forall₂_cons_left_iff, List.forall_mem_cons] at ih ⊢
    rw [← ih]
    constructor
    · rintro ⟨_, b, bs, hb, hbs, -⟩
      exact ⟨⟨b, hb⟩, bs, hbs⟩
    · rintro ⟨⟨b, hb⟩, bs, hbs⟩
      exact ⟨b :: bs, b, bs, hb, hbs, rfl⟩

theorem mem_mapM_iff {f : α → Except ε β} {as : List α} {bs : List β} (h : as.mapM f = .ok bs)
    {b : β} : b ∈ bs ↔ ∃ a ∈ as, f a = .ok b := by
  rw [mapM_eq_ok_iff] at h
  induction h with
  | nil => simp
  | cons hab _ ih => simp [ih, hab, eq_comm]

theorem exists_getElem?_of_forall₂ {R : α → β → Prop} {as : List α} {bs : List β}
    (h : List.Forall₂ R as bs) {i : Nat} {a : α} (ha : as[i]? = some a) :
    ∃ b, bs[i]? = some b ∧ R a b := by
  obtain ⟨hi, rfl⟩ := List.getElem?_eq_some_iff.1 ha
  have hi' : i < bs.length := h.length_eq ▸ hi
  exact ⟨bs[i], List.getElem?_eq_getElem hi', h.get hi hi'⟩

/-- Items in another order give the same results in another order. -/
theorem exists_mapM_of_perm {f : α → Except ε β} {as as' : List α} {bs : List β}
    (hp : as.Perm as') (h : as.mapM f = .ok bs) : ∃ bs', as'.mapM f = .ok bs' ∧ bs.Perm bs' := by
  obtain ⟨bs', hbs', hperm⟩ := List.perm_comp_forall₂ hp.symm (mapM_eq_ok_iff.1 h)
  exact ⟨bs', mapM_eq_ok_iff.2 hbs', hperm.symm⟩

/-- Some of the items give some of the results, in order. -/
theorem exists_mapM_of_sublist {f : α → Except ε β} {as as' : List α} {bs' : List β}
    (hs : as.Sublist as') (h : as'.mapM f = .ok bs') :
    ∃ bs, as.mapM f = .ok bs ∧ bs.Sublist bs' := by
  simp only [mapM_eq_ok_iff] at h ⊢
  induction hs generalizing bs' with
  | slnil => exact ⟨[], .nil, List.nil_sublist bs'⟩
  | cons a _ ih =>
    obtain ⟨b, rest', -, hrest', rfl⟩ := List.forall₂_cons_left_iff.1 h
    obtain ⟨bs, hbs, hsub⟩ := ih hrest'
    exact ⟨bs, hbs, hsub.cons b⟩
  | cons_cons a _ ih =>
    obtain ⟨b, rest', hb, hrest', rfl⟩ := List.forall₂_cons_left_iff.1 h
    obtain ⟨bs, hbs, hsub⟩ := ih hrest'
    exact ⟨b :: bs, .cons hb hbs, hsub.cons_cons b⟩

/-! ### Sequences that fail -/

theorem bind_eq_error_iff {x : Except ε α} {f : α → Except ε β} {e : ε} :
    x >>= f = .error e ↔ x = .error e ∨ ∃ a, x = .ok a ∧ f a = .error e := by
  cases x <;> simp [bind, Except.bind]

theorem map_eq_error_iff {x : Except ε α} {f : α → β} {e : ε} :
    x.map f = .error e ↔ x = .error e := by
  cases x <;> simp [Except.map]

theorem mapError_eq_error_iff {ε' : Type} {x : Except ε α} {f : ε → ε'} {e : ε'} :
    x.mapError f = .error e ↔ ∃ d, x = .error d ∧ f d = e := by
  cases x <;> simp [Except.mapError]

theorem exists_eq_error_iff {x : Except ε α} : (∃ e, x = .error e) ↔ ¬∃ a, x = .ok a := by
  cases x <;> simp

theorem mapM_mapError {ε' : Type} (f : α → Except ε β) (g : ε → ε') (as : List α) :
    as.mapM (fun a => (f a).mapError g) = (as.mapM f).mapError g := by
  induction as with
  | nil => rfl
  | cons a as ih =>
    rw [List.mapM_cons, List.mapM_cons, ih]
    cases f a with
    | error e => rfl
    | ok b => cases as.mapM f <;> rfl

/-- The failure of a sequence is that of its first item that fails. -/
theorem mapM_eq_error_iff {f : α → Except ε β} {as : List α} {e : ε} :
    as.mapM f = .error e ↔ ∃ before a after, as = before ++ a :: after ∧
      (∀ x ∈ before, ∃ b, f x = .ok b) ∧ f a = .error e := by
  induction as with
  | nil => simp [pure, Except.pure]
  | cons a as ih =>
    simp only [List.mapM_cons, bind_eq_error_iff, ih, pure, Except.pure, reduceCtorEq, and_false,
      exists_false, or_false]
    constructor
    · rintro (ha | ⟨b, hb, before, a', after, rfl, hbefore, ha'⟩)
      · exact ⟨[], a, as, rfl, by simp, ha⟩
      · exact ⟨a :: before, a', after, rfl, List.forall_mem_cons.2 ⟨⟨b, hb⟩, hbefore⟩, ha'⟩
    · rintro ⟨before, a', after, hsplit, hbefore, ha'⟩
      cases before with
      | nil =>
        cases hsplit
        exact .inl ha'
      | cons x before =>
        cases hsplit
        obtain ⟨⟨b, hb⟩, hrest⟩ := List.forall_mem_cons.1 hbefore
        exact .inr ⟨b, hb, before, a', after, rfl, hrest, ha'⟩

theorem exists_mapM_eq_error_iff {f : α → Except ε β} {as : List α} :
    (∃ e, as.mapM f = .error e) ↔ ∃ a ∈ as, ∃ e, f a = .error e := by
  simp only [exists_eq_error_iff, exists_mapM_eq_ok_iff, not_forall, exists_prop]

/-! ### Bounds of failures -/

/-- Whatever the steps fail with has the property. -/
def FailsOnly (p : ε → Prop) (x : Except ε α) : Prop := ∀ e, x = .error e → p e

section

variable {p : ε → Prop} {x : Except ε α}

theorem failsOnly_ok (a : α) : FailsOnly p (.ok a : Except ε α) := nofun

theorem failsOnly_error {e : ε} (h : p e) : FailsOnly p (.error e : Except ε α) := by
  rintro _ ⟨⟩
  exact h

theorem failsOnly_mapError {ε' : Type} {f : ε' → ε} (hf : ∀ d, p (f d)) (y : Except ε' α) :
    FailsOnly p (y.mapError f) := by
  intro e he
  obtain ⟨d, -, rfl⟩ := mapError_eq_error_iff.1 he
  exact hf d

theorem FailsOnly.bind {f : α → Except ε β} (hx : FailsOnly p x) (hf : ∀ a, FailsOnly p (f a)) :
    FailsOnly p (x >>= f) := by
  intro e he
  rcases bind_eq_error_iff.1 he with hxe | ⟨a, -, hfe⟩
  · exact hx e hxe
  · exact hf a e hfe

theorem FailsOnly.map (hx : FailsOnly p x) (f : α → β) : FailsOnly p (x.map f) :=
  fun e he => hx e (map_eq_error_iff.1 he)

theorem failsOnly_mapM {f : α → Except ε β} (hf : ∀ a, FailsOnly p (f a)) (as : List α) :
    FailsOnly p (as.mapM f) := by
  intro e he
  obtain ⟨_, a, _, -, -, ha⟩ := mapM_eq_error_iff.1 he
  exact hf a e ha

end

/-! ### Failures of a kind -/

theorem lift_misuse_eq_ok_iff {x : Except Misuse α} {a : α} :
    (liftM x : Except Failure α) = .ok a ↔ x = .ok a := mapError_eq_ok_iff

theorem lift_invalid_eq_ok_iff {x : Except Check.Invalid α} {a : α} :
    (liftM x : Except Failure α) = .ok a ↔ x = .ok a := mapError_eq_ok_iff

theorem lift_malformed_eq_ok_iff {x : Except Malformed α} {a : α} :
    (liftM x : Except Failure α) = .ok a ↔ x = .ok a := mapError_eq_ok_iff

theorem lift_malformed_eq_error_iff {x : Except Malformed α} {m : Malformed} :
    (liftM x : Except Failure α) = .error (.malformed m) ↔ x = .error m := by
  change x.mapError Failure.malformed = _ ↔ _
  simp [mapError_eq_error_iff]

theorem lift_misuse_ok_bind (a : α) (f : α → Except Failure β) :
    (liftM (Except.ok a : Except Misuse α) : Except Failure α) >>= f = f a := rfl

theorem lift_misuse_error_bind (m : Misuse) (f : α → Except Failure β) :
    (liftM (Except.error m : Except Misuse α) : Except Failure α) >>= f = .error (.misuse m) := rfl

theorem failsOnly_misuse (x : Except Misuse α) :
    FailsOnly Failure.OfValue (liftM x : Except Failure α) :=
  failsOnly_mapError (fun _ => trivial) x

theorem failsOnly_invalid (x : Except Check.Invalid α) :
    FailsOnly Failure.OfValue (liftM x : Except Failure α) :=
  failsOnly_mapError (fun _ => trivial) x

end Steps

end SchemaSheets
