import SchemaSheets.Session

/-!
# Accounts of runs

Generating sheets changes a session in two ways only: a diagnostic is collected,
and some diagnostics are written to the log too.  An account of a run says what
it ends with and which notes it takes, with no session in it.  A run keeps to an
account when it does just this from every session; runs that are put together
keep to the accounts that are put together in the same way.
-/

namespace SchemaSheets

variable {α β : Type}

/-! ### Notes -/

/-- What a run adds to a session. -/
inductive Note where
  /-- a diagnostic that is a warning in the log too -/
  | warned (channel : LogChannel) (d : Diagnostic)
  /-- a diagnostic that is collected only -/
  | collected (d : Diagnostic)
  deriving DecidableEq, Repr

namespace Note

def diagnostic : Note → Diagnostic
  | warned _ d => d
  | collected d => d

def record? : Note → Option LogRecord
  | warned channel d => some ⟨.warning, channel, d.message⟩
  | collected _ => none

end Note

namespace Session

def noted (s : Session) (notes : List Note) : Session :=
  { s with
    collector := s.collector.map fun c => ⟨c.items ++ notes.map Note.diagnostic⟩
    log := s.log ++ notes.filterMap Note.record? }

@[simp] theorem noted_nil (s : Session) : s.noted [] = s := by
  cases s with
  | mk collector log requests => cases collector <;> simp [noted]

@[simp] theorem noted_noted (s : Session) (notes more : List Note) :
    (s.noted notes).noted more = s.noted (notes ++ more) := by
  cases s with
  | mk collector log requests => cases collector <;> simp [noted]

@[simp] theorem collector_noted (s : Session) (notes : List Note) :
    (s.noted notes).collector =
      s.collector.map fun c => ⟨c.items ++ notes.map Note.diagnostic⟩ := rfl

end Session

/-! ### Runs from a session -/

namespace Run

@[simp] theorem from_pure (s : Session) (a : α) : from_ s (pure a : Run α) = (.ok a, s) := rfl

@[simp] theorem from_ofExcept (s : Session) (x : Except Failure α) :
    from_ s (ofExcept x) = (x, s) := by
  cases x <;> rfl

theorem from_bind (s : Session) (x : Run α) (f : α → Run β) :
    from_ s (x >>= f) = match from_ s x with
      | (.ok a, s') => from_ s' (f a)
      | (.error e, s') => (.error e, s') := by
  unfold from_ ExceptT.run StateT.run
  simp only [bind, ExceptT.bind, ExceptT.mk, StateT.bind, ExceptT.bindCont]
  cases x s with
  | mk outcome s' => cases outcome <;> rfl

theorem from_warn (s : Session) (channel : LogChannel) (d : Diagnostic) :
    from_ s (warn channel d) = (.ok (), s.noted [.warned channel d]) := rfl

theorem from_collect (s : Session) (d : Diagnostic) :
    from_ s (collect d) = (.ok (), s.noted [.collected d]) := by
  change (Except.ok (), s.collected d) = _
  simp [Session.noted, Session.collected, Note.record?, Note.diagnostic, Diagnostics.add]

@[simp] theorem from_lift (s : Session) (x : Except Failure α) :
    from_ s (liftM x : Run α) = (x, s) := from_ofExcept s x

@[simp] theorem from_lift_misuse (s : Session) (x : Except Misuse α) :
    from_ s (liftM x : Run α) = (x.mapError .misuse, s) := from_ofExcept s (x.mapError .misuse)

@[simp] theorem from_lift_invalid (s : Session) (x : Except Check.Invalid α) :
    from_ s (liftM x : Run α) = (x.mapError .invalid, s) := from_ofExcept s (x.mapError .invalid)

end Run

/-! ### Accounts -/

/-- What a run ends with, and the notes it takes if it succeeds. -/
abbrev Account (α : Type) := Except Failure (α × List Note)

/-- One account after another: the notes of the first come first. -/
def Account.andThen (r : Account α) (q : α → Account β) : Account β :=
  r.bind fun p => (q p.1).map fun p' => (p'.1, p.2 ++ p'.2)

/-- A step that takes no notes leaves the account of what follows as it is. -/
theorem Account.andThen_lift (x : Except Failure α) (q : α → Account β) :
    Account.andThen (x.map fun a => (a, [])) q = x >>= q := by
  cases x with
  | error e => rfl
  | ok a =>
    change (q a).map (fun made => (made.1, [] ++ made.2)) = q a
    cases q a <;> rfl

namespace Run

/-- The run does what its account says and nothing else, from every session. -/
def Keeps (x : Run α) : Account α → Prop
  | .ok (a, notes) => ∀ s, from_ s x = (.ok a, s.noted notes)
  | .error e => ∀ s, ∃ s', from_ s x = (.error e, s')

variable {x : Run α} {f : α → Run β} {a : α} {r : Account α}

theorem keeps_pure (a : α) : Keeps (pure a) (.ok (a, [])) := by
  intro s
  simp

theorem keeps_warn (channel : LogChannel) (d : Diagnostic) :
    Keeps (warn channel d) (.ok ((), [.warned channel d])) := fun s => from_warn s channel d

theorem keeps_collect (d : Diagnostic) : Keeps (collect d) (.ok ((), [.collected d])) :=
  fun s => from_collect s d

theorem keeps_lift (y : Except Failure α) : Keeps (liftM y) (y.map fun a => (a, [])) := by
  cases y with
  | error e => exact fun s => ⟨s, from_lift s _⟩
  | ok a => exact fun s => by simp

theorem keeps_lift_misuse (y : Except Misuse α) :
    Keeps (liftM y) ((y.mapError .misuse).map fun a => (a, [])) := keeps_lift (y.mapError .misuse)

theorem keeps_lift_invalid (y : Except Check.Invalid α) :
    Keeps (liftM y) ((y.mapError .invalid).map fun a => (a, [])) := keeps_lift (y.mapError .invalid)

/-- Runs one after another keep to their accounts one after another. -/
theorem Keeps.bind {q : α → Account β} (hx : Keeps x r) (hf : ∀ a, Keeps (f a) (q a)) :
    Keeps (x >>= f) (r.andThen q) := by
  cases r with
  | error e =>
    intro s
    obtain ⟨s', hs⟩ := hx s
    exact ⟨s', by rw [from_bind, hs]⟩
  | ok p =>
    obtain ⟨a, notes⟩ := p
    have hrest := hf a
    simp only [Account.andThen, Except.bind]
    cases hq : q a with
    | error e =>
      rw [hq] at hrest
      intro s
      obtain ⟨s', hs⟩ := hrest (s.noted notes)
      exact ⟨s', by rw [from_bind, hx s]; exact hs⟩
    | ok p' =>
      rw [hq] at hrest
      intro s
      rw [from_bind, hx s]
      simp [hrest (s.noted notes)]

/-- A run succeeds exactly as its account says. -/
theorem Keeps.from_eq_ok_iff (h : Keeps x r) {s s' : Session} :
    from_ s x = (.ok a, s') ↔ ∃ notes, r = .ok (a, notes) ∧ s' = s.noted notes := by
  cases r with
  | error e =>
    obtain ⟨t, ht⟩ := h s
    simp [ht]
  | ok p =>
    obtain ⟨b, notes⟩ := p
    rw [h s]
    constructor
    · intro he
      cases he
      exact ⟨notes, rfl, rfl⟩
    · rintro ⟨more, he, hs⟩
      cases he
      rw [hs]

/-- A run fails exactly as its account says. -/
theorem Keeps.from_eq_error_iff (h : Keeps x r) {s : Session} {e : Failure} :
    (∃ s', from_ s x = (.error e, s')) ↔ r = .error e := by
  cases r with
  | error e' =>
    obtain ⟨t, ht⟩ := h s
    simp [ht]
  | ok p => simp [h s]

end Run

end SchemaSheets
