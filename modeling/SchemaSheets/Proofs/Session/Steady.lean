import SchemaSheets.Generate.Workbook
import SchemaSheets.Proofs.Http.Exchange
import SchemaSheets.Proofs.Generate.Account

/-!
# Steady runs

A run is steady when what it ends with does not depend on the session that it starts from.  Runs
that are put together from steady runs are steady, and a run that keeps to an account still is when
its diagnostics are collected.  The generation of a workbook is steady.
-/

namespace SchemaSheets

namespace Run

variable {α β : Type} {x : Run α} {f : α → Run β}

/-- What the run ends with is the same from every session. -/
def Steady (x : Run α) : Prop := ∀ s s', (from_ s x).1 = (from_ s' x).1

theorem steady_lift (y : Except Failure α) : Steady (liftM y : Run α) := by
  intro s s'
  rw [from_lift, from_lift]

theorem steady_pure (a : α) : Steady (pure a : Run α) := steady_lift (.ok a)

theorem steady_throw (e : Failure) : Steady (throw e : Run α) := steady_lift (.error e)

theorem steady_modify (g : Session → Session) : Steady (modify g : Run Unit) := fun _ _ => rfl

theorem steady_inform (channel : LogChannel) (message : String) :
    Steady (inform channel message) := steady_modify _

theorem Steady.bind (hx : Steady x) (hf : ∀ a, Steady (f a)) : Steady (x >>= f) := by
  intro s s'
  have hsame := hx s s'
  rw [from_bind, from_bind]
  cases hfirst : from_ s x with
  | mk outcome t =>
    cases hsecond : from_ s' x with
    | mk outcome' t' =>
      rw [hfirst, hsecond] at hsame
      change outcome = outcome' at hsame
      subst hsame
      cases outcome with
      | error e => rfl
      | ok a => exact hf a t t'

/-- What a run ends with from an empty session. -/
def outcome (x : Run α) : Except Failure α := (from_ {} x).1

theorem Steady.from_eq (h : Steady x) (s : Session) : (from_ s x).1 = x.outcome := h s {}

@[simp] theorem outcome_lift (y : Except Failure α) : (liftM y : Run α).outcome = y := by
  rw [outcome, from_lift]

theorem outcome_bind (hf : ∀ a, Steady (f a)) :
    (x >>= f).outcome = x.outcome.bind fun a => (f a).outcome := by
  rw [outcome, outcome, from_bind]
  cases from_ {} x with
  | mk first s =>
    cases first with
    | error e => rfl
    | ok a => exact (hf a).from_eq s

@[simp] theorem from_get (s : Session) : from_ s (get : Run Session) = (.ok s, s) := rfl

/-- Collecting starts from an empty collector, so just the notes of the account are found. -/
theorem Keeps.from_collecting {a : α} {notes : List Note} (h : Keeps x (.ok (a, notes)))
    (s : Session) : (from_ s (collecting x)).1 = .ok (a, ⟨notes.map Note.diagnostic⟩) := by
  have hx := h { s with collector := some {} }
  simp only [collecting, from_bind, from_get, from_modify, hx, Session.collector_noted]
  simp

theorem Keeps.from_collecting_error {e : Failure} (h : Keeps x (.error e)) (s : Session) :
    (from_ s (collecting x)).1 = .error e := by
  obtain ⟨t, ht⟩ := h { s with collector := some {} }
  simp only [collecting, from_bind, from_get, from_modify, ht]

/-- What is collected of a run that keeps to an account is what the account says. -/
theorem Keeps.from_collecting_eq_ok {r : Account α} {found : α × Diagnostics} {s s' : Session}
    (h : Keeps x r) (hrun : from_ s (collecting x) = (.ok found, s')) :
    ∃ a notes, r = .ok (a, notes) ∧ found = (a, ⟨notes.map Note.diagnostic⟩) := by
  cases r with
  | error e =>
    have herror := h.from_collecting_error s
    rw [hrun] at herror
    cases herror
  | ok made =>
    have hok := h.from_collecting s
    rw [hrun] at hok
    cases hok
    exact ⟨made.1, made.2, rfl, rfl⟩

theorem Keeps.steady_collecting {r : Account α} (h : Keeps x r) : Steady (collecting x) := by
  intro s s'
  cases r with
  | error e => rw [h.from_collecting_error, h.from_collecting_error]
  | ok p => rw [h.from_collecting, h.from_collecting]

end Run

namespace Http

open Run

theorem steady_exchange (network : Network) (url : String) (h : Hop) :
    Steady (h.exchange network url) := by
  intro s s'
  rw [Hop.from_exchange, Hop.from_exchange]

theorem steady_send (network : Network) (url : String) (left : Nat) (h : Hop) :
    Steady (send network url left h) := by
  induction left generalizing h with
  | zero =>
    rw [send]
    refine (steady_exchange network url h).bind fun x => ?_
    cases x with
    | inl r => exact steady_pure r
    | inr next => exact steady_throw _
  | succ left ih =>
    rw [send]
    refine (steady_exchange network url h).bind fun x => ?_
    cases x with
    | inl r => exact steady_pure r
    | inr next => exact ih next

variable [Capacity]

theorem steady_fetch (network : Network) (url : String) : Steady (fetch network url) := by
  unfold fetch
  cases Url.Canonical.ofText url.toList with
  | error fault => exact steady_throw _
  | ok target =>
    exact (steady_send network url maxRedirects _).bind fun r => steady_lift (settle url r)

end Http

namespace Introspection

variable [Capacity]

theorem steady_ofValue (network : Http.Network) (source : Value) :
    Run.Steady (ofValue network source) := by
  unfold ofValue
  split
  next text =>
    split
    next => exact Http.steady_fetch network _
    next => exact Run.steady_lift _
  next => exact Run.steady_throw _
  next => exact Run.steady_lift _
  next => exact Run.steady_throw _

end Introspection

namespace Workbook

open Run

theorem steady_ofDocument (mode : IntegrityMode) (p : WorkbookPlan) (given document : Value) :
    Steady (ofDocument mode p given document) := by
  unfold ofDocument
  refine (steady_lift _).bind fun objects => ?_
  refine (steady_inform _ _).bind fun _ => ?_
  have hsheets := (keeps_lift (chosenOverrides p given)).bind
    (Sheet.generateAll_keeps mode objects)
  refine hsheets.steady_collecting.bind fun made => ?_
  exact (steady_inform _ _).bind fun _ => steady_pure _

theorem steady_generate [Capacity] (network : Http.Network) (mode : IntegrityMode) (p : WorkbookPlan)
    (given : Value) : Steady (generate network mode p given) := by
  unfold generate
  exact (Introspection.steady_ofValue network p.source).bind (steady_ofDocument mode p given)

end Workbook

end SchemaSheets
