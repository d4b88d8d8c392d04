import SchemaSheets.Generate.Space
import SchemaSheets.Proofs.Http.Reports
import SchemaSheets.Proofs.Session.Steady

/-!
# Tasks

The workbooks of a space are generated by tasks that take turns.  A task runs until it has to wait
for a reply, and in its next turn it goes on with that reply.  All tasks write to one session.  A
turn does not change what is left to do for a task: the generation of its workbook, taken up
wherever it stands, ends as it would have ended before the turn.
-/

namespace SchemaSheets

open Http

/-- How far the generation of a workbook has come. -/
inductive Progress where
  | ready
  /-- a request to a URL was sent, and so many redirects may follow -/
  | awaiting (url : String) (left : Nat) (hop : Hop)
  | ended (outcome : Except Failure GeneratedWorkbook)
  /-- given up, since another task failed -/
  | cancelled

namespace WorkbookPlan

/-- The URL that the plan's schema is fetched from, if there is one. -/
def url? (p : WorkbookPlan) : Option String :=
  match p.source with
  | .str text =>
    if Url.isAbsolute text.toList then some (String.ofList (Text.trim text.toList)) else none
  | _ => none

/-- What the generation of the plan's workbook ends with by itself. -/
def alone [Capacity] (network : Network) (mode : IntegrityMode) (p : WorkbookPlan) :
    Except Failure GeneratedWorkbook :=
  (Workbook.generate network mode p .null).outcome

end WorkbookPlan

namespace Progress

/-- A turn of a task: what it goes on to, and the session that it leaves. -/
def turn [Capacity] (network : Network) (mode : IntegrityMode) (p : WorkbookPlan) (s : Session) :
    Progress → Progress × Session
  | ready =>
    match p.url? with
    | none =>
      let (outcome, s) := Run.from_ s (Workbook.generate network mode p .null)
      (ended outcome, s)
    | some url =>
      match Url.Canonical.ofText url.toList with
      | .error fault => (ended (.error (.badUrl fault.message)), s)
      | .ok target =>
        (awaiting url maxRedirects (.first target), s.requested (Hop.first target).request)
  | awaiting url left hop =>
    let reply := network hop.request
    let s := hop.heard reply s
    match hop.outcome url reply, left with
    | .error e, _ => (ended (.error e), s)
    | .ok (.inl r), _ =>
      let (outcome, s) := Run.from_ s (liftM (settle url r) >>= Workbook.ofDocument mode p .null)
      (ended outcome, s)
    | .ok (.inr _), 0 => (ended (.error (tooManyRedirects url)), s)
    | .ok (.inr next), left + 1 => (awaiting url left next, s.requested next.request)
  | ended outcome => (ended outcome, s)
  | cancelled => (cancelled, s)

/-- What an exchange from a hop on ends with, for the workbook of a plan. -/
def fromHop [Capacity] (network : Network) (mode : IntegrityMode) (p : WorkbookPlan) (url : String)
    (left : Nat) (hop : Hop) : Except Failure GeneratedWorkbook :=
  ((send network url left hop).outcome.bind (settle url)).bind fun document =>
    (Workbook.ofDocument mode p .null document).outcome

/-- A task ends, or is going to end, with what its plan ends with alone. -/
def KeepsTo [Capacity] (network : Network) (mode : IntegrityMode) (p : WorkbookPlan) : Progress → Prop
  | ready => True
  | awaiting url left hop => fromHop network mode p url left hop = p.alone network mode
  | ended outcome => outcome = p.alone network mode
  | cancelled => True

/-- The task cannot go on. -/
def isOver : Progress → Bool
  | ended _ | cancelled => true
  | _ => false

/-- A task that has ended cannot be given up. -/
def cancel (t : Progress) : Progress := if t.isOver then t else cancelled

/-- The turns that a task can still take. -/
def turnsLeft : Progress → Nat
  | ready => maxRedirects + 2
  | awaiting _ left _ => left + 1
  | ended _ | cancelled => 0

/-- The workbook of a task that has succeeded. -/
def workbook? : Progress → Option GeneratedWorkbook
  | ended (.ok g) => some g
  | _ => none

/-- The failure of a task that has failed. -/
def failure? : Progress → Option Failure
  | ended (.error e) => some e
  | _ => none

end Progress

variable [Capacity] {network : Network} {mode : IntegrityMode} {p : WorkbookPlan} {url : String}

theorem ofValue_of_url (hurl : p.url? = some url) :
    Introspection.ofValue network p.source = fetch network url := by
  unfold WorkbookPlan.url? at hurl
  unfold Introspection.ofValue
  split at hurl
  next text hsource =>
    split at hurl
    next habsolute =>
      cases hurl
      simp [hsource, habsolute]
    next => contradiction
  next => contradiction

theorem alone_eq_bind (hurl : p.url? = some url) :
    p.alone network mode = (fetch network url).outcome.bind fun document =>
      (Workbook.ofDocument mode p .null document).outcome := by
  rw [WorkbookPlan.alone, Workbook.generate, ofValue_of_url hurl]
  exact Run.outcome_bind (Workbook.steady_ofDocument mode p .null)

theorem alone_eq_fromHop {target : Url.Canonical} (hurl : p.url? = some url)
    (htarget : Url.Canonical.ofText url.toList = .ok target) :
    p.alone network mode = Progress.fromHop network mode p url maxRedirects (.first target) := by
  have hfetch : (Run.from_ {} (fetch network url)).1 = _ := from_fetch {} url
  rw [htarget] at hfetch
  rw [alone_eq_bind hurl, Run.outcome, hfetch]
  rfl

theorem alone_eq_badUrl {fault : Url.Fault} (hurl : p.url? = some url)
    (hfault : Url.Canonical.ofText url.toList = .error fault) :
    p.alone network mode = .error (.badUrl fault.message) := by
  have hfetch : (Run.from_ {} (fetch network url)).1 = _ := from_fetch {} url
  rw [hfault] at hfetch
  rw [alone_eq_bind hurl, Run.outcome, hfetch]
  rfl

namespace Progress

theorem fromHop_zero (hop : Hop) :
    fromHop network mode p url 0 hop =
      match hop.outcome url (network hop.request) with
      | .error e => .error e
      | .ok (.inl r) =>
        (settle url r).bind fun document => (Workbook.ofDocument mode p .null document).outcome
      | .ok (.inr _) => .error (tooManyRedirects url) := by
  rw [fromHop, Run.outcome, from_send_zero]
  cases hop.outcome url (network hop.request) with
  | error e => rfl
  | ok x => cases x <;> rfl

theorem fromHop_succ (left : Nat) (hop : Hop) :
    fromHop network mode p url (left + 1) hop =
      match hop.outcome url (network hop.request) with
      | .error e => .error e
      | .ok (.inl r) =>
        (settle url r).bind fun document => (Workbook.ofDocument mode p .null document).outcome
      | .ok (.inr next) => fromHop network mode p url left next := by
  rw [fromHop, Run.outcome, from_send_succ]
  cases hop.outcome url (network hop.request) with
  | error e => rfl
  | ok x =>
    cases x with
    | inl r => rfl
    | inr next =>
      simp only [fromHop]
      rw [(steady_send network url left next).from_eq]

theorem from_settled (s : Session) (url : String) (r : Response) :
    (Run.from_ s (liftM (settle url r) >>= Workbook.ofDocument mode p .null)).1 =
      (settle url r).bind fun document => (Workbook.ofDocument mode p .null document).outcome := by
  rw [Run.from_bind, Run.from_lift]
  cases settle url r with
  | error e => rfl
  | ok document => exact (Workbook.steady_ofDocument mode p .null document).from_eq s

/-- A turn does not change what its task is going to end with. -/
theorem KeepsTo.turn {t : Progress} (h : t.KeepsTo network mode p) (s : Session) :
    (t.turn network mode p s).1.KeepsTo network mode p := by
  cases t with
  | ready =>
    simp only [Progress.turn]
    cases hurl : p.url? with
    | none => exact (Workbook.steady_generate network mode p .null).from_eq s
    | some url =>
      cases htarget : Url.Canonical.ofText url.toList with
      | error fault =>
        simp only [htarget]
        exact (alone_eq_badUrl hurl htarget).symm
      | ok target =>
        simp only [htarget]
        exact (alone_eq_fromHop hurl htarget).symm
  | awaiting url left hop =>
    change fromHop network mode p url left hop = p.alone network mode at h
    simp only [Progress.turn]
    cases left with
    | zero =>
      rw [fromHop_zero] at h
      cases houtcome : hop.outcome url (network hop.request) with
      | error e =>
        rw [houtcome] at h
        exact h
      | ok x =>
        rw [houtcome] at h
        cases x with
        | inl r => exact (from_settled _ url r).trans h
        | inr next => exact h
    | succ left =>
      rw [fromHop_succ] at h
      cases houtcome : hop.outcome url (network hop.request) with
      | error e =>
        rw [houtcome] at h
        exact h
      | ok x =>
        rw [houtcome] at h
        cases x with
        | inl r => exact (from_settled _ url r).trans h
        | inr next => exact h
  | ended outcome => exact h
  | cancelled => trivial

theorem turnsLeft_turn (network : Network) (mode : IntegrityMode) (p : WorkbookPlan)
    (t : Progress) (s : Session) :
    (t.turn network mode p s).1.turnsLeft ≤ t.turnsLeft - 1 := by
  cases t with
  | ready =>
    simp only [Progress.turn]
    cases p.url? with
    | none => simp [turnsLeft]
    | some url => cases htarget : Url.Canonical.ofText url.toList <;> simp [htarget, turnsLeft]
  | awaiting url left hop =>
    simp only [Progress.turn]
    cases houtcome : hop.outcome url (network hop.request) with
    | error e => simp [turnsLeft]
    | ok x =>
      cases x with
      | inl r => simp [turnsLeft]
      | inr next => cases left <;> simp [turnsLeft]
  | ended outcome => simp [Progress.turn, turnsLeft]
  | cancelled => simp [Progress.turn, turnsLeft]

end Progress

end SchemaSheets
