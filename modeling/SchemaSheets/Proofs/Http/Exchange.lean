import SchemaSheets.Http.Fetch
import SchemaSheets.Proofs.Session.Account
import SchemaSheets.Proofs.Steps

/-!
# Exchanges with a server

What a reply leads to does not depend on the session, and the session only gains the request and a
record of the reply.  So a whole exchange can be followed hop by hop without its session.
-/

namespace SchemaSheets

namespace Run

variable {α β : Type}

@[simp] theorem from_modify (s : Session) (f : Session → Session) :
    from_ s (modify f : Run Unit) = (.ok (), f s) := rfl

@[simp] theorem from_inform (s : Session) (channel : LogChannel) (message : String) :
    from_ s (inform channel message) = (.ok (), s.logged ⟨.info, channel, message⟩) := rfl

@[simp] theorem from_throw (s : Session) (e : Failure) :
    from_ s (throw e : Run α) = (.error e, s) := rfl

@[simp] theorem from_map (s : Session) (f : α → β) (x : Run α) :
    from_ s (f <$> x) = ((from_ s x).1.map f, (from_ s x).2) := by
  have hbind : from_ s (f <$> x) = from_ s (x >>= fun a => pure (f a)) := by
    rw [map_eq_pure_bind]
  rw [hbind, from_bind]
  cases from_ s x with
  | mk outcome s' => cases outcome <;> rfl

end Run

namespace Http

variable {network : Network} {url : String} {s : Session}

namespace Hop

variable {h next : Hop} {r : Response} {reply : Reply} {e : Failure}

/-! ### Where a response leads -/

theorem next?_eq_none_iff : h.next? url r = .ok none ↔ r.location? = none := by
  unfold next?
  split
  next => simp [*]
  next location hlocation => simp [hlocation, Steps.map_eq_ok_iff]

theorem next?_eq_some_iff : h.next? url r = .ok (some next) ↔ ∃ location target,
    r.location? = some location ∧ redirectTarget url h.target location = .ok target ∧
      next = h.after r.status target := by
  unfold next?
  split
  next hlocation => simp [hlocation]
  next location hlocation => simp [hlocation, Steps.map_eq_ok_iff, eq_comm (a := next)]

theorem next?_eq_error_iff : h.next? url r = .error e ↔ ∃ location,
    r.location? = some location ∧ redirectTarget url h.target location = .error e := by
  unfold next?
  split
  next hlocation => simp [hlocation]
  next location hlocation => simp [hlocation, Steps.map_eq_error_iff]

/-! ### What a reply leads to -/

/-- What a reply leads to, without the session. -/
def outcome (url : String) (h : Hop) (reply : Reply) : Except Failure (Response ⊕ Hop) :=
  match reply with
  | .failed name message => .error (transportFailure url name message)
  | .response r =>
    if h.target.scheme.isEmpty then .error (.transport "ValueError" "unknown url type")
    else
      match h.next? url r with
      | .error e => .error e
      | .ok next? =>
        match r.fault? with
        | some (name, message) => .error (transportFailure url name message)
        | none => .ok (next?.elim (.inl r) .inr)

theorem outcome_eq_end_iff : h.outcome url reply = .ok (.inl r) ↔
    reply = .response r ∧ h.target.scheme ≠ [] ∧ h.next? url r = .ok none ∧ r.fault? = none := by
  cases reply with
  | failed name message => simp [outcome]
  | response r' =>
    simp only [outcome, Reply.response.injEq]
    by_cases hsame : r' = r
    · subst hsame
      by_cases hscheme : h.target.scheme = []
      · simp [hscheme]
      · cases h.next? url r' with
        | error e => simp [hscheme]
        | ok next? => cases r'.fault? <;> cases next? <;> simp [hscheme]
    · -- a response that ends the exchange is the one that was received
      by_cases hscheme : h.target.scheme = []
      · simp [hscheme, hsame]
      · cases h.next? url r' with
        | error e => simp [hscheme, hsame]
        | ok next? => cases r'.fault? <;> cases next? <;> simp [hscheme, hsame]

theorem outcome_eq_next_iff : h.outcome url reply = .ok (.inr next) ↔ ∃ r,
    reply = .response r ∧ h.target.scheme ≠ [] ∧ h.next? url r = .ok (some next) ∧
      r.fault? = none := by
  cases reply with
  | failed name message => simp [outcome]
  | response r =>
    simp only [outcome, Reply.response.injEq, exists_eq_left']
    by_cases hscheme : h.target.scheme = []
    · simp [hscheme]
    · cases h.next? url r with
      | error e => simp [hscheme]
      | ok next? => cases r.fault? <;> cases next? <;> simp [hscheme]

/-- A hop fails as its request does, for want of a scheme, for want of a place that the response
leads to, or for want of the content. -/
theorem outcome_eq_error_iff : h.outcome url reply = .error e ↔
    (∃ name message, reply = .failed name message ∧ e = transportFailure url name message) ∨
      ∃ r, reply = .response r ∧
        (h.target.scheme = [] ∧ e = .transport "ValueError" "unknown url type" ∨
          h.target.scheme ≠ [] ∧ (h.next? url r = .error e ∨
            ∃ next? name message, h.next? url r = .ok next? ∧ r.fault? = some (name, message) ∧
              e = transportFailure url name message)) := by
  cases reply with
  | failed name message => simp [outcome, eq_comm]
  | response r =>
    simp only [outcome, reduceCtorEq, false_and, exists_false, false_or, Reply.response.injEq,
      exists_eq_left']
    by_cases hscheme : h.target.scheme = []
    · simp [hscheme, eq_comm]
    · cases h.next? url r with
      | error e' => simp [hscheme]
      | ok next? =>
        cases r.fault? with
        | none => simp [hscheme]
        | some fault =>
          obtain ⟨name, message⟩ := fault
          simp [hscheme, eq_comm (a := e)]

/-- The session after a reply: a response is written to the log. -/
def heard (h : Hop) (reply : Reply) (s : Session) : Session :=
  match reply with
  | .failed _ _ => s
  | .response r =>
    if h.target.scheme.isEmpty then s
    else s.logged ⟨.info, .requests, exchangeText h.request r⟩

theorem from_receive (s : Session) (h : Hop) (reply : Reply) :
    Run.from_ s (h.receive url reply) = (h.outcome url reply, h.heard reply s) := by
  cases reply with
  | failed name message => rfl
  | response r =>
    simp only [receive, outcome, heard]
    by_cases hscheme : h.target.scheme.isEmpty
    · simp [hscheme]
    · cases hnext : h.next? url r with
      | error e => simp [Run.from_bind, hscheme, Run.from_lift]
      | ok next? =>
        cases hfault : r.fault? with
        | some fault => simp [Run.from_bind, hscheme, Run.from_lift]
        | none => cases next? <;> simp [Run.from_bind, hscheme, Run.from_lift]

theorem from_exchange (s : Session) (h : Hop) :
    Run.from_ s (h.exchange network url) =
      (h.outcome url (network h.request), h.heard (network h.request) (s.requested h.request)) := by
  rw [exchange, Run.from_bind, Run.from_modify]
  exact from_receive _ h _

end Hop

theorem from_send_zero (s : Session) (h : Hop) :
    (Run.from_ s (send network url 0 h)).1 =
      match h.outcome url (network h.request) with
      | .error e => .error e
      | .ok (.inl r) => .ok r
      | .ok (.inr _) => .error (tooManyRedirects url) := by
  rw [send, Run.from_bind, Hop.from_exchange]
  cases h.outcome url (network h.request) with
  | error e => rfl
  | ok x => cases x <;> rfl

theorem from_send_succ (s : Session) (left : Nat) (h : Hop) :
    Run.from_ s (send network url (left + 1) h) =
      match h.outcome url (network h.request),
        h.heard (network h.request) (s.requested h.request) with
      | .error e, s' => (.error e, s')
      | .ok (.inl r), s' => (.ok r, s')
      | .ok (.inr next), s' => Run.from_ s' (send network url left next) := by
  rw [send, Run.from_bind, Hop.from_exchange]
  cases h.outcome url (network h.request) with
  | error e => rfl
  | ok x => cases x <;> rfl

end Http

end SchemaSheets
