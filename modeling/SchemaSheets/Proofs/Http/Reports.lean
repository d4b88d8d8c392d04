import SchemaSheets.Proofs.Http.Exchange
import SchemaSheets.Proofs.Steps
import SchemaSheets.Source.Origin

/-!
# Which failures of an exchange are reported

A schema that cannot be fetched is reported as a failed fetch or as a malformed document.  Four
things are not: a URL that no request can be sent to, a transport that fails in a way of its own, at
a request or at the content of a response, a redirect that leads to no URL, and a body whose
collections are nested too deeply.  Fetching ends with a document or with a report exactly if none
of them lies on the way.
-/

namespace SchemaSheets

open Steps

/-- The failure is reported as one to obtain a schema. -/
def Failure.OfSchema : Failure → Prop
  | fetch _ | malformed _ => True
  | _ => False

theorem Steps.failsOnly_iff {ε α : Type} {p : ε → Prop} {x : Except ε α} :
    FailsOnly p x ↔ (∃ a, x = .ok a) ∨ ∃ e, x = .error e ∧ p e := by
  cases x <;> simp [FailsOnly]

theorem Steps.failsOnly_error_iff {ε α : Type} {p : ε → Prop} {e : ε} :
    FailsOnly p (.error e : Except ε α) ↔ p e := by
  simp [FailsOnly]

namespace Http

open Url (Canonical)

variable {network : Network} {url : String}

/-! ### Redirects -/

/-- A location that can be read and yet leads to no URL: a scheme stands before a relative path, or
what the location means for the URL of the request is no URL. -/
def Misleads (base : Canonical) (location : String) : Prop :=
  ∃ target, Canonical.ofText location.toList = .ok target ∧
    ((target.scheme ≠ [] ∧ target.host = [] ∧ target.path ≠ [] ∧ target.path.head? ≠ some '/') ∨
      ∃ full, hosted base target = .ok full ∧ full.isAbsolute = false ∧
        ∀ joined, Url.join base.text full.text = some joined →
          ∃ fault, Canonical.ofText joined = .error fault)

theorem hosted_failsOnly_iff (base target : Canonical) :
    FailsOnly Failure.OfSchema (hosted base target) ↔
      ¬(target.scheme ≠ [] ∧ target.host = [] ∧ target.path ≠ [] ∧
        target.path.head? ≠ some '/') := by
  unfold hosted
  split
  next h =>
    have hhost : target.scheme = [] ∨ target.host ≠ [] := by simpa using h
    simp only [failsOnly_ok, true_iff]
    tauto
  next h =>
    split
    next hpath =>
      have hslash : target.path = [] ∨ target.path.head? = some '/' := by simpa using hpath
      simp only [failsOnly_ok, true_iff]
      tauto
    next hpath =>
      have hhost : ¬(target.scheme = [] ∨ target.host ≠ []) := by simpa using h
      have hslash : ¬(target.path = [] ∨ target.path.head? = some '/') := by simpa using hpath
      simp only [failsOnly_error_iff, Failure.OfSchema, false_iff, not_not]
      tauto

theorem resolved_failsOnly_iff (base full : Canonical) :
    FailsOnly Failure.OfSchema (resolved base full) ↔
      ¬(full.isAbsolute = false ∧ ∀ joined, Url.join base.text full.text = some joined →
        ∃ fault, Canonical.ofText joined = .error fault) := by
  unfold resolved
  split
  next habsolute =>
    simp [failsOnly_ok, habsolute]
  next habsolute =>
    cases hjoin : Url.join base.text full.text with
    | none => simp [failsOnly_error_iff, Failure.OfSchema, habsolute]
    | some joined =>
      cases htext : Canonical.ofText joined with
      | error fault =>
        simp [failsOnly_error_iff, Failure.OfSchema, habsolute, Except.mapError, htext]
      | ok target => simp [failsOnly_ok, Except.mapError, htext]

theorem redirectTarget_failsOnly_iff (url : String) (base : Canonical) (location : String) :
    FailsOnly Failure.OfSchema (redirectTarget url base location) ↔ ¬Misleads base location := by
  rw [Misleads, redirectTarget]
  cases htext : Canonical.ofText location.toList with
  | error fault =>
    simp only [reduceCtorEq, false_and, exists_false, not_false_eq_true, iff_true]
    exact failsOnly_error trivial
  | ok target =>
    have hhosted := hosted_failsOnly_iff base target
    simp only [Except.ok.injEq, exists_eq_left', not_or]
    rw [← hhosted]
    cases hhost : hosted base target with
    | error e =>
      simp [failsOnly_error_iff, Except.mapError, hhost, bind, Except.bind]
    | ok full =>
      have hresolved := resolved_failsOnly_iff base full
      simp only [Except.ok.injEq, exists_eq_left', failsOnly_ok, true_and]
      rw [← hresolved]
      cases hfull : resolved base full with
      | error e =>
        simp [failsOnly_error_iff, Except.mapError, hhost, hfull, bind, Except.bind]
      | ok next =>
        simp [failsOnly_ok, Except.mapError, hhost, hfull, bind, Except.bind, pure, Except.pure]

theorem hosted_failsOnly (base target : Canonical) :
    FailsOnly (fun e => ¬e.OfSchema) (hosted base target) := by
  unfold hosted
  split
  next => exact failsOnly_ok _
  next =>
    split
    next => exact failsOnly_ok _
    next => exact failsOnly_error fun h => h

theorem resolved_failsOnly (base full : Canonical) :
    FailsOnly (fun e => ¬e.OfSchema) (resolved base full) := by
  unfold resolved
  split
  next => exact failsOnly_ok _
  next =>
    split
    next => exact failsOnly_mapError (fun _ h => h) _
    next => exact failsOnly_error fun h => h

/-- The only report that a redirect gives rise to is about a location that cannot be read. -/
theorem redirectTarget_eq_error_iff (base : Canonical) {location : String} {e : Failure}
    (he : e.OfSchema) :
    redirectTarget url base location = .error e ↔
      ∃ fault, Canonical.ofText location.toList = .error fault ∧
        e = failedFetch url ("Invalid URL in location header: " ++ fault.message ++ ".") := by
  unfold redirectTarget
  cases Canonical.ofText location.toList with
  | error fault => simp [Except.mapError, bind, Except.bind, eq_comm]
  | ok target =>
    simp only [reduceCtorEq, false_and, exists_false, iff_false]
    intro hfail
    rcases bind_eq_error_iff.1 hfail with hread | ⟨target', -, hfail⟩
    · cases hread
    rcases bind_eq_error_iff.1 hfail with hhosted | ⟨full, -, hfail⟩
    · exact hosted_failsOnly _ _ e hhosted he
    rcases bind_eq_error_iff.1 hfail with hresolved | ⟨next, -, hfail⟩
    · exact resolved_failsOnly _ _ e hresolved he
    · cases hfail

/-- A location that does not mislead leads to a URL exactly if it can be read. -/
theorem redirectTarget_succeeds_iff (url : String) {base : Canonical} {location : String}
    (h : ¬Misleads base location) :
    (∃ t, redirectTarget url base location = .ok t) ↔
      ∃ t, Canonical.ofText location.toList = .ok t := by
  cases htarget : redirectTarget url base location with
  | error e =>
    have hreported := (redirectTarget_failsOnly_iff url base location).2 h e htarget
    obtain ⟨fault, hfault, -⟩ := (redirectTarget_eq_error_iff base hreported).1 htarget
    simp [hfault]
  | ok target =>
    obtain ⟨written, hwritten, -⟩ := bind_eq_ok_iff.1 htarget
    exact iff_of_true ⟨target, rfl⟩ ⟨written, mapError_eq_ok_iff.1 hwritten⟩

/-! ### Bodies -/

/-- The value is an introspection document. -/
def IsDocument (v : Value) : Prop :=
  ∃ entries schema, v = .map entries ∧ Entries.get entries "__schema" = .map schema

theorem checkDocument_eq_ok {origin : String} {v w : Value} (h : checkDocument origin v = .ok w) :
    IsDocument w := by
  unfold checkDocument at h
  split at h
  next entries =>
    split at h
    next hschema =>
      cases h
      cases hget : Entries.get entries "__schema" with
      | map schema => exact ⟨entries, schema, rfl, hget⟩
      | _ => simp [hget, Value.isMap] at hschema
    next => contradiction
  next => contradiction

theorem checkDocument_failsOnly {origin : String} (v : Value) :
    FailsOnly Failure.OfSchema (liftM (checkDocument origin v) : Except Failure Value) :=
  failsOnly_mapError (fun _ => trivial) _

section

variable [Capacity]

/-- The collections of a body are nested too deeply to be read. -/
def Body.IsTooDeep (b : Body) : Prop :=
  ∃ octets codes, b = .octets octets ∧ Text.decodeAny octets = some codes ∧
    Json.readCodes codes = .error .tooDeep

theorem value?_eq_error_iff {b : Body} {m : Misuse} :
    b.value? = .error m ↔ m = .tooDeep ∧ b.IsTooDeep := by
  unfold Body.value? Body.IsTooDeep
  cases b with
  | document v => simp
  | octets octets =>
    cases hdecode : Text.decodeAny octets with
    | none => simp [hdecode]
    | some codes =>
      cases hread : Json.readCodes codes with
      | ok v => simp [hdecode, hread]
      | error e => cases e <;> simp [hdecode, hread, eq_comm]

theorem documentOf_failsOnly_iff {b : Body} :
    FailsOnly Failure.OfSchema (documentOf url b) ↔ ¬b.IsTooDeep := by
  unfold documentOf
  cases hvalue : b.value? with
  | error m =>
    have hdeep : b.IsTooDeep := (value?_eq_error_iff.1 hvalue).2
    simp only [hdeep, not_true_eq_false, iff_false]
    exact fun h => h _ rfl
  | ok v? =>
    have hread : ¬b.IsTooDeep := by
      intro hdeep
      have herror := value?_eq_error_iff.2 ⟨rfl, hdeep⟩
      rw [hvalue] at herror
      contradiction
    simp only [hread, not_false_eq_true, iff_true]
    refine FailsOnly.bind (failsOnly_ok v?) fun value? => ?_
    split
    next => exact failsOnly_error trivial
    next =>
      split
      next => exact failsOnly_error trivial
      next => exact checkDocument_failsOnly _
    next => exact failsOnly_error trivial

theorem settle_failsOnly_iff {r : Response} :
    FailsOnly Failure.OfSchema (settle url r) ↔ (r.isSuccess = true → ¬r.body.IsTooDeep) := by
  unfold settle
  split
  next hsuccess => simp [hsuccess, documentOf_failsOnly_iff]
  next hstatus =>
    simp only [hstatus, Bool.false_eq_true, false_implies, iff_true]
    exact failsOnly_error trivial

theorem documentOf_eq_ok {b : Body} {v : Value} (h : documentOf url b = .ok v) : IsDocument v := by
  unfold documentOf at h
  obtain ⟨value?, -, hrest⟩ := bind_eq_ok_iff.1 h
  split at hrest
  next => contradiction
  next =>
    split at hrest
    next => contradiction
    next => exact checkDocument_eq_ok (lift_malformed_eq_ok_iff.1 hrest)
  next => contradiction

end

/-! ### Hops -/

namespace Hop

/-- The request of the hop is answered with a response. -/
def Answered (network : Network) (h : Hop) (r : Response) : Prop :=
  network h.request = .response r

/-- A redirect leads from a hop to the next one. -/
def Redirects (network : Network) (url : String) (h next : Hop) : Prop :=
  ∃ r location target, h.Answered network r ∧ h.target.scheme ≠ [] ∧
    r.location? = some location ∧ redirectTarget url h.target location = .ok target ∧
      r.fault? = none ∧ next = h.after r.status target

/-- So many redirects lead from one hop to another. -/
inductive Leads (network : Network) (url : String) : Nat → Hop → Hop → Prop
  | here (h : Hop) : Leads network url 0 h h
  | redirect {n : Nat} {h next last : Hop} : h.Redirects network url next →
      Leads network url n next last → Leads network url (n + 1) h last

/-- None of the four things that are not reported lies at the hop. -/
structure Sound [Capacity] (network : Network) (h : Hop) : Prop where
  transport : ∀ name message, network h.request = .failed name message → name ∈ fetchFailures
  absolute : ∀ r, h.Answered network r → h.target.scheme ≠ []
  located : ∀ r location, h.Answered network r → r.location? = some location →
    ¬Misleads h.target location
  /-- a location that cannot be read is reported before the content is looked at -/
  content : ∀ r name message, h.Answered network r →
    (∀ location, r.location? = some location → ∃ t, Canonical.ofText location.toList = .ok t) →
    r.fault? = some (name, message) → name ∈ fetchFailures
  readable : ∀ r, h.Answered network r → r.location? = none → r.fault? = none →
    r.isSuccess = true → ¬r.body.IsTooDeep

variable {h next : Hop}

theorem leads_zero_iff {last : Hop} : Leads network url 0 h last ↔ last = h := by
  constructor
  · intro hleads
    cases hleads
    rfl
  · rintro rfl
    exact .here _

theorem redirects_iff :
    h.Redirects network url next ↔ h.outcome url (network h.request) = .ok (.inr next) := by
  simp only [Redirects, Answered, outcome_eq_next_iff, next?_eq_some_iff]
  constructor
  · rintro ⟨r, location, target, hreply, hscheme, hlocation, htarget, hfault, hnext⟩
    exact ⟨r, hreply, hscheme, ⟨location, target, hlocation, htarget, hnext⟩, hfault⟩
  · rintro ⟨r, hreply, hscheme, ⟨location, target, hlocation, htarget, hnext⟩, hfault⟩
    exact ⟨r, location, target, hreply, hscheme, hlocation, htarget, hfault, hnext⟩

theorem transportFailure_ofSchema_iff {name message : String} :
    (transportFailure url name message).OfSchema ↔ name ∈ fetchFailures := by
  unfold transportFailure
  split
  next hname => simpa [Failure.OfSchema, failedFetch] using hname
  next hname => simpa [Failure.OfSchema] using hname

/-- A reply leads on, or ends the exchange, without a failure that is not reported exactly if the hop
is sound. -/
theorem sound_iff [Capacity] (url : String) :
    h.Sound network ↔ match h.outcome url (network h.request) with
      | .error e => e.OfSchema
      | .ok (.inl r) => FailsOnly Failure.OfSchema (settle url r)
      | .ok (.inr _) => True := by
  have hsound : h.Sound network ↔
      (∀ name message, network h.request = .failed name message → name ∈ fetchFailures) ∧
        ∀ r, network h.request = .response r → h.target.scheme ≠ [] ∧
          (∀ location, r.location? = some location → ¬Misleads h.target location) ∧
          (∀ name message, (∀ location, r.location? = some location →
              ∃ t, Canonical.ofText location.toList = .ok t) →
            r.fault? = some (name, message) → name ∈ fetchFailures) ∧
          (r.location? = none → r.fault? = none → r.isSuccess = true → ¬r.body.IsTooDeep) := by
    constructor
    · intro hs
      exact ⟨hs.transport, fun r hr => ⟨hs.absolute r hr, fun l => hs.located r l hr,
        fun name message => hs.content r name message hr, hs.readable r hr⟩⟩
    · intro hs
      exact ⟨hs.1, fun r hr => (hs.2 r hr).1, fun r l hr => (hs.2 r hr).2.1 l,
        fun r name message hr => (hs.2 r hr).2.2.1 name message, fun r hr => (hs.2 r hr).2.2.2⟩
  rw [hsound]
  unfold outcome next?
  cases network h.request with
  | failed name message => simp [transportFailure_ofSchema_iff]
  | response r =>
    by_cases hscheme : h.target.scheme = []
    · simp [hscheme, Failure.OfSchema]
    · cases hlocation : r.location? with
      | none =>
        cases hfault : r.fault? with
        | some fault =>
          obtain ⟨name, message⟩ := fault
          simp [hscheme, hlocation, hfault, transportFailure_ofSchema_iff]
        | none => simp [hscheme, hlocation, hfault, settle_failsOnly_iff]
      | some location =>
        have hreported := redirectTarget_failsOnly_iff url h.target location
        cases hnext : redirectTarget url h.target location with
        | error e =>
          -- a location that cannot be read is reported, whatever the content
          have hcut : ¬Misleads h.target location → ∀ name message t,
              Canonical.ofText location.toList = .ok t → r.fault? = some (name, message) →
                name ∈ fetchFailures := by
            intro hno _ _ t ht
            obtain ⟨target, htarget⟩ := (redirectTarget_succeeds_iff url hno).2 ⟨t, ht⟩
            cases hnext.symm.trans htarget
          rw [hnext, failsOnly_error_iff] at hreported
          simpa [hscheme, hlocation, hnext, hreported, Except.map] using hcut
        | ok target =>
          have hno : ¬Misleads h.target location := hreported.1 (hnext ▸ failsOnly_ok _)
          have hread := (redirectTarget_succeeds_iff url hno).1 ⟨target, hnext⟩
          cases hfault : r.fault? with
          | some fault =>
            obtain ⟨name, message⟩ := fault
            simp [hscheme, hlocation, hnext, hfault, hno, hread, Except.map,
              transportFailure_ofSchema_iff]
          | none => simp [hscheme, hlocation, hnext, hfault, hno, Except.map]

/-- A property holds along the redirects from a hop if it holds at the hop and from there on. -/
theorem forall_leads_succ_iff {p : Hop → Prop} {left : Nat} :
    (∀ n ≤ left + 1, ∀ last, Leads network url n h last → p last) ↔
      p h ∧ ∀ next, h.Redirects network url next →
        ∀ n ≤ left, ∀ last, Leads network url n next last → p last := by
  constructor
  · intro hall
    refine ⟨hall 0 (Nat.zero_le _) h (.here h), ?_⟩
    intro next hnext n hn last hlast
    exact hall (n + 1) (Nat.succ_le_succ hn) last (.redirect hnext hlast)
  · rintro ⟨hhere, hrest⟩ n hn last hlast
    cases hlast with
    | here => exact hhere
    | redirect hnext hlater => exact hrest _ hnext _ (Nat.le_of_succ_le_succ hn) _ hlater

end Hop

/-! ### Whole exchanges -/

/-- The induction is on the redirects that are still allowed; the session only changes. -/
theorem send_failsOnly_iff [Capacity] (s : Session) (left : Nat) (h : Hop) :
    FailsOnly Failure.OfSchema ((Run.from_ s (send network url left h)).1.bind (settle url)) ↔
      ∀ n ≤ left, ∀ last, Hop.Leads network url n h last → last.Sound network := by
  induction left generalizing s h with
  | zero =>
    simp only [Nat.le_zero, forall_eq, Hop.leads_zero_iff]
    rw [from_send_zero, Hop.sound_iff url]
    cases h.outcome url (network h.request) with
    | error e => exact failsOnly_error_iff
    | ok x =>
      cases x with
      | inl r => rfl
      | inr next =>
        simp only [iff_true]
        exact failsOnly_error trivial
  | succ left ih =>
    rw [Hop.forall_leads_succ_iff, from_send_succ, Hop.sound_iff url]
    simp only [Hop.redirects_iff]
    cases h.outcome url (network h.request) with
    | error e => simp [Except.bind, failsOnly_error_iff]
    | ok x =>
      cases x with
      | inl r => simp [Except.bind]
      | inr next =>
        simp only [Except.ok.injEq, Sum.inr.injEq, forall_eq', true_and]
        exact ih _ next

theorem from_fetch [Capacity] (s : Session) (url : String) :
    (Run.from_ s (fetch network url)).1 = match Canonical.ofText url.toList with
      | .error fault => .error (.badUrl fault.message)
      | .ok target =>
        (Run.from_ s (send network url maxRedirects (.first target))).1.bind (settle url) := by
  unfold fetch
  cases Canonical.ofText url.toList with
  | error fault => rfl
  | ok target =>
    simp only [Run.from_bind]
    cases Run.from_ s (send network url maxRedirects (.first target)) with
    | mk outcome s' =>
      cases outcome with
      | error e => rfl
      | ok r => exact congrArg Prod.fst (Run.from_lift s' (settle url r))

/-- What fetching ends with: a document, or one of the failures that are reported. -/
theorem fetch_failsOnly_iff [Capacity] (s : Session) (url : String) :
    FailsOnly Failure.OfSchema (Run.from_ s (fetch network url)).1 ↔
      ∃ target, Canonical.ofText url.toList = .ok target ∧
        ∀ n ≤ maxRedirects, ∀ last, Hop.Leads network url n (.first target) last →
          last.Sound network := by
  rw [from_fetch]
  cases Canonical.ofText url.toList with
  | error fault => simp [failsOnly_error_iff, Failure.OfSchema]
  | ok target =>
    simp only [Except.ok.injEq, exists_eq_left']
    exact send_failsOnly_iff s maxRedirects (.first target)

theorem fetch_eq_ok [Capacity] {s : Session} {url : String} {v : Value}
    (h : (Run.from_ s (fetch network url)).1 = .ok v) : IsDocument v := by
  rw [from_fetch] at h
  split at h
  next => contradiction
  next =>
    obtain ⟨r, -, hr⟩ := bind_eq_ok_iff.1 h
    unfold settle at hr
    split at hr
    next => exact documentOf_eq_ok hr
    next => contradiction

end Http

namespace Introspection

open Http

/-- A server that answers only after a redirect to a relative location. -/
def redirecting : Network := fun request =>
  if request.url = "http" ++ "://h.test/a" then
    .response { status := 307, headers := [("location", "b")] }
  else if request.url = "http" ++ "://h.test/b" then
    .response { body := .document (.record [("data", .record [("__schema", .record [])])]) }
  else .failed "ConnectError" ""

end Introspection

end SchemaSheets
