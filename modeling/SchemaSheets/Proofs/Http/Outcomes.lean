import SchemaSheets.Proofs.Http.Reports
import SchemaSheets.Proofs.Json.Texts
import SchemaSheets.Proofs.Text.Utf8

/-!
# How an exchange ends

The redirects from a URL lead to a response, or the transport fails on the way.  A response that
does not report success is a failed fetch with its status; the body of one that does holds a
document or has one of four faults.  So each way in which fetching can end is told apart by how the
exchange ends, and by nothing else.
-/

namespace SchemaSheets

open Steps

namespace Http

open Url (Canonical)

variable {network : Network} {url : String}

/-! ### What is read off a response -/

/-- The status is one of those that report success. -/
def Response.Succeeds (r : Response) : Prop := 200 ≤ r.status ∧ r.status < 300

instance (r : Response) : Decidable r.Succeeds :=
  inferInstanceAs (Decidable (200 ≤ r.status ∧ r.status < 300))

theorem isSuccess_iff {r : Response} : r.isSuccess = true ↔ r.Succeeds := by
  simp only [Response.isSuccess, Response.Succeeds, Bool.and_eq_true, decide_eq_true_eq]
  omega

theorem IsDocument.ne_null {v : Value} (h : IsDocument v) : v ≠ .null := by
  obtain ⟨entries, schema, rfl, -⟩ := h
  exact nofun

theorem get?_eq_some_iff_get {entries : Entries} {name : String} {v : Value} (h : v ≠ .null) :
    Entries.get? entries name = some v ↔ Entries.get entries name = v := by
  unfold Entries.get
  cases Entries.get? entries name with
  | none => simp [h.symm]
  | some w => simp

theorem checkDocument_of_isDocument {origin : String} {v : Value} (h : IsDocument v) :
    checkDocument origin v = .ok v := by
  obtain ⟨entries, schema, rfl, hschema⟩ := h
  simp [checkDocument, hschema, Value.isMap]

theorem checkDocument_of_not_isDocument {origin : String} {v : Value} (h : ¬IsDocument v) :
    checkDocument origin v = .error (.withoutSchema origin) := by
  unfold checkDocument
  split
  next entries =>
    split
    next hschema =>
      cases hget : Entries.get entries "__schema" with
      | map schema => exact absurd ⟨entries, schema, rfl, hget⟩ h
      | _ => simp [hget, Value.isMap] at hschema
    next => rfl
  next => rfl

/-! ### What becomes of a body -/

namespace Body

/-- There are no data and at least one error. -/
def OnlyErrors (entries : Entries) (errors : List Value) : Prop :=
  Entries.get entries "data" = .null ∧ Entries.get entries "errors" = .list errors ∧ errors ≠ []

/-- The body is a mapping whose data are the given document. -/
def Holds [Capacity] (b : Body) (v : Value) : Prop :=
  ∃ entries, b.value? = .ok (some (.map entries)) ∧ Entries.get? entries "data" = some v ∧
    IsDocument v

/-- Why a body that can be read holds no document. -/
inductive Faulty [Capacity] (url : String) (b : Body) : Malformed → Prop
  | notJson : b.value? = .ok none → Faulty url b (.notJson url)
  | notAnObject {v : Value} : b.value? = .ok (some v) → v.isMap = false →
      Faulty url b (.notAnObject url)
  | refused {entries : Entries} {errors : List Value} : b.value? = .ok (some (.map entries)) →
      OnlyErrors entries errors → Faulty url b (.refused url (errors.map errorText))
  | withoutSchema {entries : Entries} : b.value? = .ok (some (.map entries)) →
      (∀ errors, ¬OnlyErrors entries errors) → ¬IsDocument (Entries.get entries "data") →
      Faulty url b (.withoutSchema url)

end Body

section

variable [Capacity]

theorem documentOf_of_holds {b : Body} {v : Value} (h : b.Holds v) : documentOf url b = .ok v := by
  obtain ⟨entries, hvalue, hdata, hdocument⟩ := h
  have hget : Entries.get entries "data" = v := (get?_eq_some_iff_get hdocument.ne_null).1 hdata
  unfold documentOf
  simp only [hvalue, lift_misuse_ok_bind, hget]
  split
  next => exact absurd rfl hdocument.ne_null
  next => rw [checkDocument_of_isDocument hdocument]; rfl

theorem documentOf_of_faulty {b : Body} {m : Malformed} (h : b.Faulty url m) :
    documentOf url b = .error (.malformed m) := by
  unfold documentOf
  cases h with
  | notJson hvalue =>
    rw [hvalue]
    rfl
  | @notAnObject v hvalue hmap =>
    rw [hvalue, lift_misuse_ok_bind]
    cases v with
    | map entries => cases hmap
    | _ => rfl
  | @refused entries errors hvalue honly =>
    obtain ⟨hdata, herrors, hne⟩ := honly
    obtain ⟨e, es, rfl⟩ := List.exists_cons_of_ne_nil hne
    simp only [hvalue, lift_misuse_ok_bind, hdata, herrors]
    rfl
  | @withoutSchema entries hvalue hnone hdocument =>
    simp only [hvalue, lift_misuse_ok_bind]
    split
    next e es hdata herrors =>
      exact absurd ⟨hdata, herrors, List.cons_ne_nil e es⟩ (hnone (e :: es))
    next =>
      rw [checkDocument_of_not_isDocument hdocument]
      rfl

theorem documentOf_of_isTooDeep {b : Body} (h : b.IsTooDeep) :
    documentOf url b = .error (.misuse .tooDeep) := by
  unfold documentOf
  rw [value?_eq_error_iff.2 ⟨rfl, h⟩]
  rfl

/-- A body holds a document, is at fault, or cannot be read. -/
theorem holds_or_faulty_or_isTooDeep (url : String) (b : Body) :
    (∃ v, b.Holds v) ∨ (∃ m, b.Faulty url m) ∨ b.IsTooDeep := by
  cases hvalue : b.value? with
  | error m => exact .inr (.inr (value?_eq_error_iff.1 hvalue).2)
  | ok v? =>
    cases v? with
    | none => exact .inr (.inl ⟨_, .notJson hvalue⟩)
    | some v =>
      cases v with
      | map entries =>
        by_cases honly : ∃ errors, Body.OnlyErrors entries errors
        · obtain ⟨errors, herrors⟩ := honly
          exact .inr (.inl ⟨_, .refused hvalue herrors⟩)
        · by_cases hdocument : IsDocument (Entries.get entries "data")
          · have hdata := (get?_eq_some_iff_get hdocument.ne_null).2 rfl
            exact .inl ⟨_, entries, hvalue, hdata, hdocument⟩
          · exact .inr (.inl ⟨_, .withoutSchema hvalue (not_exists.1 honly) hdocument⟩)
      | _ => exact .inr (.inl ⟨_, .notAnObject hvalue rfl⟩)

/-- What becomes of a body is told by which of the three it is. -/
theorem documentOf_cases (url : String) (b : Body) :
    (∃ v, b.Holds v ∧ documentOf url b = .ok v) ∨
      (∃ m, b.Faulty url m ∧ documentOf url b = .error (.malformed m)) ∨
        b.IsTooDeep ∧ documentOf url b = .error (.misuse .tooDeep) := by
  rcases holds_or_faulty_or_isTooDeep url b with ⟨v, hv⟩ | ⟨m, hm⟩ | hdeep
  · exact .inl ⟨v, hv, documentOf_of_holds hv⟩
  · exact .inr (.inl ⟨m, hm, documentOf_of_faulty hm⟩)
  · exact .inr (.inr ⟨hdeep, documentOf_of_isTooDeep hdeep⟩)

theorem documentOf_eq_ok_iff {b : Body} {v : Value} : documentOf url b = .ok v ↔ b.Holds v := by
  refine ⟨fun h => ?_, documentOf_of_holds⟩
  rcases documentOf_cases url b with ⟨w, hw, heq⟩ | ⟨m, -, heq⟩ | ⟨-, heq⟩
  · cases h.symm.trans heq
    exact hw
  · cases h.symm.trans heq
  · cases h.symm.trans heq

theorem documentOf_eq_malformed_iff {b : Body} {m : Malformed} :
    documentOf url b = .error (.malformed m) ↔ b.Faulty url m := by
  refine ⟨fun h => ?_, documentOf_of_faulty⟩
  rcases documentOf_cases url b with ⟨v, -, heq⟩ | ⟨n, hn, heq⟩ | ⟨-, heq⟩
  · cases h.symm.trans heq
  · cases h.symm.trans heq
    exact hn
  · cases h.symm.trans heq

theorem documentOf_ne_fetch {b : Body} {e : FetchFailure} :
    documentOf url b ≠ .error (.fetch e) := by
  intro h
  rcases documentOf_cases url b with ⟨_, -, heq⟩ | ⟨_, -, heq⟩ | ⟨-, heq⟩ <;> cases h.symm.trans heq

/-- A body is at fault exactly if it can be read and holds no document. -/
theorem exists_faulty_iff {b : Body} :
    (∃ m, b.Faulty url m) ↔ ¬b.IsTooDeep ∧ ¬∃ v, b.Holds v := by
  constructor
  · rintro ⟨m, hm⟩
    refine ⟨fun hdeep => ?_, fun ⟨v, hv⟩ => ?_⟩
    · cases (documentOf_of_isTooDeep hdeep).symm.trans (documentOf_of_faulty hm)
    · cases (documentOf_of_holds hv).symm.trans (documentOf_of_faulty hm)
  · rintro ⟨hread, hnone⟩
    rcases holds_or_faulty_or_isTooDeep url b with hholds | hfaulty | hdeep
    · exact absurd hholds hnone
    · exact hfaulty
    · exact absurd hdeep hread

/-! ### What becomes of a response -/

variable {r : Response}

theorem settle_of_succeeds (h : r.Succeeds) : settle url r = documentOf url r.body :=
  if_pos (isSuccess_iff.2 h)

theorem settle_of_not_succeeds (h : ¬r.Succeeds) :
    settle url r = .error (.fetch ⟨url, r.reason, some r.status⟩) :=
  if_neg (mt isSuccess_iff.1 h)

theorem settle_eq_ok_iff {v : Value} : settle url r = .ok v ↔ r.Succeeds ∧ r.body.Holds v := by
  by_cases h : r.Succeeds
  · simp [settle_of_succeeds h, h, documentOf_eq_ok_iff]
  · simp [settle_of_not_succeeds h, h]

theorem settle_eq_malformed_iff {m : Malformed} :
    settle url r = .error (.malformed m) ↔ r.Succeeds ∧ r.body.Faulty url m := by
  by_cases h : r.Succeeds
  · simp [settle_of_succeeds h, h, documentOf_eq_malformed_iff]
  · simp [settle_of_not_succeeds h, h]

theorem settle_eq_fetch_iff {e : FetchFailure} :
    settle url r = .error (.fetch e) ↔ ¬r.Succeeds ∧ e = ⟨url, r.reason, some r.status⟩ := by
  by_cases h : r.Succeeds
  · simp [settle_of_succeeds h, h, documentOf_ne_fetch]
  · simp [settle_of_not_succeeds h, h, eq_comm]

end

/-! ### Where an exchange ends -/

/-- What a failure of the transport is reported with. -/
def statusText (name message : String) : String := if message == "" then name else message

theorem transportFailure_eq_iff {name message : String} {e : Failure} (he : e.OfSchema) :
    transportFailure url name message = e ↔
      name ∈ fetchFailures ∧ e = failedFetch url (statusText name message) := by
  unfold transportFailure
  split
  next hname =>
    have hmem : name ∈ fetchFailures := List.contains_iff_mem.1 hname
    exact ⟨fun h => ⟨hmem, h.symm⟩, fun h => h.2.symm⟩
  next hname =>
    constructor
    · rintro rfl
      exact he.elim
    · exact fun h => absurd (List.contains_iff_mem.2 h.1) hname

namespace Hop

/-- The response to the hop's request ends the exchange. -/
def EndsWith (network : Network) (h : Hop) (r : Response) : Prop :=
  h.Answered network r ∧ h.target.scheme ≠ [] ∧ r.location? = none ∧ r.fault? = none

/-- The transport fails at the hop: it gives no response, one that redirects to a place that is no
URL, or one whose content it cannot get at. -/
inductive FailsWith (network : Network) (url : String) (h : Hop) : String → Prop
  | request {name message : String} : network h.request = .failed name message →
      name ∈ fetchFailures → FailsWith network url h (statusText name message)
  | location {r : Response} {location : String} {fault : Url.Fault} : h.Answered network r →
      h.target.scheme ≠ [] → r.location? = some location →
      Canonical.ofText location.toList = .error fault →
      FailsWith network url h ("Invalid URL in location header: " ++ fault.message ++ ".")
  | content {r : Response} {name message : String} : h.Answered network r →
      h.target.scheme ≠ [] →
      (∀ location, r.location? = some location →
        ∃ target, redirectTarget url h.target location = .ok target) →
      r.fault? = some (name, message) → name ∈ fetchFailures →
      FailsWith network url h (statusText name message)

/-- The exchange ends at the hop, with a response or a failure. -/
def Concludes (network : Network) (url : String) (h : Hop) (x : Except Failure Response) : Prop :=
  h.outcome url (network h.request) = x.map .inl

variable {h : Hop}

theorem concludes_ok_iff {r : Response} :
    h.Concludes network url (.ok r) ↔ h.EndsWith network r := by
  simp only [Concludes, Except.map, outcome_eq_end_iff, next?_eq_none_iff, EndsWith, Answered]

/-- It is known where the response leads if its location, if any, is that of a URL. -/
theorem next?_succeeds_iff {r : Response} :
    (∃ next?, h.next? url r = .ok next?) ↔ ∀ location, r.location? = some location →
      ∃ target, redirectTarget url h.target location = .ok target := by
  unfold next?
  split
  next hlocation => simp [hlocation]
  next location hlocation => simp [hlocation, map_eq_ok_iff]

theorem concludes_error_iff {e : Failure} (he : e.OfSchema) :
    h.Concludes network url (.error e) ↔
      ∃ text, e = failedFetch url text ∧ h.FailsWith network url text := by
  simp only [Concludes, Except.map, outcome_eq_error_iff, next?_eq_error_iff]
  constructor
  · rintro (⟨name, message, hreply, hfails⟩ | ⟨r, hreply, ⟨-, rfl⟩ | ⟨hscheme, hfails⟩⟩)
    · obtain ⟨hname, rfl⟩ := (transportFailure_eq_iff he).1 hfails.symm
      exact ⟨_, rfl, .request hreply hname⟩
    · exact he.elim
    · rcases hfails with ⟨location, hlocation, htarget⟩ | ⟨next?, name, message, hnext, hfault, hfails⟩
      · obtain ⟨fault, htext, rfl⟩ := (redirectTarget_eq_error_iff _ he).1 htarget
        exact ⟨_, rfl, .location hreply hscheme hlocation htext⟩
      · obtain ⟨hname, rfl⟩ := (transportFailure_eq_iff he).1 hfails.symm
        exact ⟨_, rfl, .content hreply hscheme (next?_succeeds_iff.1 ⟨next?, hnext⟩) hfault hname⟩
  · rintro ⟨text, rfl, hfails⟩
    cases hfails with
    | @request name message hreply hname =>
      have hfailure : transportFailure url name message =
          failedFetch url (statusText name message) := (transportFailure_eq_iff he).2 ⟨hname, rfl⟩
      exact .inl ⟨name, message, hreply, hfailure.symm⟩
    | @location r location fault hanswered hscheme hlocation htext =>
      have htarget := (redirectTarget_eq_error_iff h.target he).2 ⟨fault, htext, rfl⟩
      exact .inr ⟨r, hanswered, .inr ⟨hscheme, .inl ⟨location, hlocation, htarget⟩⟩⟩
    | @content r name message hanswered hscheme hleads hfault hname =>
      obtain ⟨next?, hnext⟩ := next?_succeeds_iff.2 hleads
      have hfailure : transportFailure url name message =
          failedFetch url (statusText name message) := (transportFailure_eq_iff he).2 ⟨hname, rfl⟩
      exact .inr ⟨r, hanswered,
        .inr ⟨hscheme, .inr ⟨next?, name, message, hnext, hfault, hfailure.symm⟩⟩⟩

theorem leads_succ_iff {n : Nat} {last : Hop} :
    Leads network url (n + 1) h last ↔
      ∃ next, h.Redirects network url next ∧ Leads network url n next last := by
  constructor
  · intro hleads
    cases hleads with
    | redirect hnext hlater => exact ⟨_, hnext, hlater⟩
  · rintro ⟨next, hnext, hlater⟩
    exact .redirect hnext hlater

/-- Some hop within reach has a property exactly if the first one has it or some hop after it. -/
theorem exists_leads_succ_iff {p : Hop → Prop} {left : Nat} :
    (∃ n ≤ left + 1, ∃ last, Leads network url n h last ∧ p last) ↔
      p h ∨ ∃ next, h.Redirects network url next ∧
        ∃ n ≤ left, ∃ last, Leads network url n next last ∧ p last := by
  have hall : (∀ n ≤ left + 1, ∀ last, Leads network url n h last → ¬p last) ↔
      ¬p h ∧ ∀ next, h.Redirects network url next →
        ∀ n ≤ left, ∀ last, Leads network url n next last → ¬p last := forall_leads_succ_iff
  have hnone := not_congr hall
  push Not at hnone
  rw [hnone, or_iff_not_imp_left]

end Hop

/-! ### Where the redirects lead -/

/-- The redirects from a URL lead to a response that ends the exchange. -/
def Answers (network : Network) (url : String) (target : Canonical) (r : Response) : Prop :=
  ∃ n ≤ maxRedirects, ∃ last, Hop.Leads network url n (.first target) last ∧
    last.EndsWith network r

/-- The transport fails at a hop that the redirects from a URL lead to, or they are too many. -/
def TransportFails (network : Network) (url : String) (target : Canonical) (text : String) : Prop :=
  (∃ n ≤ maxRedirects, ∃ last, Hop.Leads network url n (.first target) last ∧
      last.FailsWith network url text) ∨
    (∃ last, Hop.Leads network url (maxRedirects + 1) (.first target) last) ∧
      text = "Exceeded maximum allowed redirects."

/-- An exchange ends where a hop within reach does, or with a redirect too many.  The induction is
on the redirects that are still allowed; the session only changes. -/
theorem send_eq_iff (s : Session) (left : Nat) (h : Hop) (x : Except Failure Response) :
    (Run.from_ s (send network url left h)).1 = x ↔
      (∃ n ≤ left, ∃ last, Hop.Leads network url n h last ∧ last.Concludes network url x) ∨
        (∃ last, Hop.Leads network url (left + 1) h last) ∧ x = .error (tooManyRedirects url) := by
  induction left generalizing s h with
  | zero =>
    simp only [Nat.le_zero, exists_eq_left, Hop.leads_succ_iff, Hop.leads_zero_iff,
      Hop.redirects_iff, Hop.Concludes]
    rw [from_send_zero]
    cases h.outcome url (network h.request) with
    | error e => cases x <;> simp [Except.map]
    | ok y => cases y <;> cases x <;> simp [Except.map, eq_comm]
  | succ left ih =>
    rw [Hop.exists_leads_succ_iff, from_send_succ]
    simp only [Hop.leads_succ_iff (n := left + 1), Hop.redirects_iff, Hop.Concludes]
    cases h.outcome url (network h.request) with
    | error e => cases x <;> simp [Except.map]
    | ok y =>
      cases y with
      | inl r => cases x <;> simp [Except.map]
      | inr next =>
        have hhere : ¬(.ok (.inr next) : Except Failure (Response ⊕ Hop)) = x.map .inl := by
          cases x <;> simp [Except.map]
        simp only [hhere, false_or, Except.ok.injEq, Sum.inr.injEq, exists_eq_left']
        exact ih _ next

section

variable {target : Canonical} (s : Session)

theorem send_first_eq_ok_iff {r : Response} :
    (Run.from_ s (send network url maxRedirects (.first target))).1 = .ok r ↔
      Answers network url target r := by
  rw [send_eq_iff]
  simp only [Hop.concludes_ok_iff, reduceCtorEq, and_false, or_false]
  rfl

theorem send_first_eq_error_iff {e : Failure} (he : e.OfSchema) :
    (Run.from_ s (send network url maxRedirects (.first target))).1 = .error e ↔
      ∃ text, e = failedFetch url text ∧ TransportFails network url target text := by
  rw [send_eq_iff]
  simp only [Hop.concludes_error_iff he, TransportFails, tooManyRedirects, Except.error.injEq]
  constructor
  · rintro (⟨n, hn, last, hlast, text, rfl, hfails⟩ | ⟨hmany, rfl⟩)
    · exact ⟨text, rfl, .inl ⟨n, hn, last, hlast, hfails⟩⟩
    · exact ⟨_, rfl, .inr ⟨hmany, rfl⟩⟩
  · rintro ⟨text, rfl, ⟨n, hn, last, hlast, hfails⟩ | ⟨hmany, rfl⟩⟩
    · exact .inl ⟨n, hn, last, hlast, text, rfl, hfails⟩
    · exact .inr ⟨hmany, rfl⟩

variable [Capacity] (h : Canonical.ofText url.toList = .ok target)

include h

theorem from_fetch_of_ofText :
    (Run.from_ s (fetch network url)).1 =
      (Run.from_ s (send network url maxRedirects (.first target))).1 >>= settle url := by
  rw [from_fetch, h]
  rfl

theorem fetch_eq_ok_iff {v : Value} :
    (Run.from_ s (fetch network url)).1 = .ok v ↔
      ∃ r, Answers network url target r ∧ r.Succeeds ∧ r.body.Holds v := by
  rw [from_fetch_of_ofText s h]
  simp only [bind_eq_ok_iff, send_first_eq_ok_iff, settle_eq_ok_iff]

theorem fetch_eq_error_iff {e : Failure} (he : e.OfSchema) :
    (Run.from_ s (fetch network url)).1 = .error e ↔
      (∃ text, e = failedFetch url text ∧ TransportFails network url target text) ∨
        ∃ r, Answers network url target r ∧ settle url r = .error e := by
  rw [from_fetch_of_ofText s h]
  simp only [bind_eq_error_iff, send_first_eq_ok_iff, send_first_eq_error_iff s he]

theorem fetch_eq_malformed_iff {m : Malformed} :
    (Run.from_ s (fetch network url)).1 = .error (.malformed m) ↔
      ∃ r, Answers network url target r ∧ r.Succeeds ∧ r.body.Faulty url m := by
  rw [fetch_eq_error_iff s h (e := .malformed m) trivial]
  simp only [failedFetch, reduceCtorEq, false_and, exists_false, false_or, settle_eq_malformed_iff]

/-- A failed fetch without a status is one of the transport. -/
theorem fetch_eq_transportFailure_iff {origin text : String} :
    (Run.from_ s (fetch network url)).1 = .error (.fetch ⟨origin, text, none⟩) ↔
      origin = url ∧ TransportFails network url target text := by
  rw [fetch_eq_error_iff s h (e := .fetch ⟨origin, text, none⟩) trivial]
  simp only [failedFetch, settle_eq_fetch_iff, Failure.fetch.injEq, FetchFailure.mk.injEq,
    reduceCtorEq, and_false, exists_false, or_false, and_true]
  constructor
  · rintro ⟨_, ⟨rfl, rfl⟩, hfails⟩
    exact ⟨rfl, hfails⟩
  · rintro ⟨rfl, hfails⟩
    exact ⟨text, ⟨rfl, rfl⟩, hfails⟩

/-- A failed fetch with a status is one that a response reports. -/
theorem fetch_eq_statusFailure_iff {origin reason : String} {code : Int} :
    (Run.from_ s (fetch network url)).1 = .error (.fetch ⟨origin, reason, some code⟩) ↔
      origin = url ∧ ∃ r, Answers network url target r ∧ ¬r.Succeeds ∧
        r.reason = reason ∧ r.status = code := by
  rw [fetch_eq_error_iff s h (e := .fetch ⟨origin, reason, some code⟩) trivial]
  simp only [failedFetch, settle_eq_fetch_iff, Failure.fetch.injEq, FetchFailure.mk.injEq,
    reduceCtorEq, and_false, false_and, exists_false, false_or, Option.some.injEq]
  constructor
  · rintro ⟨r, hr, hstatus, rfl, rfl, rfl⟩
    exact ⟨rfl, r, hr, hstatus, rfl, rfl⟩
  · rintro ⟨rfl, r, hr, hstatus, rfl, rfl⟩
    exact ⟨r, hr, hstatus, rfl, rfl, rfl⟩

end

/-- A server that answers with errors only. -/
def refusing : Network := fun _ =>
  .response { body := .document (.record [("data", .null),
    ("errors", .list [.record [("message", .str "no")], .str "not now"])]) }

end Http

/-! ### Bodies that cannot be read -/

/-- More opening brackets than there is room for are too deep, whatever follows them. -/
theorem Json.value_eq_tooDeep {room n : Nat} (h : room < n) (rest : List Char) :
    Json.value noHalves room (List.replicate n '[' ++ rest) = .error .tooDeep := by
  induction room generalizing n with
  | zero =>
    obtain ⟨m, rfl⟩ : ∃ m, n = m + 1 := ⟨n - 1, by omega⟩
    rfl
  | succ room ih =>
    obtain ⟨m, rfl⟩ : ∃ m, n = m + 2 := ⟨n - 2, by omega⟩
    have hinner := ih (n := m + 1) (by omega)
    simp only [List.replicate_succ, List.cons_append] at hinner ⊢
    change items (value noHalves room) _ [] _ = _
    rw [items, hinner]
    rfl

namespace Http

open Url (Canonical)

/-- A list of one list, and so on, so many lists in all. -/
def nestedLists (n : Nat) : List Char := List.replicate n '[' ++ List.replicate n ']'

theorem isTooDeep_nestedLists [Capacity] {n : Nat} (hroom : Capacity.json < n) (h : 4 ≤ n) :
    (Body.octets (Text.encodeUtf8 (String.ofList (nestedLists n)))).IsTooDeep := by
  have hread : Json.readCodes ((nestedLists n).map Char.toNat) = .error .tooDeep := by
    have hvalue := Json.value_eq_tooDeep hroom (List.replicate n ']')
    obtain ⟨m, rfl⟩ : ∃ m, n = m + 1 := ⟨n - 1, by omega⟩
    rw [Json.readCodes, Json.mapM_charOfCode?]
    simp only [nestedLists, List.replicate_succ, List.cons_append] at hvalue ⊢
    change Json.value _ _ ('[' :: _) >>= _ = _
    rw [hvalue]
    rfl
  have hdecode : Text.decodeAny (Text.encodeUtf8 (String.ofList (nestedLists n))) =
      some ((nestedLists n).map Char.toNat) := by
    have hback := Text.decodeCodes_encode (nestedLists n) _ (Nat.le_refl _)
    obtain ⟨m, rfl⟩ : ∃ m, n = m + 4 := ⟨n - 4, by omega⟩
    rw [Text.encodeUtf8, String.toList_ofList]
    -- four octets other than zero at the front show that each character is one octet
    obtain ⟨more, hmore⟩ : ∃ more, (nestedLists (m + 4)).flatMap String.utf8EncodeChar =
        0x5B :: 0x5B :: 0x5B :: 0x5B :: more := by
      simp only [nestedLists, List.replicate_succ, List.cons_append, List.flatMap_cons]
      exact ⟨_, rfl⟩
    rw [hmore] at hback ⊢
    exact hback
  exact ⟨_, _, rfl, hdecode, hread⟩

end Http

end SchemaSheets
