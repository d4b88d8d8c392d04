import SchemaSheets.Proofs.Space.Tasks

/-!
# Spaces from concurrent tasks

A space is configured by one task for each workbook of its setup.  The tasks take their turns in any
order, and once a task has failed the others may be given up.  When no task can go on, the first
failure is reported, or else the space is put together.  The order of the turns decides which failing
workbook is reported and nothing else.
-/

namespace SchemaSheets

open Http

/-- A task with the plan of its workbook. -/
structure Task where
  plan : WorkbookPlan
  progress : Progress

/-- What happens next: a task takes a turn, or is given up. -/
inductive Move where
  | advance (i : Nat)
  | cancel (i : Nat)
  deriving DecidableEq, Repr

/-- A space that is being configured. -/
structure Configuring where
  tasks : List Task
  /-- of the task that failed first -/
  failure : Option Failure := none
  session : Session

/-- What a space ends with.  It has one result for each plan, in the order of the setup, which is what
the plan ends with alone, the workbooks of these results, and the properties of the setup's space
but for `workbooks`.  Or there is no space, but the failure of a plan. -/
inductive Setup.EndsWith [Capacity] (network : Network) (mode : IntegrityMode) (s : Setup) :
    Except Failure ConfiguredSpace → Prop where
  | space {c : ConfiguredSpace}
      (results : s.plans.map (·.alone network mode) = c.results.map .ok)
      (workbooks : c.space.workbooks = c.results.map (·.workbook))
      (extras : c.space.extras = s.space.filter (·.1 ≠ "workbooks")) :
      s.EndsWith network mode (.ok c)
  | failure {p : WorkbookPlan} {e : Failure} (hp : p ∈ s.plans)
      (h : p.alone network mode = .error e) : s.EndsWith network mode (.error e)

/-- Every task has the turns that its workbook can take. -/
def Setup.Fair (s : Setup) (moves : List Move) : Prop :=
  ∀ i < s.plans.length, maxRedirects + 2 ≤ moves.count (.advance i)

namespace Configuring

def start (s : Setup) (session : Session) : Configuring :=
  { tasks := s.plans.map (⟨·, .ready⟩), session }

/-- Task `i` takes its turn. -/
def advance [Capacity] (network : Network) (mode : IntegrityMode) (c : Configuring) (i : Nat) :
    Configuring :=
  match c.tasks[i]? with
  | none => c
  | some t =>
    let next := t.progress.turn network mode t.plan c.session
    { tasks := c.tasks.set i ⟨t.plan, next.1⟩
      failure := c.failure.or next.1.failure?
      session := next.2 }

/-- Task `i` is given up, if another one failed. -/
def cancel (c : Configuring) (i : Nat) : Configuring :=
  match c.failure, c.tasks[i]? with
  | some _, some t => { c with tasks := c.tasks.set i ⟨t.plan, t.progress.cancel⟩ }
  | _, _ => c

def move [Capacity] (network : Network) (mode : IntegrityMode) (c : Configuring) : Move → Configuring
  | .advance i => c.advance network mode i
  | .cancel i => c.cancel i

def play [Capacity] (network : Network) (mode : IntegrityMode) (c : Configuring) (moves : List Move) :
    Configuring :=
  moves.foldl (move network mode) c

/-- What is reported, once no task can go on. -/
def result? (s : Setup) (c : Configuring) : Option (Except Failure ConfiguredSpace) :=
  if c.tasks.all (·.progress.isOver) then
    match c.failure with
    | some e => some (.error e)
    | none => some (.ok (.assembled s (c.tasks.filterMap (·.progress.workbook?))))
  else none

end Configuring

variable {s : Setup}

namespace ConfiguredSpace

theorem extras_assembled (s : Setup) (results : List GeneratedWorkbook) :
    (assembled s results).space.extras = s.space.filter (·.1 ≠ "workbooks") := by
  simp [assembled, Extras.without, Space.declared]

theorem eq_assembled {c : ConfiguredSpace}
    (workbooks : c.space.workbooks = c.results.map (·.workbook))
    (extras : c.space.extras = s.space.filter (·.1 ≠ "workbooks")) :
    c = .assembled s c.results := by
  obtain ⟨⟨made, properties⟩, results⟩ := c
  change made = results.map (·.workbook) at workbooks
  change properties = _ at extras
  rw [workbooks, extras, ← extras_assembled s results]
  rfl

end ConfiguredSpace

theorem map_plan_set {ts : List Task} {i : Nat} {t : Task} (ht : ts[i]? = some t)
    (progress : Progress) : (ts.set i ⟨t.plan, progress⟩).map (·.plan) = ts.map (·.plan) := by
  obtain ⟨hi, rfl⟩ := List.getElem?_eq_some_iff.1 ht
  rw [List.map_set]
  apply List.ext_getElem
  · simp
  · intro j hj hj'
    by_cases hij : i = j
    · subst hij
      simp
    · simp [hij]

namespace Progress

theorem isOver_iff {t : Progress} : t.isOver ↔ t.turnsLeft = 0 := by
  cases t <;> simp [isOver, turnsLeft]

theorem turnsLeft_cancel (t : Progress) : t.cancel.turnsLeft ≤ t.turnsLeft := by
  cases t <;> simp [cancel, isOver, turnsLeft]

end Progress

namespace Space

theorem allResults_eq_ok {α : Type} {outcomes : List (Except Failure α)} {results : List α}
    (h : allResults outcomes = .ok results) : outcomes = results.map .ok := by
  induction outcomes generalizing results with
  | nil =>
    cases h
    rfl
  | cons outcome rest ih =>
    cases outcome with
    | error e => cases h
    | ok a =>
      rw [allResults] at h
      cases hrest : allResults rest with
      | error e =>
        rw [hrest] at h
        cases h
      | ok others =>
        rw [hrest] at h
        cases h
        rw [List.map_cons, ← ih hrest]

theorem allResults_eq_error {α : Type} {outcomes : List (Except Failure α)} {e : Failure}
    (h : allResults outcomes = .error e) : .error e ∈ outcomes := by
  induction outcomes with
  | nil => cases h
  | cons outcome rest ih =>
    cases outcome with
    | error e' =>
      cases h
      exact List.mem_cons_self
    | ok a =>
      rw [allResults] at h
      cases hrest : allResults rest with
      | error e' =>
        rw [hrest] at h
        cases h
        exact List.mem_cons_of_mem _ (ih hrest)
      | ok others =>
        rw [hrest] at h
        cases h

end Space

namespace Configuring

variable {c : Configuring}

/-- The turns that task `i` can still take. -/
def turnsLeft (c : Configuring) (i : Nat) : Nat :=
  match c.tasks[i]? with
  | none => 0
  | some t => t.progress.turnsLeft

@[simp] theorem turnsLeft_start {i : Nat} (hi : i < s.plans.length) (session : Session) :
    (start s session).turnsLeft i = maxRedirects + 2 := by
  simp [turnsLeft, start, hi, Progress.turnsLeft]

theorem turnsLeft_set {i j : Nat} {t : Task} (ht : c.tasks[i]? = some t) (progress : Progress)
    (failure : Option Failure) (session : Session) :
    turnsLeft ⟨c.tasks.set i ⟨t.plan, progress⟩, failure, session⟩ j =
      if i = j then progress.turnsLeft else c.turnsLeft j := by
  obtain ⟨hi, -⟩ := List.getElem?_eq_some_iff.1 ht
  by_cases hij : i = j
  · subst hij
    simp [turnsLeft, hi]
  · simp [turnsLeft, hij]

theorem turnsLeft_eq_of_getElem {i : Nat} (hi : i < c.tasks.length) :
    c.turnsLeft i = c.tasks[i].progress.turnsLeft := by
  rw [turnsLeft, List.getElem?_eq_getElem hi]

theorem result?_isSome (hover : ∀ t ∈ c.tasks, t.progress.isOver) : ∃ r, c.result? s = some r := by
  rw [result?, if_pos (List.all_eq_true.2 hover)]
  cases c.failure with
  | some e => exact ⟨_, rfl⟩
  | none => exact ⟨_, rfl⟩

/-- The tasks take all their turns one after another. -/
def inTurn (n : Nat) : List Move :=
  ((List.range n).map fun i => List.replicate (maxRedirects + 2) (Move.advance i)).flatten

theorem fair_inTurn (s : Setup) : s.Fair (inTurn s.plans.length) := by
  intro i hi
  have hmem : List.replicate (maxRedirects + 2) (Move.advance i) ∈
      (List.range s.plans.length).map fun i => List.replicate (maxRedirects + 2) (Move.advance i) :=
    List.mem_map_of_mem (List.mem_range.2 hi)
  have hcount := (List.sublist_flatten_of_mem hmem).count_le (.advance i)
  rwa [List.count_replicate_self] at hcount

/-- The failure of task `i`. -/
def failureOf (c : Configuring) (i : Nat) : Option Failure :=
  c.tasks[i]?.bind (·.progress.failure?)

end Configuring

section Playing

variable [Capacity] {network : Network} {mode : IntegrityMode}

/-! ### One workbook after another -/

theorem Setup.EndsWith.of_all {results : List GeneratedWorkbook}
    (hall : s.plans.map (·.alone network mode) = results.map .ok) :
    s.EndsWith network mode (.ok (.assembled s results)) :=
  .space hall rfl (ConfiguredSpace.extras_assembled s results)

namespace Space

theorem from_outcomes (session : Session) (plans : List WorkbookPlan) :
    (Run.from_ session (outcomes network mode plans)).1 =
      .ok (plans.map (·.alone network mode)) := by
  induction plans generalizing session with
  | nil => rfl
  | cons p rest ih =>
    have hattempt : Run.from_ session (Run.attempt (Workbook.generate network mode p .null)) =
        (.ok (p.alone network mode),
          (Run.from_ session (Workbook.generate network mode p .null)).2) := by
      rw [WorkbookPlan.alone, ← (Workbook.steady_generate network mode p .null).from_eq session]
      rfl
    rw [outcomes, Run.from_bind, hattempt]
    simp only [Run.from_bind]
    have hrest := ih (Run.from_ session (Workbook.generate network mode p .null)).2
    cases hrun : Run.from_ (Run.from_ session (Workbook.generate network mode p .null)).2
        (outcomes network mode rest) with
    | mk outcome session' =>
      rw [hrun] at hrest
      change outcome = _ at hrest
      subst hrest
      rfl

theorem configure_endsWith (session : Session) :
    s.EndsWith network mode (Run.from_ session (configure network mode s)).1 := by
  have houtcomes : (Run.from_ session (outcomes network mode s.plans)).1 = _ :=
    from_outcomes session s.plans
  rw [configure, Run.from_bind]
  cases hrun : Run.from_ session (outcomes network mode s.plans) with
  | mk outcome session' =>
    rw [hrun] at houtcomes
    change outcome = _ at houtcomes
    subst houtcomes
    simp only [Run.from_bind, Run.from_lift]
    cases hall : allResults (s.plans.map (·.alone network mode)) with
    | ok results => exact .of_all (allResults_eq_ok hall)
    | error e =>
      obtain ⟨p, hp, halone⟩ := List.mem_map.1 (allResults_eq_error hall)
      exact .failure hp halone

end Space

/-- When all workbooks can be generated, there is one end. -/
theorem Setup.EndsWith.eq_assembled {r : Except Failure ConfiguredSpace}
    {results : List GeneratedWorkbook} (h : s.EndsWith network mode r)
    (hall : s.plans.map (·.alone network mode) = results.map .ok) :
    r = .ok (.assembled s results) := by
  cases h with
  | space hall' hworkbooks hextras =>
    have hinj : Function.Injective (Except.ok : GeneratedWorkbook → Except Failure _) :=
      fun _ _ => Except.ok.inj
    have hsame := List.map_injective_iff.2 hinj (hall'.symm.trans hall)
    rw [ConfiguredSpace.eq_assembled hworkbooks hextras, hsame]
  | failure hp halone =>
    have hmem := List.mem_map_of_mem (f := (·.alone network mode)) hp
    rw [hall, halone] at hmem
    obtain ⟨_, -, hne⟩ := List.mem_map.1 hmem
    cases hne

/-! ### Turns of the tasks -/

namespace Progress

theorem cancel_keepsTo {t : Progress} {p : WorkbookPlan} (h : t.KeepsTo network mode p) :
    t.cancel.KeepsTo network mode p := by
  unfold cancel
  split
  · exact h
  · trivial

/-- The task has not failed and was not given up. -/
def Untroubled (t : Progress) : Prop := t.isOver → ∃ g, t = ended (.ok g)

theorem Untroubled.turn {t : Progress} {p : WorkbookPlan} {session : Session}
    (h : t.Untroubled)
    (hfailure : (t.turn network mode p session).1.failure? = none) :
    (t.turn network mode p session).1.Untroubled := by
  have hnot : (t.turn network mode p session).1 ≠ cancelled := by
    cases t with
    | ready =>
      simp only [Progress.turn]
      cases p.url? with
      | none => simp
      | some url => cases hurl : Url.Canonical.ofText url.toList <;> simp [hurl]
    | awaiting url left hop =>
      simp only [Progress.turn]
      cases houtcome : hop.outcome url (network hop.request) with
      | error e => simp
      | ok x =>
        cases x with
        | inl r => simp
        | inr next => cases left <;> simp
    | ended outcome => simp [Progress.turn]
    | cancelled =>
      obtain ⟨g, hg⟩ := h rfl
      cases hg
  intro hover
  cases hnext : (t.turn network mode p session).1 with
  | ready =>
    rw [hnext] at hover
    cases hover
  | awaiting url left hop =>
    rw [hnext] at hover
    cases hover
  | ended outcome =>
    rw [hnext] at hfailure
    cases outcome with
    | error e => cases hfailure
    | ok g => exact ⟨g, rfl⟩
  | cancelled => exact absurd hnext hnot

end Progress

namespace Configuring

variable {c : Configuring}

/-- What holds of a space all the time while it is being configured. -/
structure Sound (network : Network) (mode : IntegrityMode) (s : Setup) (c : Configuring) :
    Prop where
  plans : c.tasks.map (·.plan) = s.plans
  keeps : ∀ t ∈ c.tasks, t.progress.KeepsTo network mode t.plan
  failed : ∀ e, c.failure = some e → ∃ p ∈ s.plans, p.alone network mode = .error e
  untroubled : c.failure = none → ∀ t ∈ c.tasks, t.progress.Untroubled

theorem sound_start (session : Session) : Sound network mode s (start s session) where
  plans := by
    rw [start, List.map_map]
    exact List.map_id _
  keeps t ht := by
    obtain ⟨p, -, rfl⟩ := List.mem_map.1 ht
    trivial
  failed e he := by cases he
  untroubled _ t ht := by
    obtain ⟨p, -, rfl⟩ := List.mem_map.1 ht
    nofun

theorem Sound.plan_mem (h : Sound network mode s c) {t : Task} (ht : t ∈ c.tasks) :
    t.plan ∈ s.plans := by
  rw [← h.plans]
  exact List.mem_map_of_mem ht

theorem Sound.advance (h : Sound network mode s c) (i : Nat) :
    Sound network mode s (c.advance network mode i) := by
  unfold Configuring.advance
  cases ht : c.tasks[i]? with
  | none => exact h
  | some t =>
    have hmem : t ∈ c.tasks := List.mem_of_getElem? ht
    have hkeeps := (h.keeps t hmem).turn c.session
    constructor
    case plans => exact (map_plan_set ht _).trans h.plans
    case keeps =>
      intro t' ht'
      rcases List.mem_or_eq_of_mem_set ht' with hold | rfl
      · exact h.keeps t' hold
      · exact hkeeps
    case failed =>
      intro e he
      cases hfirst : c.failure with
      | some first =>
        simp only [hfirst, Option.some_or, Option.some.injEq] at he
        exact he ▸ h.failed first hfirst
      | none =>
        simp only [hfirst, Option.none_or] at he
        cases hnext : (t.progress.turn network mode t.plan c.session).1 with
        | ended outcome =>
          rw [hnext] at he hkeeps
          cases outcome with
          | ok g => cases he
          | error e' =>
            cases he
            exact ⟨t.plan, h.plan_mem hmem, hkeeps.symm⟩
        | _ =>
          rw [hnext] at he
          cases he
    case untroubled =>
      intro hnone t' ht'
      obtain ⟨hfirst, hnext⟩ := Option.or_eq_none_iff.1 hnone
      rcases List.mem_or_eq_of_mem_set ht' with hold | rfl
      · exact h.untroubled hfirst t' hold
      · exact (h.untroubled hfirst t hmem).turn hnext

theorem Sound.cancel (h : Sound network mode s c) (i : Nat) : Sound network mode s (c.cancel i) := by
  unfold Configuring.cancel
  cases hfirst : c.failure with
  | none => exact h
  | some e =>
    cases ht : c.tasks[i]? with
    | none => exact h
    | some t =>
      constructor
      case plans => exact (map_plan_set ht _).trans h.plans
      case keeps =>
        intro t' ht'
        rcases List.mem_or_eq_of_mem_set ht' with hold | rfl
        · exact h.keeps t' hold
        · exact Progress.cancel_keepsTo (h.keeps t (List.mem_of_getElem? ht))
      case failed =>
        rintro _ ⟨⟩
        exact h.failed e hfirst
      case untroubled => nofun

theorem Sound.move (h : Sound network mode s c) (m : Move) :
    Sound network mode s (c.move network mode m) := by
  cases m with
  | advance i => exact h.advance i
  | cancel i => exact h.cancel i

theorem Sound.play (h : Sound network mode s c) (moves : List Move) :
    Sound network mode s (c.play network mode moves) := by
  induction moves generalizing c with
  | nil => exact h
  | cons m rest ih => exact ih (h.move m)

theorem play_append (moves moves' : List Move) :
    c.play network mode (moves ++ moves') =
      (c.play network mode moves).play network mode moves' := List.foldl_append

/-! ### The end -/

theorem Sound.map_alone_eq (h : Sound network mode s c) (hfailure : c.failure = none)
    (hover : ∀ t ∈ c.tasks, t.progress.isOver) :
    s.plans.map (·.alone network mode) =
      (c.tasks.filterMap (·.progress.workbook?)).map .ok := by
  have hdone : ∀ t ∈ c.tasks, ∃ g, t.progress = .ended (.ok g) ∧
      t.plan.alone network mode = .ok g := by
    intro t ht
    obtain ⟨g, hg⟩ := h.untroubled hfailure t ht (hover t ht)
    have hkeeps := h.keeps t ht
    rw [hg] at hkeeps
    exact ⟨g, hg, hkeeps.symm⟩
  rw [← h.plans]
  generalize c.tasks = ts at hdone
  induction ts with
  | nil => rfl
  | cons t rest ih =>
    obtain ⟨g, hg, halone⟩ := hdone t List.mem_cons_self
    have hrest := ih fun t' ht' => hdone t' (List.mem_cons_of_mem _ ht')
    have hfirst : t.progress.workbook? = some g := by rw [hg, Progress.workbook?]
    simp only [List.map_cons, List.filterMap_cons, hfirst, halone, hrest]

theorem Sound.endsWith (h : Sound network mode s c) {r : Except Failure ConfiguredSpace}
    (hresult : c.result? s = some r) : s.EndsWith network mode r := by
  unfold result? at hresult
  split at hresult
  next hover =>
    rw [List.all_eq_true] at hover
    cases hfailure : c.failure with
    | some e =>
      rw [hfailure] at hresult
      cases hresult
      obtain ⟨p, hp, halone⟩ := h.failed e hfailure
      exact .failure hp halone
    | none =>
      rw [hfailure] at hresult
      cases hresult
      exact .of_all (h.map_alone_eq hfailure hover)
  next => cases hresult

/-! ### Every task comes to its end -/

theorem turnsLeft_move (network : Network) (mode : IntegrityMode) (c : Configuring) (m : Move)
    (j : Nat) :
    (c.move network mode m).turnsLeft j ≤ c.turnsLeft j - [m].count (.advance j) := by
  cases m with
  | advance i =>
    rw [Configuring.move, Configuring.advance]
    cases ht : c.tasks[i]? with
    | none =>
      by_cases hij : i = j
      · subst hij
        simp [turnsLeft, ht]
      · simp [hij]
    | some t =>
      simp only [turnsLeft_set ht]
      by_cases hij : i = j
      · subst hij
        have hturn := Progress.turnsLeft_turn network mode t.plan t.progress c.session
        simpa [turnsLeft, ht] using hturn
      · simp [hij]
  | cancel i =>
    rw [Configuring.move, Configuring.cancel]
    cases hfirst : c.failure with
    | none => simp
    | some e =>
      cases ht : c.tasks[i]? with
      | none => simp
      | some t =>
        simp only [turnsLeft_set ht]
        by_cases hij : i = j
        · subst hij
          simpa [turnsLeft, ht] using Progress.turnsLeft_cancel t.progress
        · simp [hij]

theorem turnsLeft_play (network : Network) (mode : IntegrityMode) (c : Configuring)
    (moves : List Move) (j : Nat) :
    (c.play network mode moves).turnsLeft j ≤ c.turnsLeft j - moves.count (.advance j) := by
  induction moves generalizing c with
  | nil => simp [play]
  | cons m rest ih =>
    have hmove := turnsLeft_move network mode c m j
    have hrest := ih (c.move network mode m)
    have hcount : (m :: rest).count (.advance j) =
        [m].count (.advance j) + rest.count (.advance j) := by
      rw [← List.count_append, List.singleton_append]
    change ((c.move network mode m).play network mode rest).turnsLeft j ≤ _
    omega

theorem Sound.length_eq (h : Sound network mode s c) : c.tasks.length = s.plans.length := by
  rw [← h.plans, List.length_map]

theorem Sound.isOver_of_play (h : Sound network mode s c) {moves : List Move}
    (hleft : ∀ i < s.plans.length, c.turnsLeft i ≤ moves.count (.advance i)) :
    ∀ t ∈ (c.play network mode moves).tasks, t.progress.isOver := by
  intro t ht
  obtain ⟨i, hi, rfl⟩ := List.getElem_of_mem ht
  have hlength := (h.play moves).length_eq
  have hplay := turnsLeft_play network mode c moves i
  have hfair := hleft i (by omega)
  rw [Progress.isOver_iff, ← turnsLeft_eq_of_getElem hi]
  omega

theorem result?_of_fair (network : Network) (mode : IntegrityMode) {moves : List Move}
    (session : Session) (h : s.Fair moves) :
    ∃ r, ((start s session).play network mode moves).result? s = some r := by
  have hstart : Sound network mode s (start s session) := sound_start session
  apply result?_isSome
  apply hstart.isOver_of_play
  intro i hi
  rw [turnsLeft_start hi]
  exact h i hi

/-! ### Every end is reached in some order -/

theorem failure_advance {i : Nat} (h : c.failure = c.failureOf i) :
    (c.advance network mode i).failure = (c.advance network mode i).failureOf i := by
  unfold advance
  cases ht : c.tasks[i]? with
  | none => exact h
  | some t =>
    obtain ⟨hi, -⟩ := List.getElem?_eq_some_iff.1 ht
    have hold : c.failure = t.progress.failure? := by
      rw [h, failureOf, ht, Option.bind_some]
    simp only [failureOf, List.getElem?_set_self hi, Option.bind_some]
    rw [hold]
    cases hprogress : t.progress with
    | ended outcome => cases outcome <;> rfl
    | _ => exact Option.none_or

theorem failure_play_replicate {i : Nat} (n : Nat) (h : c.failure = c.failureOf i) :
    (c.play network mode (.replicate n (.advance i))).failure =
      (c.play network mode (.replicate n (.advance i))).failureOf i := by
  induction n generalizing c with
  | zero => exact h
  | succ n ih => exact ih (failure_advance h)

theorem failure_move {e : Failure} (h : c.failure = some e) (m : Move) :
    (c.move network mode m).failure = some e := by
  cases m with
  | advance i =>
    rw [move, advance]
    split
    · exact h
    · simp [h]
  | cancel i =>
    rw [move, cancel]
    split
    · exact h
    · exact h

theorem failure_play {e : Failure} (h : c.failure = some e) (moves : List Move) :
    (c.play network mode moves).failure = some e := by
  induction moves generalizing c with
  | nil => exact h
  | cons m rest ih => exact ih (failure_move h m)

/-- A task that has all its turns first is the first to fail, if it fails. -/
theorem failure_of_first {i : Nat} (hi : i < s.plans.length) {e : Failure}
    (halone : s.plans[i].alone network mode = .error e) (session : Session) :
    ((start s session).play network mode
      (.replicate (maxRedirects + 2) (.advance i))).failure = some e := by
  have hstart : Sound network mode s (start s session) := sound_start session
  have hsound := hstart.play (.replicate (maxRedirects + 2) (.advance i))
  have hfailure : ((start s session).play network mode
      (.replicate (maxRedirects + 2) (.advance i))).failure = _ :=
    failure_play_replicate (maxRedirects + 2) (by simp [start, failureOf, hi, Progress.failure?])
  have hleft := turnsLeft_play network mode (start s session)
    (.replicate (maxRedirects + 2) (.advance i)) i
  rw [turnsLeft_start hi, List.count_replicate_self, Nat.sub_self, Nat.le_zero] at hleft
  generalize (start s session).play network mode
    (.replicate (maxRedirects + 2) (.advance i)) = c at hsound hfailure hleft
  have hic : i < c.tasks.length := by
    rw [hsound.length_eq]
    exact hi
  have hmem : c.tasks[i] ∈ c.tasks := List.getElem_mem hic
  have hplan : c.tasks[i].plan = s.plans[i] := by
    simp only [← hsound.plans, List.getElem_map]
  have hkeeps := hsound.keeps _ hmem
  rw [hplan] at hkeeps
  rw [failureOf, List.getElem?_eq_getElem hic, Option.bind_some] at hfailure
  rw [turnsLeft_eq_of_getElem hic, ← Progress.isOver_iff] at hleft
  cases hfirst : c.failure with
  | none =>
    obtain ⟨g, hg⟩ := hsound.untroubled hfirst _ hmem hleft
    rw [hg] at hkeeps
    exact nomatch hkeeps.trans halone
  | some first =>
    rw [hfirst] at hfailure
    cases hprogress : c.tasks[i].progress with
    | ended outcome =>
      rw [hprogress] at hfailure hkeeps
      cases outcome with
      | ok g => cases hfailure
      | error e' =>
        cases hfailure
        exact congrArg some (Except.error.inj (hkeeps.trans halone))
    | _ =>
      rw [hprogress] at hfailure
      cases hfailure

theorem exists_order {r : Except Failure ConfiguredSpace} (h : s.EndsWith network mode r)
    (session : Session) :
    ∃ moves, ((start s session).play network mode moves).result? s = some r := by
  cases h with
  | space hall hworkbooks hextras =>
    obtain ⟨r, hr⟩ := result?_of_fair network mode session (fair_inTurn s)
    have hstart : Sound network mode s (start s session) := sound_start session
    have hends := (hstart.play _).endsWith hr
    rw [hends.eq_assembled hall, ← ConfiguredSpace.eq_assembled hworkbooks hextras] at hr
    exact ⟨_, hr⟩
  | failure hp halone =>
    -- the failing task goes first, then all the others
    obtain ⟨i, hi, rfl⟩ := List.getElem_of_mem hp
    have hfirst := failure_of_first hi halone session
    have hstart : Sound network mode s (start s session) := sound_start session
    refine ⟨.replicate (maxRedirects + 2) (.advance i) ++ inTurn s.plans.length, ?_⟩
    have hover : ∀ t ∈ ((start s session).play network mode
        (.replicate (maxRedirects + 2) (.advance i) ++ inTurn s.plans.length)).tasks,
        t.progress.isOver := by
      apply hstart.isOver_of_play
      intro j hj
      have hfair := fair_inTurn s j hj
      rw [turnsLeft_start hj, List.count_append]
      omega
    rw [result?, if_pos (List.all_eq_true.2 hover), play_append, failure_play hfirst]

/-! ### Every order -/

/-- Whatever the order in which the tasks take their turns, with cancellations or without: if each
takes enough of them, something is reported.  It is the space with the workbook of each plan in the
order of the setup, each as it comes out alone, or the failure of a plan that fails alone, and each
of these failures is reported in some order.  Making one workbook after another is such an order. -/
theorem ends_in_every_order (network : Network) (mode : IntegrityMode) (s : Setup)
    (session : Session) :
    (∀ moves, s.Fair moves →
      ∃ r, ((start s session).play network mode moves).result? s = some r) ∧
    (∀ r, (∃ moves, ((start s session).play network mode moves).result? s = some r) ↔
      s.EndsWith network mode r) ∧
    s.EndsWith network mode (Run.from_ session (Space.configure network mode s)).1 := by
  have hstart : Sound network mode s (start s session) := sound_start session
  refine ⟨fun moves hfair => result?_of_fair network mode session hfair, fun r => ⟨?_, ?_⟩,
    Space.configure_endsWith session⟩
  · rintro ⟨moves, hr⟩
    exact (hstart.play moves).endsWith hr
  · intro hr
    exact exists_order hr session

end Configuring

end Playing

namespace Configuring

/-- A workbook that has to be fetched and one that has not. -/
def fetchedAndWritten : Setup where
  plans := [{ source := .str ("http" ++ "://h.test/a") },
    { source := .str "type Movie \x7b id: ID! \x7d" }]
  space := []

/-- The second task goes first, and the first one waits for two replies. -/
def lateFirst : List Move :=
  [.advance 0, .advance 1] ++ .replicate (maxRedirects + 2) (.advance 1) ++
    .replicate (maxRedirects + 2) (.advance 0)

theorem ends_late_first :
    fetchedAndWritten.Fair lateFirst ∧
      ∃ r, ((start fetchedAndWritten {}).play Introspection.redirecting .universe
        lateFirst).result? fetchedAndWritten = some r ∧
        fetchedAndWritten.EndsWith Introspection.redirecting .universe r := by
  have hfair : fetchedAndWritten.Fair lateFirst := by
    unfold Setup.Fair
    decide
  obtain ⟨hsome, hends, -⟩ :=
    ends_in_every_order Introspection.redirecting .universe fetchedAndWritten {}
  obtain ⟨r, hr⟩ := hsome lateFirst hfair
  exact ⟨hfair, r, hr, (hends r).1 ⟨_, hr⟩⟩

end Configuring

end SchemaSheets
