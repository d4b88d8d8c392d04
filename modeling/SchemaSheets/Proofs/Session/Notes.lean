import SchemaSheets.Proofs.Session.Account

/-!
# Notes of runs that may fail

An account says nothing of the notes that a run took before it failed.  A
uniform run ends in one way and takes the same notes from every session, whether
it returns or fails and whether or not somebody collects.  What a note becomes
in the log and in the collector is then said of the notes alone: mirrored notes
are warnings in the log just where they are warnings in the collector.
-/

namespace SchemaSheets

namespace Run

variable {α β : Type} {p q : Note → Prop} {x : Run α} {f : α → Run β}

/-- From every session the run ends in the same way and takes the same notes, which all have the
property. -/
def Uniform (p : Note → Prop) (x : Run α) : Prop :=
  ∃ (outcome : Except Failure α) (notes : List Note),
    (∀ s, from_ s x = (outcome, s.noted notes)) ∧ ∀ n ∈ notes, p n

theorem uniform_lift (y : Except Failure α) : Uniform p (liftM y) :=
  ⟨y, [], by simp, by simp⟩

theorem uniform_lift_misuse (y : Except Misuse α) : Uniform p (liftM y) :=
  uniform_lift (y.mapError .misuse)

theorem uniform_lift_invalid (y : Except Check.Invalid α) : Uniform p (liftM y) :=
  uniform_lift (y.mapError .invalid)

theorem uniform_pure (a : α) : Uniform p (pure a) := uniform_lift (.ok a)

theorem uniform_warn (channel : LogChannel) {d : Diagnostic} (hd : p (.warned channel d)) :
    Uniform p (warn channel d) :=
  ⟨.ok (), [.warned channel d], fun s => from_warn s channel d, by simpa using hd⟩

theorem uniform_collect {d : Diagnostic} (hd : p (.collected d)) : Uniform p (collect d) :=
  ⟨.ok (), [.collected d], fun s => from_collect s d, by simpa using hd⟩

theorem Uniform.bind (hx : Uniform p x) (hf : ∀ a, Uniform p (f a)) : Uniform p (x >>= f) := by
  obtain ⟨outcome, first, hfirst, hpfirst⟩ := hx
  cases outcome with
  | error e => exact ⟨.error e, first, fun s => by rw [from_bind, hfirst s], hpfirst⟩
  | ok a =>
    obtain ⟨outcome, later, hlater, hplater⟩ := hf a
    refine ⟨outcome, first ++ later, fun s => ?_, ?_⟩
    · rw [from_bind, hfirst s]
      simp [hlater (s.noted first)]
    · intro n hn
      rcases List.mem_append.1 hn with hn | hn
      · exact hpfirst n hn
      · exact hplater n hn

theorem Uniform.mono (hx : Uniform p x) (h : ∀ n, p n → q n) : Uniform q x := by
  obtain ⟨outcome, notes, hrun, hp⟩ := hx
  exact ⟨outcome, notes, hrun, fun n hn => h n (hp n hn)⟩

/-- A run that succeeds by its account is uniform. -/
theorem Keeps.uniform {a : α} {notes : List Note} (h : Keeps x (.ok (a, notes)))
    (hp : ∀ n ∈ notes, p n) : Uniform p x := ⟨.ok a, notes, h, hp⟩

/-- From every session the run only adds notes whose diagnostics have the property. -/
def Notes (p : Diagnostic → Prop) (x : Run α) : Prop :=
  ∀ s, ∃ notes : List Note, (from_ s x).2 = s.noted notes ∧ ∀ n ∈ notes, p n.diagnostic

theorem Uniform.notes {p : Diagnostic → Prop} (hx : Uniform (fun n => p n.diagnostic) x) :
    Notes p x := by
  obtain ⟨outcome, notes, hrun, hp⟩ := hx
  exact fun s => ⟨notes, by rw [hrun s], hp⟩

end Run

/-! ### The log and the collector -/

namespace Note

/-- The note is a warning in the log just if it is one in the collector. -/
def Mirrored : Note → Prop
  | warned _ d => d.severity = .warning
  | collected d => d.severity ≠ .warning

variable {n : Note} {notes : List Note}

theorem level_of_mem_records {r : LogRecord} (h : r ∈ notes.filterMap record?) :
    r.level = .warning := by
  obtain ⟨n, -, hn⟩ := List.mem_filterMap.1 h
  cases n with
  | warned channel d =>
    cases hn
    rfl
  | collected d => cases hn

/-- The log of mirrored notes has the messages of the warnings among their diagnostics. -/
theorem messages_of_mirrored (h : ∀ n ∈ notes, n.Mirrored) :
    (notes.filterMap record?).map (·.message) =
      ((notes.map diagnostic).filter (·.severity == .warning)).map (·.message) := by
  induction notes with
  | nil => rfl
  | cons n rest ih =>
    have hrest := ih fun m hm => h m (.tail n hm)
    have hn : n.Mirrored := h n (.head rest)
    cases n with
    | warned channel d =>
      have hd : d.severity = .warning := hn
      simp [record?, diagnostic, hd, hrest]
    | collected d =>
      have hd : d.severity ≠ .warning := hn
      rw [List.filterMap_cons_none rfl, hrest]
      simp [diagnostic, hd]

end Note

end SchemaSheets
