import SchemaSheets.Proofs.Diagnostic.Merge

/-!
# Collectors used side by side

A collector holds a list of diagnostics and adds to it.  Several collectors may
hold the same list, and then all of them have what one of them adds.  Putting
collectors together makes a new collector with a list of its own.  So whatever
is done with the new one or with later ones, an older collector only gets what
is added to the list it holds (`read_play`), and the new one has what the older
ones had when it was made and what was added to itself (`Apart`).
-/

namespace SchemaSheets

/-- Lists of diagnostics, and collectors that each hold one of them. -/
structure Shelf where
  lists : List Diagnostics
  /-- the list that each collector holds -/
  collectors : List Nat
  held : ∀ p ∈ collectors, p < lists.length

namespace Shelf

/-- One use of collectors, which are told by the order in which they were made. -/
inductive Use where
  | create
  | add (i : Nat) (d : Diagnostic)
  | merge (i j : Nat)

def size (m : Shelf) : Nat := m.collectors.length

/-- What a collector has. -/
def read (m : Shelf) (i : Nat) : Option Diagnostics := m.collectors[i]?.bind (m.lists[·]?)

/-- With one more collector, which holds a list of its own. -/
def put (m : Shelf) (c : Diagnostics) : Shelf where
  lists := m.lists ++ [c]
  collectors := m.collectors ++ [m.lists.length]
  held p hp := by
    rcases List.mem_append.1 hp with hp | hp
    · have hlt := m.held p hp
      simp only [List.length_append, List.length_singleton]
      omega
    · simp only [List.mem_singleton] at hp
      simp [hp]

/-- With one more entry in a list. -/
def write (m : Shelf) (p : Nat) (d : Diagnostic) : Shelf where
  lists := m.lists.modify p (·.add d)
  collectors := m.collectors
  held q hq := by
    have hlt := m.held q hq
    simpa using hlt

def use (m : Shelf) : Use → Shelf
  | .create => m.put {}
  | .add i d =>
    match m.collectors[i]? with
    | some p => m.write p d
    | none => m
  | .merge i j =>
    match m.read i, m.read j with
    | some a, some b => m.put (a.merge b)
    | _, _ => m

def play (m : Shelf) (uses : List Use) : Shelf := uses.foldl use m

/-- What a use adds to the list that collector `i` holds. -/
def addition? (m : Shelf) (i : Nat) : Use → Option Diagnostic
  | .add j d => if m.collectors[j]? = m.collectors[i]? then some d else none
  | _ => none

/-- What uses add, in order, to the list that collector `i` holds. -/
def additions (m : Shelf) (i : Nat) (uses : List Use) : List Diagnostic :=
  uses.filterMap (m.addition? i)

variable {m : Shelf} {i j : Nat} {a b c : Diagnostics}

theorem play_cons (m : Shelf) (u : Use) (rest : List Use) :
    m.play (u :: rest) = (m.use u).play rest := rfl

theorem play_append (m : Shelf) (uses later : List Use) :
    m.play (uses ++ later) = (m.play uses).play later := List.foldl_append

theorem lt_size_of_read (h : m.read i = some c) : i < m.size := by
  obtain ⟨p, hp, -⟩ := Option.bind_eq_some_iff.1 h
  exact (List.getElem?_eq_some_iff.1 hp).1

theorem exists_list (hi : i < m.size) : ∃ p, m.collectors[i]? = some p ∧ p < m.lists.length := by
  have hget : m.collectors[i]? = some m.collectors[i] := List.getElem?_eq_getElem hi
  exact ⟨m.collectors[i], hget, m.held _ (List.getElem_mem hi)⟩

/-! ### One use -/

theorem size_put (m : Shelf) (c : Diagnostics) : (m.put c).size = m.size + 1 := by
  simp [size, put]

theorem lt_size_put_iff : i < (m.put c).size ↔ i ≤ m.size := by
  rw [size_put]
  exact Nat.lt_succ_iff

theorem collectors_put (hi : i < m.size) : (m.put c).collectors[i]? = m.collectors[i]? := by
  have hlt : i < m.collectors.length := hi
  simp [put, List.getElem?_append_left hlt]

theorem collectors_put_size (m : Shelf) (c : Diagnostics) :
    (m.put c).collectors[m.size]? = some m.lists.length := by
  simp [put, size]

theorem read_put (hi : i < m.size) : (m.put c).read i = m.read i := by
  obtain ⟨p, hp, hlt⟩ := exists_list hi
  rw [read, read, collectors_put hi, hp]
  simp [put, List.getElem?_append_left hlt]

theorem read_put_size (m : Shelf) (c : Diagnostics) : (m.put c).read m.size = some c := by
  rw [read, collectors_put_size]
  simp [put]

theorem read_write (m : Shelf) (p i : Nat) (d : Diagnostic) :
    (m.write p d).read i =
      if m.collectors[i]? = some p then (m.read i).map (·.add d) else m.read i := by
  simp only [read, write]
  cases hi : m.collectors[i]? with
  | none => simp
  | some q =>
    by_cases hq : p = q
    · simp [List.getElem?_modify, hq]
    · have hne : q ≠ p := fun h => hq h.symm
      simp [List.getElem?_modify, hq, hne]

theorem addition?_put (hi : i < m.size) : (m.put c).addition? i = m.addition? i := by
  obtain ⟨p, hp, hlt⟩ := exists_list hi
  funext u
  cases u with
  | create => rfl
  | merge j k => rfl
  | add j d =>
    have hsame : (m.put c).collectors[j]? = (m.put c).collectors[i]? ↔
        m.collectors[j]? = m.collectors[i]? := by
      rw [collectors_put hi, hp]
      -- only the new collector has changed, and its list is not `p`
      rcases Nat.lt_trichotomy j m.size with hj | rfl | hj
      · rw [collectors_put hj]
      · have hnone : m.collectors[m.size]? = none := List.getElem?_eq_none (Nat.le_refl _)
        rw [collectors_put_size, hnone]
        simp
        omega
      · have hnone : m.collectors[j]? = none := List.getElem?_eq_none (Nat.le_of_lt hj)
        have hnone' : (m.put c).collectors[j]? = none := by
          have hsize : (m.put c).size ≤ j := by
            rw [size_put]
            omega
          exact List.getElem?_eq_none hsize
        rw [hnone, hnone']
    simp only [addition?, hsame]

/-- A use makes a collector, or does nothing, or adds to the list that a collector holds. -/
theorem use_cases (m : Shelf) (u : Use) :
    ((∃ c, m.use u = m.put c) ∧ ∀ i, m.addition? i u = none) ∨
      (m.use u = m ∧ ∀ i < m.size, m.addition? i u = none) ∨
      ∃ j d p, u = .add j d ∧ m.collectors[j]? = some p ∧ m.use u = m.write p d := by
  cases u with
  | create => exact .inl ⟨⟨{}, rfl⟩, fun i => rfl⟩
  | add j d =>
    cases hj : m.collectors[j]? with
    | some p => exact .inr (.inr ⟨j, d, p, rfl, hj, by simp [use, hj]⟩)
    | none =>
      refine .inr (.inl ⟨by simp [use, hj], fun i hi => ?_⟩)
      obtain ⟨p, hp, -⟩ := exists_list hi
      simp [addition?, hj, hp]
  | merge j k =>
    cases hj : m.read j with
    | none => exact .inr (.inl ⟨by simp [use, hj], fun i _ => rfl⟩)
    | some a =>
      cases hk : m.read k with
      | none => exact .inr (.inl ⟨by simp [use, hj, hk], fun i _ => rfl⟩)
      | some b => exact .inl ⟨⟨a.merge b, by simp [use, hj, hk]⟩, fun i => rfl⟩

theorem size_le_use (m : Shelf) (u : Use) : m.size ≤ (m.use u).size := by
  rcases use_cases m u with ⟨⟨c, huse⟩, -⟩ | ⟨huse, -⟩ | ⟨j, d, p, -, -, huse⟩
  · rw [huse, size_put]
    omega
  · exact Nat.le_of_eq (congrArg size huse.symm)
  · rw [huse]
    exact Nat.le_refl _

theorem addition?_use (hi : i < m.size) (u : Use) : (m.use u).addition? i = m.addition? i := by
  rcases use_cases m u with ⟨⟨c, huse⟩, -⟩ | ⟨huse, -⟩ | ⟨j, d, p, -, -, huse⟩
  · rw [huse, addition?_put hi]
  · rw [huse]
  · rw [huse]
    rfl

/-- A collector keeps what it has, and gets what the use adds to the list that it holds. -/
theorem read_use (hi : i < m.size) (u : Use) :
    (m.use u).read i = (m.read i).map (·.merge ⟨(m.addition? i u).toList⟩) := by
  rcases use_cases m u with ⟨⟨c, huse⟩, hnone⟩ | ⟨huse, hnone⟩ | ⟨j, d, p, rfl, hj, huse⟩
  · rw [huse, read_put hi, hnone i]
    simp
  · rw [huse, hnone i hi]
    simp
  · rw [huse, read_write]
    by_cases hp : m.collectors[i]? = some p
    · have hsame : m.collectors[j]? = m.collectors[i]? := hj.trans hp.symm
      simp [addition?, hp, hsame, Diagnostics.add_eq_merge]
    · have hother : m.collectors[j]? ≠ m.collectors[i]? := fun h => hp (h ▸ hj)
      simp [addition?, hp, hother]

/-! ### Many uses -/

/-- Whatever is done, a collector keeps what it has, and gets what is added to the list that it
holds. -/
theorem read_play (hi : i < m.size) (uses : List Use) :
    (m.play uses).read i = (m.read i).map (·.merge ⟨m.additions i uses⟩) := by
  induction uses generalizing m with
  | nil => simp [play, additions]
  | cons u rest ih =>
    -- the rest is played on the shelf after `u`, where `i` still holds the same list
    have hrest := ih (Nat.lt_of_lt_of_le hi (size_le_use m u))
    have hadditions : m.additions i (u :: rest) =
        (m.addition? i u).toList ++ m.additions i rest := by
      cases h : m.addition? i u <;> simp [additions, h]
    rw [additions, addition?_use hi, read_use hi, Option.map_map] at hrest
    rw [play_cons, hrest, hadditions, additions]
    congr 1
    funext c
    simp [Diagnostics.merge]

/-- What a use adds to collector `i` itself. -/
def Use.onto (i : Nat) : Use → Option Diagnostic
  | add j d => if j = i then some d else none
  | _ => none

/-- A new collector holds a list that no other one holds. -/
theorem additions_put_size (m : Shelf) (c : Diagnostics) (uses : List Use) :
    (m.put c).additions m.size uses = uses.filterMap (Use.onto m.size) := by
  have hown : (m.put c).addition? m.size = Use.onto m.size := by
    funext u
    cases u with
    | create => rfl
    | merge j k => rfl
    | add j d =>
      have hsame : (m.put c).collectors[j]? = (m.put c).collectors[m.size]? ↔ j = m.size := by
        constructor
        · intro h
          rw [collectors_put_size] at h
          obtain ⟨hj, hget⟩ := List.getElem?_eq_some_iff.1 h
          by_contra hne
          have hlt : j < m.size := Nat.lt_of_le_of_ne (lt_size_put_iff.1 hj) hne
          obtain ⟨p, hp, hbound⟩ := exists_list hlt
          rw [collectors_put hlt, hp, Option.some.injEq] at h
          omega
        · rintro rfl
          rfl
      simp only [addition?, Use.onto, hsame]
  rw [additions, hown]

/-- After further uses the new collector, with number `n`, has what it was made of and what was
added to it itself.  All collectors of the shelf have what they had before it was made, and what
was added to the lists they hold: nothing that was added to the new one. -/
structure Apart (m : Shelf) (n : Nat) (c : Diagnostics) (later : List Use) (after : Shelf) :
    Prop where
  made : after.read n = some (c.merge ⟨later.filterMap (Use.onto n)⟩)
  older : ∀ i < m.size, after.read i = (m.read i).map (·.merge ⟨m.additions i later⟩)

theorem apart_put (m : Shelf) (c : Diagnostics) (later : List Use) :
    m.Apart m.size c later ((m.put c).play later) where
  made := by
    have hlt : m.size < (m.put c).size := lt_size_put_iff.2 (Nat.le_refl _)
    rw [read_play hlt, read_put_size, additions_put_size]
    rfl
  older i hi := by
    have hlt : i < (m.put c).size := lt_size_put_iff.2 (Nat.le_of_lt hi)
    rw [read_play hlt, read_put hi, additions, addition?_put hi, additions]

/-- Two collectors are put together apart from both. -/
theorem apart_merge (hi : m.read i = some a) (hj : m.read j = some b) (later : List Use) :
    m.Apart m.size (a.merge b) later ((m.use (.merge i j)).play later) := by
  have huse : m.use (.merge i j) = m.put (a.merge b) := by simp [use, hi, hj]
  rw [huse]
  exact apart_put m (a.merge b) later

/-- What is added to newer collectors only does not reach the older ones. -/
theorem additions_eq_nil (hi : i < m.size) {later : List Use}
    (h : ∀ k d, .add k d ∈ later → m.size ≤ k) : m.additions i later = [] := by
  obtain ⟨p, hp, -⟩ := exists_list hi
  rw [additions, List.filterMap_eq_nil_iff]
  intro u hu
  cases u with
  | create => rfl
  | merge j k => rfl
  | add k d =>
    have hnone : m.collectors[k]? = none := List.getElem?_eq_none (h k d hu)
    simp [addition?, hnone, hp]

theorem Apart.unchanged {n : Nat} {later : List Use} {after : Shelf}
    (h : m.Apart n c later after) (hlater : ∀ k d, .add k d ∈ later → m.size ≤ k)
    (hi : m.read i = some a) : after.read i = some a := by
  have hlt := lt_size_of_read hi
  rw [h.older i hlt, additions_eq_nil hlt hlater, hi]
  simp

/-! ### Many collectors put together -/

/-- Puts the collectors together with collector `n` one after another, by a new collector for each;
the last collector made so far is `n`. -/
def gatherFrom (n : Nat) : List Nat → List Use
  | [] => []
  | k :: rest => .merge n k :: gatherFrom (n + 1) rest

/-- Puts the collectors together, from an empty one on. -/
def gather (m : Shelf) (ks : List Nat) : List Use := .create :: gatherFrom m.size ks

/-- A new collector changes nothing for those that are there. -/
theorem map_read_put {ks : List Nat} {cs : List Diagnostics} (h : ks.map m.read = cs.map some)
    (c : Diagnostics) : ks.map (m.put c).read = cs.map some := by
  rw [← h]
  refine List.map_congr_left fun k hk => read_put ?_
  have hmem : m.read k ∈ cs.map some := by
    rw [← h]
    exact List.mem_map_of_mem hk
  obtain ⟨c', -, hread⟩ := List.mem_map.1 hmem
  exact lt_size_of_read hread.symm

theorem play_gatherFrom {ks : List Nat} {cs : List Diagnostics}
    (h : ks.map (m.put c).read = cs.map some) :
    ∃ m' : Shelf, (m.put c).play (gatherFrom m.size ks) = m'.put (cs.foldl Diagnostics.merge c) ∧
      m'.size = m.size + ks.length := by
  -- every merge puts the next shelf's collector, so the shelf that is put on varies too
  induction ks generalizing m c cs with
  | nil =>
    cases cs with
    | nil => exact ⟨m, rfl, rfl⟩
    | cons c' rest => cases h
  | cons k ks ih =>
    cases cs with
    | nil => cases h
    | cons c' cs =>
      simp only [List.map_cons, List.cons.injEq] at h
      obtain ⟨hk, hks⟩ := h
      have hmerge : (m.put c).use (.merge m.size k) = (m.put c).put (c.merge c') := by
        simp [use, read_put_size, hk]
      obtain ⟨m', hplay, hsize⟩ := ih (map_read_put hks (c.merge c'))
      rw [size_put] at hplay hsize
      refine ⟨m', ?_, ?_⟩
      · rw [gatherFrom, play_cons, hmerge, hplay, List.foldl_cons]
      · rw [hsize, List.length_cons]
        omega

theorem additions_gather (m : Shelf) (i : Nat) (ks : List Nat) (later : List Use) :
    m.additions i (m.gather ks ++ later) = m.additions i later := by
  have hfrom : ∀ n, (gatherFrom n ks).filterMap (m.addition? i) = [] := by
    induction ks with
    | nil => exact fun n => rfl
    | cons k rest ih => exact fun n => ih (n + 1)
  have hcreate : m.addition? i .create = none := rfl
  rw [additions, gather, List.cons_append, List.filterMap_cons_none hcreate, List.filterMap_append,
    hfrom, List.nil_append, additions]

/-- Many collectors are put together apart from all of them. -/
theorem apart_gather {ks : List Nat} {cs : List Diagnostics} (h : ks.map m.read = cs.map some)
    (later : List Use) :
    m.Apart (m.size + ks.length) (cs.foldl Diagnostics.merge {}) later
      ((m.play (m.gather ks)).play later) := by
  constructor
  case made =>
    obtain ⟨m', hplay, hsize⟩ := play_gatherFrom (map_read_put h {})
    have hgather : m.play (m.gather ks) = m'.put (cs.foldl Diagnostics.merge {}) := hplay
    rw [hgather, ← hsize]
    exact (apart_put m' _ later).made
  case older =>
    intro i hi
    rw [← play_append, read_play hi, additions_gather]

end Shelf

end SchemaSheets
