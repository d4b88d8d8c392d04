import SchemaSheets.Proofs.Steps
import SchemaSheets.Schema.Parser

/-!
# What rules read

A rule of the grammar takes tokens from the front of the items that it is given
and leaves the others as they are.  `Reads` says so, together with a relation
between what the passed tokens say and what was read.
-/

namespace SchemaSheets.Schema

open Steps

/-- What a token says; a fault says nothing. -/
def Item.lexeme? : Item → Option Lexeme
  | .token lexeme _ => some lexeme
  | .fault .. => none

/-- What the tokens among the items say. -/
def lexemes (items : List Item) : List Lexeme := items.filterMap Item.lexeme?

@[simp] theorem lexemes_nil : lexemes [] = [] := rfl

@[simp] theorem lexemes_token (l : Lexeme) (left : Nat) (items : List Item) :
    lexemes (.token l left :: items) = l :: lexemes items := rfl

@[simp] theorem lexemes_append (items more : List Item) :
    lexemes (items ++ more) = lexemes items ++ lexemes more := List.filterMap_append ..

theorem mem_lexemes_iff {items : List Item} {l : Lexeme} :
    l ∈ lexemes items ↔ ∃ left, .token l left ∈ items := by
  rw [lexemes, List.mem_filterMap]
  constructor
  · rintro ⟨item, hitem, hl⟩
    cases item with
    | token l' left =>
      obtain rfl : l' = l := Option.some.inj hl
      exact ⟨left, hitem⟩
    | fault fault left => exact nomatch hl
  · rintro ⟨left, hitem⟩
    exact ⟨.token l left, hitem, rfl⟩

namespace Parse

variable {α β : Type} {p : Parse α} {R S : List Lexeme → α → Prop} {T : List Lexeme → β → Prop}
  {items rest : List Item} {a : α} {b : β} {l : Lexeme} {left : Nat}

theorem run_bind_eq_ok_iff {k : α → Parse β} : (p >>= k).run items = .ok (b, rest) ↔
    ∃ a mid, p.run items = .ok (a, mid) ∧ (k a).run mid = .ok (b, rest) := by
  rw [StateT.run_bind]
  constructor
  · intro h
    obtain ⟨⟨a, mid⟩, hp, hk⟩ := bind_eq_ok_iff.1 h
    exact ⟨a, mid, hp, hk⟩
  · rintro ⟨a, mid, hp, hk⟩
    exact bind_eq_ok_iff.2 ⟨(a, mid), hp, hk⟩

/-! ### Reading -/

/-- What a rule leaves of these items is an end of them, and the tokens before it stand in a
relation to what it read. -/
def ReadsAt (items : List Item) (p : Parse α) (R : List Lexeme → α → Prop) : Prop :=
  ∀ ⦃a rest⦄, p.run items = .ok (a, rest) → ∃ passed, items = passed ++ rest ∧ R (lexemes passed) a

/-- The same of all items. -/
def Reads (p : Parse α) (R : List Lexeme → α → Prop) : Prop := ∀ items, ReadsAt items p R

/-- A rule leaves an end of what it is given. -/
def Passes (p : Parse α) : Prop := Reads p fun _ _ => True

theorem Reads.mono (hp : Reads p R) (h : ∀ ls a, R ls a → S ls a) : Reads p S := by
  intro items a rest hrun
  obtain ⟨passed, hitems, hread⟩ := hp items hrun
  exact ⟨passed, hitems, h _ _ hread⟩

theorem Reads.passes (hp : Reads p R) : Passes p := hp.mono fun _ _ _ => trivial

theorem ReadsAt.pure (h : R [] a) : ReadsAt items (pure a) R := by
  rintro a rest ⟨⟩
  exact ⟨[], rfl, h⟩

theorem ReadsAt.throw {stop : Stop} : ReadsAt items (throw stop) R := nofun

theorem ReadsAt.bind {k : α → Parse β} (hp : ReadsAt items p R)
    (hk : ∀ a ls, R ls a → Reads (k a) fun more b => T (ls ++ more) b) :
    ReadsAt items (p >>= k) T := by
  intro b rest hrun
  obtain ⟨a, mid, hfirst, hsecond⟩ := run_bind_eq_ok_iff.1 hrun
  obtain ⟨front, rfl, hfront⟩ := hp hfirst
  obtain ⟨back, rfl, hback⟩ := hk a _ hfront mid hsecond
  exact ⟨front ++ back, (List.append_assoc ..).symm, by rwa [lexemes_append]⟩

theorem Reads.pure (h : R [] a) : Reads (pure a) R := fun _ => .pure h

theorem Reads.throw {stop : Stop} : Reads (throw stop) R := fun _ => .throw

theorem Reads.bind {k : α → Parse β} (hp : Reads p R)
    (hk : ∀ a ls, R ls a → Reads (k a) fun more b => T (ls ++ more) b) : Reads (p >>= k) T :=
  fun items => (hp items).bind hk

theorem Passes.pure : Passes (pure a) := Reads.pure trivial

theorem Passes.bind {k : α → Parse β} (hp : Passes p) (hk : ∀ a, Passes (k a)) : Passes (p >>= k) :=
  Reads.bind hp fun a _ _ => hk a

/-- A rule before another, where only the result of the other matters. -/
theorem Passes.gives {k : α → Parse β} {P : β → Prop} (hp : Passes p)
    (hk : ∀ a, Reads (k a) fun _ b => P b) : Reads (p >>= k) fun _ b => P b :=
  Reads.bind hp fun a _ _ => hk a

/-! ### Looking ahead -/

theorem ahead_eq_ok {distance : Nat} (h : (ahead distance).run items = .ok ((l, left), rest)) :
    rest = items ∧ (l ≠ .endOfFile → items[distance]? = some (.token l left)) := by
  obtain ⟨_, mid, ⟨⟩, h⟩ := run_bind_eq_ok_iff.1 h
  split at h
  next hitem =>
    obtain ⟨⟩ := h
    exact ⟨rfl, fun _ => hitem⟩
  next => exact nomatch h
  next =>
    obtain ⟨⟩ := h
    exact ⟨rfl, fun hl => absurd rfl hl⟩

/-- Looking ahead takes nothing, and what it shows, unless it is the end, is there. -/
theorem readsAt_ahead {distance : Nat} {k : Lexeme × Nat → Parse β}
    (hk : ∀ l left, (l ≠ .endOfFile → items[distance]? = some (.token l left)) →
      ReadsAt items (k (l, left)) T) : ReadsAt items (ahead distance >>= k) T := by
  intro b rest h
  obtain ⟨⟨l, left⟩, mid, hlook, hrun⟩ := run_bind_eq_ok_iff.1 h
  obtain ⟨rfl, hitem⟩ := ahead_eq_ok hlook
  exact hk l left hitem hrun

/-- The next item is the token, unless that is the end. -/
def Next (items : List Item) (l : Lexeme) : Prop :=
  l ≠ .endOfFile → ∃ left tail, items = .token l left :: tail

theorem next_of_getElem (h : l ≠ .endOfFile → items[0]? = some (.token l left)) : Next items l := by
  intro hl
  cases items with
  | nil => exact nomatch h hl
  | cons item tail => exact ⟨left, tail, by rw [Option.some.inj (h hl)]⟩

theorem readsAt_current {k : Lexeme × Nat → Parse β}
    (hk : ∀ l left, Next items l → ReadsAt items (k (l, left)) T) :
    ReadsAt items (current >>= k) T :=
  readsAt_ahead fun l left hitem => hk l left (next_of_getElem hitem)

theorem readsAt_current_token {k : Lexeme × Nat → Parse β}
    (hk : ReadsAt (.token l left :: items) (k (l, left)) T) :
    ReadsAt (.token l left :: items) (current >>= k) T := hk

theorem readsAt_peek {k : Lexeme → Parse β} (hk : ∀ l, Next items l → ReadsAt items (k l) T) :
    ReadsAt items (peek >>= k) T := by
  have hlook : peek >>= k = current >>= fun found => k found.1 := by
    simp only [peek, bind_assoc, pure_bind]
  rw [hlook]
  exact readsAt_current fun l _ hnext => hk l hnext

theorem reads_peek {k : Lexeme → Parse β} (hk : ∀ l, Reads (k l) T) : Reads (peek >>= k) T :=
  fun items => readsAt_peek fun l _ => hk l items

theorem reads_current {k : Lexeme × Nat → Parse β} (hk : ∀ found, Reads (k found) T) :
    Reads (current >>= k) T :=
  fun items => readsAt_current fun l left _ => hk (l, left) items

theorem reads_get {k : List Item → Parse β} (hk : ∀ items, Reads (k items) T) :
    Reads (get >>= k) T := by
  intro items b rest h
  obtain ⟨_, mid, ⟨⟩, h⟩ := run_bind_eq_ok_iff.1 h
  exact hk _ _ h

theorem reads_unexpected : Reads unexpected R := reads_current fun _ => .throw

theorem reads_tooDeep : Reads tooDeep R := reads_current fun _ => .throw

/-! ### Single tokens -/

theorem advance_eq_ok {u : Unit} (h : advance.run items = .ok (u, rest)) : rest = items.tail := by
  obtain ⟨_, mid, ⟨⟩, h⟩ := run_bind_eq_ok_iff.1 h
  obtain ⟨⟨l, left⟩, mid, hcurrent, ⟨⟩⟩ := run_bind_eq_ok_iff.1 h
  exact (ahead_eq_ok hcurrent).1

theorem readsAt_advance : ReadsAt (.token l left :: items) advance fun ls _ => ls = [l] := by
  intro u rest h
  rw [advance_eq_ok h]
  exact ⟨[.token l left], rfl, rfl⟩

theorem readsAt_advance_bind {k : Unit → Parse β}
    (hk : ReadsAt items (k ()) fun ls b => T (l :: ls) b) :
    ReadsAt (.token l left :: items) (advance >>= k) T := by
  intro b rest h
  obtain ⟨u, mid, hadvance, hrun⟩ := run_bind_eq_ok_iff.1 h
  obtain rfl := advance_eq_ok hadvance
  obtain ⟨passed, rfl, hread⟩ := hk hrun
  exact ⟨.token l left :: passed, rfl, hread⟩

theorem Next.reads_advance (hnext : Next items l) (hl : l ≠ .endOfFile) :
    ReadsAt items advance fun ls _ => ls = [l] := by
  obtain ⟨left, tail, rfl⟩ := hnext hl
  exact readsAt_advance

theorem passes_advance : Passes advance := by
  intro items _ rest h
  rw [advance_eq_ok h]
  exact ⟨items.take 1, (List.take_append_drop 1 items).symm.trans (by rw [List.drop_one]), trivial⟩

theorem reads_expect {what : Lexeme} (hwhat : what ≠ .endOfFile) (shown : String) :
    Reads (expect what shown) fun ls _ => ls = [what] := by
  refine fun items => readsAt_current fun l left hnext => ?_
  dsimp only
  split
  next hfound =>
    obtain rfl : l = what := hfound
    exact hnext.reads_advance hwhat
  next => exact .throw

theorem reads_mark (m : Mark) : Reads (mark m) fun ls _ => ls = [.mark m] :=
  reads_expect Lexeme.noConfusion _

theorem reads_keyword (s : String) : Reads (keyword s) fun ls _ => ls = [.name s] :=
  reads_expect Lexeme.noConfusion _

theorem reads_skip {what : Lexeme} (hwhat : what ≠ .endOfFile) :
    Reads (skip what) fun ls b => ls = if b then [what] else [] := by
  refine fun items => readsAt_peek fun l hnext => ?_
  split
  next hfound =>
    obtain rfl : l = what := hfound
    refine (hnext.reads_advance hwhat).bind fun _ ls hls => .pure ?_
    simpa using hls
  next => exact .pure rfl

theorem reads_name : Reads name fun ls s => ls = [.name s] := by
  refine fun items => readsAt_current fun l left hnext => ?_
  cases l with
  | name s =>
    refine (hnext.reads_advance Lexeme.noConfusion).bind fun _ ls hls => .pure ?_
    simpa using hls
  | _ => exact .throw

/-- The tokens of a description. -/
inductive Describes : List Lexeme → Option String → Prop where
  | none : Describes [] none
  | text (s : String) : Describes [.text s] (some s)
  | block (s : String) : Describes [.block s] (some s)

theorem reads_description : Reads description Describes := by
  refine fun items => readsAt_peek fun l hnext => ?_
  cases l with
  | text s =>
    refine (hnext.reads_advance Lexeme.noConfusion).bind fun _ ls hls => .pure ?_
    rw [hls]
    exact .text s
  | block s =>
    refine (hnext.reads_advance Lexeme.noConfusion).bind fun _ ls hls => .pure ?_
    rw [hls]
    exact .block s
  | _ => exact .pure .none

/-! ### Sequences -/

/-- The tokens of several pieces between two marks; no marks stand around nothing. -/
def between (opening close : Mark) : List (List Lexeme) → List Lexeme
  | [] => []
  | segments => .mark opening :: (segments.flatten ++ [.mark close])

/-- The tokens fall into pieces, one for each of the things. -/
def InPieces (R : List Lexeme → α → Prop) (written : List (List Lexeme) → List Lexeme)
    (ls : List Lexeme) (as : List α) : Prop :=
  ∃ segments, List.Forall₂ R segments as ∧ ls = written segments

theorem flatten_subset_between (opening close : Mark) (segments : List (List Lexeme)) :
    segments.flatten ⊆ between opening close segments := by
  cases segments with
  | nil => exact List.Subset.refl _
  | cons segment segments =>
    intro l hl
    exact List.mem_cons_of_mem _ (List.mem_append_left _ hl)

/-- Each of the things has a piece, whose tokens are among those of all pieces. -/
theorem exists_piece {segments : List (List Lexeme)} {as : List α}
    (h : List.Forall₂ R segments as) (ha : a ∈ as) :
    ∃ segment, R segment a ∧ segment ⊆ segments.flatten := by
  induction h with
  | nil => exact nomatch ha
  | @cons segment b segments as hsegment _ ih =>
    rw [List.flatten_cons]
    rcases List.mem_cons.1 ha with rfl | ha
    · exact ⟨segment, hsegment, List.subset_append_left _ _⟩
    · obtain ⟨piece, hpiece, hsubset⟩ := ih ha
      exact ⟨piece, hpiece, List.subset_append_of_subset_right _ hsubset⟩

theorem reads_upTo (close : Mark) (hp : Reads p R) (fuel : Nat) :
    Reads (upTo close p fuel) (InPieces R fun segments => segments.flatten ++ [.mark close]) := by
  induction fuel with
  | zero => exact reads_unexpected
  | succ fuel ih =>
    refine (reads_skip Lexeme.noConfusion).bind fun b ls hls => ?_
    subst hls
    cases b with
    | true => exact .pure ⟨[], .nil, rfl⟩
    | false =>
      refine hp.bind fun a segment ha => ih.bind fun as more hmore => .pure ?_
      obtain ⟨segments, hsegments, rfl⟩ := hmore
      exact ⟨segment :: segments, .cons ha hsegments, by simp⟩

theorem reads_anyUpTo (close : Mark) (hp : Reads p R) :
    Reads (anyUpTo close p) (InPieces R fun segments => segments.flatten ++ [.mark close]) :=
  reads_get fun _ => reads_upTo close hp _

theorem passes_anyBetween (opening close : Mark) (hp : Passes p) :
    Passes (anyBetween opening p close) :=
  (reads_mark opening).passes.bind fun _ => (reads_anyUpTo close hp).passes

theorem reads_atLeastOne (opening close : Mark) (hp : Reads p R) :
    Reads (atLeastOne opening p close) (InPieces R (between opening close)) := by
  refine (reads_mark opening).bind fun _ ls hls => hp.bind fun a segment ha =>
    (reads_anyUpTo close hp).bind fun as more hmore => .pure ?_
  obtain ⟨segments, hsegments, rfl⟩ := hmore
  exact ⟨segment :: segments, .cons ha hsegments, by simp [hls, between]⟩

theorem reads_optional (opening close : Mark) (hp : Reads p R) :
    Reads (Parse.optional opening p close) (InPieces R (between opening close)) := by
  refine reads_peek fun l => ?_
  split
  · exact reads_atLeastOne opening close hp
  · exact .pure ⟨[], .nil, rfl⟩

theorem passes_separatedRest (separator : Mark) (hp : Passes p) (fuel : Nat) :
    Passes (separatedRest separator p fuel) := by
  induction fuel with
  | zero => exact .pure
  | succ fuel ih =>
    refine (reads_skip Lexeme.noConfusion).passes.bind fun b => ?_
    cases b with
    | true => exact hp.bind fun _ => ih.bind fun _ => .pure
    | false => exact .pure

theorem passes_separated (separator : Mark) (hp : Passes p) : Passes (separated separator p) :=
  (reads_skip Lexeme.noConfusion).passes.bind fun _ => hp.bind fun _ =>
    reads_get fun _ => (passes_separatedRest separator hp _).bind fun _ => .pure

/-! ### Values and directives -/

theorem passes_name : Passes name := reads_name.passes

theorem passes_mark (m : Mark) : Passes (mark m) := (reads_mark m).passes

theorem passes_description : Passes description := reads_description.passes

theorem passes_skip {what : Lexeme} (hwhat : what ≠ .endOfFile) : Passes (skip what) :=
  (reads_skip hwhat).passes

theorem passes_plainValue (constant : Bool) : Passes (plainValue constant) := by
  refine reads_current fun found => ?_
  dsimp only
  split
  case h_6 =>
    refine passes_advance.bind fun _ => ?_
    split
    · refine reads_peek fun l => ?_
      split <;> exact .throw
    · exact passes_name.bind fun _ => .pure
  all_goals first
    | exact .throw
    | exact passes_advance.bind fun _ => .pure

theorem passes_value (constant : Bool) (room : Nat) : Passes (value constant room) := by
  induction room with
  | zero =>
    refine reads_peek fun l => ?_
    split
    · exact reads_tooDeep
    · exact reads_tooDeep
    · exact passes_plainValue constant
  | succ room ih =>
    refine reads_peek fun l => ?_
    split
    · exact (passes_anyBetween _ _ ih).bind fun _ => .pure
    · refine Passes.bind (passes_anyBetween _ _ ?_) fun _ => .pure
      exact passes_name.bind fun _ => (passes_mark _).bind fun _ => ih.bind fun _ => .pure
    · exact passes_plainValue constant

theorem passes_arguments (constant : Bool) (room : Nat) : Passes (arguments constant room) := by
  have hargument : Passes (argument constant room) :=
    passes_name.bind fun _ => (passes_mark _).bind fun _ => reads_current fun _ =>
      (passes_value constant room).bind fun _ => .pure
  exact (reads_optional _ _ hargument).passes

/-- Directives, if there are any, start with their mark. -/
theorem reads_directivesFrom (constant : Bool) (room fuel : Nat) :
    Reads (directivesFrom constant room fuel) fun ls _ => ∀ l ∈ ls.head?, l = .mark .at := by
  induction fuel with
  | zero => exact .pure nofun
  | succ fuel ih =>
    refine (reads_skip Lexeme.noConfusion).bind fun b ls hls => ?_
    subst hls
    cases b with
    | true =>
      refine (passes_name.bind fun _ => (passes_arguments constant room).bind fun _ =>
        ih.passes.bind fun _ => .pure).mono fun ls ds _ => ?_
      simp
    | false => exact .pure nofun

theorem reads_directives (constant : Bool) (room : Nat) :
    Reads (directives constant room) fun ls _ => ∀ l ∈ ls.head?, l = .mark .at :=
  reads_get fun _ => reads_directivesFrom constant room _

theorem passes_directives (constant : Bool) (room : Nat) : Passes (directives constant room) :=
  (reads_directives constant room).passes

theorem passes_fallback [Capacity] : Passes fallback := by
  refine (passes_skip Lexeme.noConfusion).bind fun b => ?_
  cases b with
  | true => exact (passes_value true _).bind fun _ => .pure
  | false => exact .pure

end Parse

end SchemaSheets.Schema
