import Mathlib.Data.List.TakeWhile
import SchemaSheets.Console.Terminal
import SchemaSheets.Proofs.Text.Bounded

/-!
# Rendering markup

Escaped text renders, whatever it says: each of its tags stands behind an odd number of backslashes
and is shown.  So does text without brackets between tags that open and close a style in turn.  No
tag of these texts says more than a name, so every terminal renders them.
-/

namespace SchemaSheets.Markup

variable {cs rest inside after : List Char} {c : Char} {k n : Nat} {stack : List String}

/-! ### Tags -/

/-- The inside of a tag: it starts as tags do and holds no bracket. -/
structure IsInside (inside : List Char) : Prop where
  starts : ∃ c ∈ inside.head?, startsTag c
  unbracketed : ∀ x ∈ inside, x ≠ '[' ∧ x ≠ ']'

theorem startsTag_ne (h : startsTag c) : c ≠ '[' ∧ c ≠ ']' := by
  constructor
  · rintro rfl
    exact absurd h (by decide)
  · rintro rfl
    exact absurd h (by decide)

theorem takeWhile_inside (h : ∀ x ∈ inside, x ≠ '[' ∧ x ≠ ']') :
    (inside ++ ']' :: after).takeWhile (fun x => x != '[' && x != ']') = inside := by
  induction inside with
  | nil => rfl
  | cons x inside ih =>
    have hx := h x List.mem_cons_self
    have hrest := ih fun y hy => h y (List.mem_cons_of_mem _ hy)
    rw [List.cons_append, List.takeWhile_cons_of_pos (by simp [hx]), hrest]

theorem tag?_eq_some_iff :
    tag? cs = some (inside, after) ↔ IsInside inside ∧ cs = '[' :: inside ++ ']' :: after := by
  constructor
  · intro h
    unfold tag? at h
    split at h
    next c rest =>
      dsimp only at h
      have hsplit : rest.takeWhile (fun x => x != '[' && x != ']') ++
          rest.drop (rest.takeWhile fun x => x != '[' && x != ']').length = rest :=
        List.prefix_iff_eq_append.1 (List.takeWhile_prefix _)
      split at h
      next after' hdrop =>
        rw [hdrop] at hsplit
        by_cases hstarts : startsTag c
        · rw [if_pos hstarts] at h
          cases h
          refine ⟨⟨⟨c, rfl, hstarts⟩, ?_⟩, ?_⟩
          · rintro x (_ | ⟨_, hx⟩)
            · exact startsTag_ne hstarts
            · simpa using List.mem_takeWhile_imp hx
          · rw [List.cons_append, List.cons_append, hsplit]
        · rw [if_neg hstarts] at h
          cases h
      next => cases h
    next => cases h
  · rintro ⟨⟨⟨c, hc, hstarts⟩, hunbracketed⟩, rfl⟩
    cases inside with
    | nil => cases hc
    | cons x more =>
      cases hc
      have htake : (more ++ ']' :: after).takeWhile (fun x => x != '[' && x != ']') = more :=
        takeWhile_inside fun x hx => hunbracketed x (List.mem_cons_of_mem _ hx)
      simp [tag?, htake, hstarts]

theorem takeWhile_backslashes (h : ∀ d ∈ rest.head?, d ≠ '\\') :
    (List.replicate k '\\' ++ rest).takeWhile (· == '\\') = List.replicate k '\\' := by
  induction k with
  | zero =>
    cases rest with
    | nil => rfl
    | cons d rest => simp [h d rfl]
  | succ k ih => simp [List.replicate_succ, ih]

theorem escapedTag?_eq_some_iff :
    escapedTag? cs = some (k, inside, after) ↔
      IsInside inside ∧ cs = List.replicate k '\\' ++ '[' :: inside ++ ']' :: after := by
  have hslashes : List.replicate (cs.takeWhile (· == '\\')).length '\\' =
      cs.takeWhile (· == '\\') :=
    (List.eq_replicate_iff.2 ⟨rfl, fun x hx => by simpa using List.mem_takeWhile_imp hx⟩).symm
  have hsplit : cs.takeWhile (· == '\\') ++ cs.drop (cs.takeWhile (· == '\\')).length = cs :=
    List.prefix_iff_eq_append.1 (List.takeWhile_prefix _)
  constructor
  · intro h
    simp only [escapedTag?, Option.map_eq_some_iff] at h
    obtain ⟨⟨inside', after'⟩, htag, he⟩ := h
    cases he
    obtain ⟨hinside, hdrop⟩ := tag?_eq_some_iff.1 htag
    refine ⟨hinside, ?_⟩
    rw [hslashes, List.append_assoc, ← hdrop, hsplit]
  · rintro ⟨hinside, rfl⟩
    have htake : ((List.replicate k '\\' ++ '[' :: inside ++ ']' :: after).takeWhile
        (· == '\\')).length = k := by
      rw [List.append_assoc, takeWhile_backslashes (by simp), List.length_replicate]
    have htag : tag? ('[' :: inside ++ ']' :: after) = some (inside, after) :=
      tag?_eq_some_iff.2 ⟨hinside, rfl⟩
    have hdrop : (List.replicate k '\\' ++ '[' :: inside ++ ']' :: after).drop k =
        '[' :: inside ++ ']' :: after := by
      rw [List.append_assoc, List.drop_left' List.length_replicate]
    simp only [escapedTag?, htake, hdrop, htag, Option.map_some]

/-- A character that neither starts a tag nor stands before one. -/
def IsOrdinary (c : Char) : Prop := c ≠ '[' ∧ c ≠ '\\'

instance : DecidablePred IsOrdinary := fun _ => inferInstanceAs (Decidable (_ ∧ _))

theorem escapedTag?_of_ordinary (h : IsOrdinary c) : escapedTag? (c :: cs) = none := by
  simp [escapedTag?, h.2, tag?, h.1]

/-! ### Escaping -/

theorem escapeFrom_of_none (h : escapedTag? (c :: cs) = none) :
    escapeFrom (n + 1) (c :: cs) = c :: escapeFrom n cs := by
  rw [escapeFrom, h]

theorem escapeFrom_of_some (h : escapedTag? (c :: cs) = some (k, inside, after)) :
    escapeFrom (n + 1) (c :: cs) =
      List.replicate (2 * k + 1) '\\' ++ '[' :: inside ++ ']' :: escapeFrom n after := by
  simp only [escapeFrom, h, List.append_assoc, List.cons_append]

theorem escapedTag?_length (h : escapedTag? cs = some (k, inside, after)) :
    after.length < cs.length := by
  obtain ⟨-, rfl⟩ := escapedTag?_eq_some_iff.1 h
  simp
  omega

/-- A bracket that closes is not behind a bracket that opens. -/
theorem unbracketed_ne {l r : List Char} (h : ∀ x ∈ l, x ≠ '[' ∧ x ≠ ']') :
    l ++ ']' :: r ≠ List.replicate k '\\' ++ '[' :: inside := by
  induction k generalizing l with
  | zero =>
    cases l with
    | nil => simp
    | cons x l => simpa using fun hx => absurd hx (h x List.mem_cons_self).1
  | succ k ih =>
    cases l with
    | nil => simp [List.replicate_succ]
    | cons x l =>
      intro he
      rw [List.replicate_succ] at he
      exact ih (fun y hy => h y (List.mem_cons_of_mem _ hy)) (List.cons.inj he).2

/-- What stands before the first bracket is not changed, if this one closes. -/
theorem eq_append_of_escapeFrom {l r : List Char} (h : ∀ x ∈ l, x ≠ '[' ∧ x ≠ ']')
    (hlength : cs.length ≤ n) (he : escapeFrom n cs = l ++ ']' :: r) :
    ∃ r', cs = l ++ ']' :: r' := by
  induction l generalizing n cs with
  | nil =>
    cases cs with
    | nil => cases n <;> simp [escapeFrom] at he
    | cons c cs =>
      obtain ⟨n, rfl⟩ : ∃ m, n = m + 1 := ⟨n - 1, by simp at hlength; omega⟩
      cases htag : escapedTag? (c :: cs) with
      | none =>
        rw [escapeFrom_of_none htag] at he
        exact ⟨cs, by rw [(List.cons.inj he).1, List.nil_append]⟩
      | some t =>
        rw [escapeFrom_of_some htag, List.append_assoc] at he
        exact absurd he.symm (unbracketed_ne (by simp))
  | cons x l ih =>
    cases cs with
    | nil => cases n <;> simp [escapeFrom] at he
    | cons c cs =>
      obtain ⟨n, rfl⟩ : ∃ m, n = m + 1 := ⟨n - 1, by simp at hlength; omega⟩
      cases htag : escapedTag? (c :: cs) with
      | none =>
        rw [escapeFrom_of_none htag] at he
        obtain ⟨rfl, hrest⟩ := List.cons.inj he
        obtain ⟨r', rfl⟩ := ih (fun y hy => h y (List.mem_cons_of_mem _ hy))
          (by simp at hlength; omega) hrest
        exact ⟨r', rfl⟩
      | some t =>
        rw [escapeFrom_of_some htag, List.append_assoc] at he
        exact absurd he.symm (unbracketed_ne h)

/-- Escaping makes no tag where there was none. -/
theorem escapedTag?_escapeFrom (hlength : cs.length ≤ n) (h : escapedTag? cs = none) :
    escapedTag? (escapeFrom n cs) = none := by
  rw [Option.eq_none_iff_forall_not_mem]
  rintro ⟨k, inside, after⟩ hsome
  obtain ⟨hinside, he⟩ := escapedTag?_eq_some_iff.1 hsome
  clear hsome
  induction k generalizing n cs with
  | zero =>
    cases cs with
    | nil => cases n <;> simp [escapeFrom] at he
    | cons c cs =>
      obtain ⟨n, rfl⟩ : ∃ m, n = m + 1 := ⟨n - 1, by simp at hlength; omega⟩
      rw [escapeFrom_of_none h] at he
      obtain ⟨rfl, hrest⟩ := List.cons.inj he
      obtain ⟨r, rfl⟩ := eq_append_of_escapeFrom hinside.unbracketed
        (by simp at hlength; omega) hrest
      have htag : escapedTag? ('[' :: (inside ++ ']' :: r)) = some (0, inside, r) :=
        escapedTag?_eq_some_iff.2 ⟨hinside, rfl⟩
      rw [h] at htag
      cases htag
  | succ k ih =>
    cases cs with
    | nil => cases n <;> simp [escapeFrom] at he
    | cons c cs =>
      obtain ⟨n, rfl⟩ : ∃ m, n = m + 1 := ⟨n - 1, by simp at hlength; omega⟩
      rw [escapeFrom_of_none h, List.replicate_succ] at he
      obtain ⟨rfl, hrest⟩ := List.cons.inj he
      cases htag : escapedTag? cs with
      | none => exact ih (by simp at hlength; omega) htag hrest
      | some t =>
        obtain ⟨hinside', hcs⟩ := escapedTag?_eq_some_iff.1 htag
        have hlonger : escapedTag? ('\\' :: cs) = some (t.1 + 1, t.2.1, t.2.2) :=
          escapedTag?_eq_some_iff.2 ⟨hinside', by rw [hcs, List.replicate_succ]; rfl⟩
        rw [h] at hlonger
        cases hlonger

/-- A backslash at the end makes no tag. -/
theorem escapedTag?_append_backslash (h : escapedTag? cs = none) :
    escapedTag? (cs ++ ['\\']) = none := by
  rw [Option.eq_none_iff_forall_not_mem]
  rintro ⟨k, inside, after⟩ hsome
  obtain ⟨hinside, he⟩ := escapedTag?_eq_some_iff.1 hsome
  rcases after.eq_nil_or_concat with rfl | ⟨after, d, rfl⟩
  · have hlast := (List.append_inj' he rfl).2
    exact absurd hlast (by decide)
  · rw [List.concat_eq_append, ← List.cons_append, ← List.append_assoc] at he
    have hcs := (List.append_inj' he rfl).1
    have htag := escapedTag?_eq_some_iff.2 ⟨hinside, hcs⟩
    rw [h] at htag
    cases htag

/-! ### Rendering -/

/-- The pieces can be shown where the given tags are open, and their tags are bare. -/
structure Shows (stack : List String) (pieces : List Piece) : Prop where
  shown : ∃ shown, shownFrom stack pieces = .ok shown
  bare : ∀ position inside, .tag position inside ∈ pieces → isBare inside = true

theorem shows_nil (stack : List String) : Shows stack [] := ⟨⟨[], rfl⟩, nofun⟩

theorem Shows.text {pieces : List Piece} (h : Shows stack pieces) (cs : List Char) :
    Shows stack (.text cs :: pieces) := by
  obtain ⟨shown, hshown⟩ := h.shown
  constructor
  · rw [shownFrom, hshown]
    exact ⟨_, rfl⟩
  · intro position inside htag
    simp only [List.mem_cons, reduceCtorEq, false_or] at htag
    exact h.bare position inside htag

theorem Shows.tag {stack' : List String} {pieces : List Piece} {position : Nat}
    (hbare : isBare inside = true) (hopen : openAfter stack position inside = .ok stack')
    (h : Shows stack' pieces) : Shows stack (.tag position inside :: pieces) := by
  obtain ⟨shown, hshown⟩ := h.shown
  constructor
  · refine ⟨shown, ?_⟩
    rw [shownFrom, hopen]
    exact hshown
  · intro position' inside' htag
    rcases List.mem_cons.1 htag with he | hrest
    · cases he
      exact hbare
    · exact h.bare position' inside' hrest

theorem Shows.textThen {pieces : List Piece} (h : Shows stack pieces) (cs : List Char) :
    Shows stack (textThen cs pieces) := by
  unfold Markup.textThen
  split
  · exact h
  · exact h.text cs

/-- The text can be rendered where the given tags are open, and its tags are bare. -/
def Renders (stack : List String) (cs : List Char) : Prop :=
  ∀ n position plain, cs.length ≤ n → Shows stack (piecesFrom n position plain cs)

theorem renders_nil (stack : List String) : Renders stack [] := by
  intro n position plain _
  rw [piecesFrom]
  exact (shows_nil stack).textThen _

theorem Renders.cons (h : escapedTag? (c :: cs) = none) (hrest : Renders stack cs) :
    Renders stack (c :: cs) := by
  intro n position plain hlength
  cases n with
  | zero => simp at hlength
  | succ n =>
    rw [piecesFrom, h]
    exact hrest n _ _ (by simpa using hlength)

theorem Renders.ordinary (h : ∀ c ∈ cs, IsOrdinary c) (hrest : Renders stack rest) :
    Renders stack (cs ++ rest) := by
  induction cs with
  | nil => exact hrest
  | cons c cs ih =>
    have htail := ih fun d hd => h d (List.mem_cons_of_mem _ hd)
    exact htail.cons (escapedTag?_of_ordinary (h c List.mem_cons_self))

theorem unbracketed_append_ne (h : '[' ∉ cs) (hnext : ∀ d ∈ rest.head?, IsOrdinary d) :
    cs ++ rest ≠ List.replicate k '\\' ++ '[' :: inside := by
  induction cs generalizing k with
  | nil =>
    rintro rfl
    cases k with
    | zero => exact (hnext '[' rfl).1 rfl
    | succ k => exact (hnext '\\' rfl).2 rfl
  | cons c cs ih =>
    intro he
    cases k with
    | zero => exact h ((List.cons.inj he).1 ▸ List.mem_cons_self)
    | succ k => exact ih (fun hmem => h (List.mem_cons_of_mem _ hmem)) (List.cons.inj he).2

/-- A text without opening brackets, before something that cannot be taken for a tag with it. -/
theorem Renders.unbracketed (h : '[' ∉ cs) (hnext : ∀ d ∈ rest.head?, IsOrdinary d)
    (hrest : Renders stack rest) : Renders stack (cs ++ rest) := by
  induction cs with
  | nil => exact hrest
  | cons c cs ih =>
    have htail := ih fun hmem => h (List.mem_cons_of_mem _ hmem)
    apply htail.cons
    rw [Option.eq_none_iff_forall_not_mem]
    rintro ⟨k, inside, after⟩ hsome
    obtain ⟨-, he⟩ := escapedTag?_eq_some_iff.1 hsome
    rw [List.append_assoc] at he
    exact unbracketed_append_ne h hnext he

/-- A tag behind an odd number of backslashes is shown. -/
theorem Renders.shown (h : escapedTag? cs = some (k, inside, after)) (hodd : k % 2 = 1)
    (hafter : Renders stack after) : Renders stack cs := by
  intro n position plain hlength
  have hshorter := escapedTag?_length h
  cases cs with
  | nil => simp at hshorter
  | cons c cs =>
    cases n with
    | zero => simp at hlength
    | succ n =>
      rw [piecesFrom, h]
      simp only [if_pos hodd]
      have hrest := hafter n (position + k + inside.length + 2) []
        (by simp at hlength hshorter; omega)
      exact ((hrest.text _).textThen _).textThen _

theorem Renders.tag {stack' : List String} (hinside : IsInside inside) (hbare : isBare inside = true)
    (hopen : ∀ position, openAfter stack position inside = .ok stack')
    (hafter : Renders stack' after) : Renders stack ('[' :: inside ++ ']' :: after) := by
  intro n position plain hlength
  have htag : escapedTag? ('[' :: (inside ++ ']' :: after)) = some (0, inside, after) :=
    escapedTag?_eq_some_iff.2 ⟨hinside, rfl⟩
  cases n with
  | zero => simp at hlength
  | succ n =>
    rw [List.cons_append, piecesFrom, htag]
    have hrest := hafter n (position + 0 + inside.length + 2) [] (by simp at hlength; omega)
    exact ((hrest.tag hbare (hopen _)).textThen _).textThen _

theorem renders_escapeFrom (hlength : cs.length ≤ n) (htail : rest = [] ∨ rest = ['\\']) :
    Renders stack (escapeFrom n cs ++ rest) := by
  induction n generalizing cs with
  | zero =>
    obtain rfl := List.eq_nil_of_length_eq_zero (Nat.le_zero.1 hlength)
    rcases htail with rfl | rfl
    · exact renders_nil stack
    · exact (renders_nil stack).cons (by decide)
  | succ n ih =>
    cases cs with
    | nil =>
      rcases htail with rfl | rfl
      · exact renders_nil stack
      · exact (renders_nil stack).cons (by decide)
    | cons c cs =>
      cases htag : escapedTag? (c :: cs) with
      | none =>
        have hescaped := escapedTag?_escapeFrom hlength htag
        rw [escapeFrom_of_none htag] at hescaped ⊢
        have hnone : escapedTag? (c :: (escapeFrom n cs ++ rest)) = none := by
          rcases htail with rfl | rfl
          · rw [List.append_nil]
            exact hescaped
          · exact escapedTag?_append_backslash hescaped
        exact (ih (by simpa using hlength)).cons hnone
      | some t =>
        obtain ⟨k, inside, after⟩ := t
        obtain ⟨hinside, -⟩ := escapedTag?_eq_some_iff.1 htag
        have hshorter := escapedTag?_length htag
        rw [escapeFrom_of_some htag, List.append_assoc, List.cons_append]
        have hshown : escapedTag? (List.replicate (2 * k + 1) '\\' ++ '[' :: inside ++
            ']' :: (escapeFrom n after ++ rest)) =
              some (2 * k + 1, inside, escapeFrom n after ++ rest) :=
          escapedTag?_eq_some_iff.2 ⟨hinside, rfl⟩
        exact (ih (by simp at hlength hshorter; omega)).shown hshown (by omega)

/-- Escaped text can be rendered. -/
theorem renders_escape (stack : List String) (s : String) : Renders stack (escape s).toList := by
  have hlength : s.toList.length ≤ s.length := le_of_eq s.length_toList
  have htail : (escape s).toList = escapeFrom s.length s.toList ∨
      (escape s).toList = escapeFrom s.length s.toList ++ ['\\'] := by
    unfold escape
    dsimp only
    split
    · exact .inr String.toList_ofList
    · next reversed c _ _ =>
      rw [String.toList_ofList]
      by_cases hc : c == '\\'
      · exact .inl (if_pos hc)
      · exact .inr (if_neg hc)
    · exact .inl String.toList_ofList
  rcases htail with htail | htail
  · rw [htail, ← List.append_nil (escapeFrom s.length s.toList)]
    exact renders_escapeFrom hlength (.inl rfl)
  · rw [htail]
    exact renders_escapeFrom hlength (.inr rfl)

/-- Every terminal renders a text that can be rendered by its bare tags. -/
theorem Renders.on_terminal [Terminal] (hterminal : Terminal.Lawful) {s : String}
    (h : Renders [] s.toList) : ∃ text, Terminal.render s = .ok text := by
  have hshows : Shows [] (pieces s.toList) := h _ 0 [] le_rfl
  obtain ⟨shown, hshown⟩ := hshows.shown
  apply (hterminal s hshows.bare).2
  rw [render, hshown]
  exact ⟨_, rfl⟩

theorem lawful_usual : @Terminal.Lawful Terminal.usual := by
  intro s _
  change (∃ text, (render s).mapError Fault.message = .ok text) ↔ _
  cases render s <;> simp [Except.mapError]

/-! ### Styles -/

/-- A tag that names a style. -/
structure Names (tag : List Char) (style : String) : Prop where
  inside : IsInside tag
  whole : tagName tag = tag
  opens : tag.head? ≠ some '/'
  bare : isBare tag = true
  style : styleOf tag = .ok style

theorem Names.opens_iff {tag : List Char} {style : String} (h : Names tag style)
    (stack : List String) (position : Nat) :
    openAfter stack position tag = .ok (style :: stack) := by
  unfold openAfter
  rw [h.whole]
  split
  next name => exact absurd rfl h.opens
  next =>
    rw [h.style]
    rfl

theorem Names.closes {tag : List Char} {style : String} (h : Names tag style)
    (stack : List String) (position : Nat) :
    openAfter (style :: stack) position ('/' :: tag) = .ok stack := by
  have hwhole : tagName ('/' :: tag) = '/' :: tag := by
    rw [tagName, List.takeWhile_cons_of_pos (by decide)]
    exact congrArg _ h.whole
  unfold openAfter
  rw [hwhole]
  simp only [h.style]
  split
  · rfl
  · have hmem : (style :: stack).contains style = true := by simp
    simp only [bind, Except.bind, if_pos hmem, List.erase_cons_head]
    rfl

theorem Names.bare_close {tag : List Char} {style : String} (h : Names tag style) :
    isBare ('/' :: tag) = true := by
  have hbare := h.bare
  unfold isBare at hbare ⊢
  split at hbare
  next => exact absurd rfl h.opens
  next => exact hbare

theorem Names.renders_open {tag : List Char} {style : String} (h : Names tag style)
    (hrest : Renders (style :: stack) rest) : Renders stack ('[' :: tag ++ ']' :: rest) :=
  Renders.tag h.inside h.bare (h.opens_iff stack) hrest

theorem Names.renders_close {tag : List Char} {style : String} (h : Names tag style)
    (hrest : Renders stack rest) :
    Renders (style :: stack) ('[' :: '/' :: tag ++ ']' :: rest) := by
  have hinside : IsInside ('/' :: tag) := by
    refine ⟨⟨'/', rfl, by decide⟩, ?_⟩
    rintro x (_ | ⟨_, hx⟩)
    · decide
    · exact h.inside.unbracketed x hx
  exact Renders.tag hinside h.bare_close (h.closes stack) hrest

theorem names_of_colour {colour : String} (h : colour ∈ ["red", "yellow", "blue", "green", "cyan"]) :
    Names colour.toList colour := by
  have hall : ∀ colour ∈ ["red", "yellow", "blue", "green", "cyan"],
      colour.toList.head?.any startsTag = true ∧ (∀ x ∈ colour.toList, x ≠ '[' ∧ x ≠ ']') ∧
        tagName colour.toList = colour.toList ∧ colour.toList.head? ≠ some '/' ∧
        isBare colour.toList = true ∧ (styleOf colour.toList).toOption = some colour := by
    decide +kernel
  obtain ⟨hstarts, hunbracketed, hwhole, hopens, hbare, hstyle⟩ := hall colour h
  refine ⟨⟨(Option.any_eq_true _ _).1 hstarts, hunbracketed⟩, hwhole, hopens, hbare, ?_⟩
  cases hs : styleOf colour.toList with
  | error f => simp [hs, Except.toOption] at hstyle
  | ok style => simpa [hs, Except.toOption] using hstyle

end SchemaSheets.Markup
