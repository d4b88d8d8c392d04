import SchemaSheets.Files.Store
import SchemaSheets.Proofs.Steps
import SchemaSheets.Proofs.Text.Utf8

/-!
# Saving and reading

A text that was saved at a path is what is read from there.  Putting a file to where a path leads
changes nothing on the way.
-/

namespace SchemaSheets.Files

open Steps

variable {fs fs' : Files} {place q directory : Place} {item : FileItem} {octets octets' : List UInt8}
  {p : Path} {text : String}

/-! ### Places -/

theorem lookup_cons_of_ne {items : List (Place × FileItem)} (h : q ≠ place) :
    ((place, item) :: items).lookup q = items.lookup q := by
  rw [List.lookup_cons, beq_eq_false_iff_ne.2 h]

/-- An item instead of what is at a place. -/
theorem lookup_map_replaced (items : List (Place × FileItem)) (place q : Place) (item : FileItem) :
    (items.map fun (p, i) => if p == place then (p, item) else (p, i)).lookup q =
      (items.lookup q).map fun i => if q = place then item else i := by
  induction items with
  | nil => rfl
  | cons e items ih =>
    obtain ⟨p, i⟩ := e
    have hhead : (if p == place then (p, item) else (p, i)) =
        (p, if p = place then item else i) := by
      by_cases hp : p = place
      · simp [hp]
      · simp [hp]
    rw [List.map_cons]
    dsimp only
    rw [hhead]
    by_cases hq : q = p
    · subst hq
      simp
    · rw [lookup_cons_of_ne hq, lookup_cons_of_ne hq]
      exact ih

theorem item?_put (hplace : place ≠ []) :
    (fs.put place item).item? q = if q = place then some item else fs.item? q := by
  cases q with
  | nil => simp [item?, hplace.symm]
  | cons step q =>
    have hitem (fs : Files) : fs.item? (step :: q) = fs.items.lookup (step :: q) := rfl
    rw [hitem, hitem]
    unfold put
    by_cases hany : fs.items.any (·.1 == place)
    · rw [if_pos hany]
      change List.lookup _ (List.map _ _) = _
      rw [lookup_map_replaced]
      by_cases hq : step :: q = place
      · obtain ⟨e, he, hplaced⟩ := List.any_eq_true.1 hany
        have hsome : fs.items.lookup (step :: q) ≠ none := by
          rw [hq, Ne, List.lookup_eq_none_iff]
          intro hnone
          have hne := hnone e he
          rw [beq_iff_eq.1 hplaced] at hne
          simp at hne
        obtain ⟨i, hi⟩ := Option.ne_none_iff_exists'.1 hsome
        rw [hi, Option.map_some, if_pos hq, if_pos hq]
      · simp only [if_neg hq, Option.map_id']
    · rw [if_neg hany]
      change List.lookup _ (_ ++ _) = _
      rw [List.lookup_append]
      by_cases hq : step :: q = place
      · have hnone : fs.items.lookup (step :: q) = none := by
          rw [List.lookup_eq_none_iff, hq]
          intro e he
          have hne : ¬(e.1 == place) = true := fun h => hany (List.any_eq_true.2 ⟨e, he, h⟩)
          rw [beq_iff_eq] at hne
          exact bne_iff_ne.2 (Ne.symm hne)
        rw [hnone, if_pos hq, hq, List.lookup_cons_self, Option.none_or]
      · rw [lookup_cons_of_ne hq, if_neg hq, List.lookup_nil, Option.or_none]

/-! ### Ways -/

variable {steps rest : List String} {step : String}

theorem follow_cons (hstep : step ≠ "..") : fs.follow directory (step :: rest) =
    match fs.item? (directory ++ [step]) with
    | some .directory => fs.follow (directory ++ [step]) rest
    | some (.file octets) =>
      if rest.isEmpty then .file (directory ++ [step]) octets else .blocked
    | none => if rest.isEmpty then .free (directory ++ [step]) else .missing := by
  conv_lhs => unfold follow
  split
  next heq => cases heq
  next heq => exact absurd (List.cons.inj heq).1 hstep
  next heq =>
    cases heq
    rfl

theorem follow_up : fs.follow directory (".." :: rest) =
    if directory.isEmpty then follow.outside rest else fs.follow directory.dropLast rest := by
  rw [follow]

/-- A file can be put to where the way leads. -/
def LeadsTo (fs : Files) (directory : Place) (steps : List String) (place : Place) : Prop :=
  fs.follow directory steps = .free place ∨
    ∃ octets, fs.follow directory steps = .file place octets

theorem not_leadsTo_nil : ¬fs.LeadsTo directory [] place := by
  rw [LeadsTo, follow]
  simp

theorem leadsTo_up_iff : fs.LeadsTo directory (".." :: rest) place ↔
    directory ≠ [] ∧ fs.LeadsTo directory.dropLast rest place := by
  unfold LeadsTo
  rw [follow_up]
  cases directory with
  | nil =>
    simp only [List.isEmpty_nil, if_true, follow.outside]
    split <;> simp
  | cons first directory => simp

theorem leadsTo_cons_iff (hstep : step ≠ "..") : fs.LeadsTo directory (step :: rest) place ↔
    fs.item? (directory ++ [step]) = some .directory ∧
        fs.LeadsTo (directory ++ [step]) rest place ∨
      fs.item? (directory ++ [step]) ≠ some .directory ∧ rest = [] ∧
        place = directory ++ [step] := by
  unfold LeadsTo
  rw [follow_cons hstep]
  cases hitem : fs.item? (directory ++ [step]) with
  | none => cases rest <;> simp [eq_comm]
  | some item =>
    cases item with
    | directory => simp
    | file octets => cases rest <;> simp [eq_comm]

theorem LeadsTo.item?_ne (h : fs.LeadsTo directory steps place) :
    place ≠ [] ∧ fs.item? place ≠ some .directory := by
  induction steps generalizing directory with
  | nil => exact absurd h not_leadsTo_nil
  | cons step rest ih =>
    by_cases hstep : step = ".."
    · subst hstep
      exact ih (leadsTo_up_iff.1 h).2
    · rcases (leadsTo_cons_iff hstep).1 h with ⟨-, hrest⟩ | ⟨hitem, -, rfl⟩
      · exact ih hrest
      · exact ⟨by simp, hitem⟩

/-- The way leads to the file that was put to its end. -/
theorem LeadsTo.follow_put (h : fs.LeadsTo directory steps place) (octets : List UInt8) :
    (fs.put place (.file octets)).follow directory steps = .file place octets := by
  obtain ⟨hplace, hnot⟩ := h.item?_ne
  induction steps generalizing directory with
  | nil => exact absurd h not_leadsTo_nil
  | cons step rest ih =>
    by_cases hstep : step = ".."
    · subst hstep
      obtain ⟨hdirectory, hrest⟩ := leadsTo_up_iff.1 h
      rw [follow_up, if_neg (by simpa using hdirectory)]
      exact ih hrest
    · rw [follow_cons hstep, item?_put hplace]
      rcases (leadsTo_cons_iff hstep).1 h with ⟨hitem, hrest⟩ | ⟨-, rfl, rfl⟩
      · have hother : directory ++ [step] ≠ place := by
          rintro rfl
          exact hnot hitem
        rw [if_neg hother, hitem]
        exact ih hrest
      · rw [if_pos rfl]
        rfl

/-! ### Texts -/

theorem target_eq (h : ¬∃ slashes, p.anchor = .root slashes) : fs.target p = fs.follow [] p.steps := by
  unfold target
  split
  next slashes hroot => exact absurd ⟨slashes, hroot⟩ h
  next => rfl

/-- A text is written to where its path leads. -/
theorem target_of_write (h : fs.write p text = .ok fs') :
    sound p = .ok () ∧ ∃ place, fs'.target p = .file place (Text.encodeUtf8 text) := by
  unfold write at h
  obtain ⟨⟨⟩, hsound, h⟩ := bind_eq_ok_iff.1 h
  refine ⟨hsound, ?_⟩
  by_cases hroot : ∃ slashes, p.anchor = .root slashes
  · obtain ⟨slashes, hroot⟩ := hroot
    simp only [target, hroot] at h
    cases hsteps : p.steps.isEmpty with
    | true =>
      rw [hsteps] at h
      cases h
    | false =>
      rw [hsteps] at h
      cases h
  · rw [target_eq hroot] at h
    rw [target_eq hroot]
    have hput : ∀ place, fs.LeadsTo [] p.steps place →
        fs' = fs.put place (.file (Text.encodeUtf8 text)) →
        ∃ place, fs'.follow [] p.steps = .file place (Text.encodeUtf8 text) := by
      rintro place hleads rfl
      exact ⟨place, hleads.follow_put _⟩
    cases hfollow : fs.follow [] p.steps with
    | file place octets =>
      rw [hfollow] at h
      cases h
      exact hput place (.inr ⟨octets, hfollow⟩) rfl
    | free place =>
      rw [hfollow] at h
      cases h
      exact hput place (.inl hfollow) rfl
    | _ =>
      rw [hfollow] at h
      cases h

theorem textOf_encode (h : '\r' ∉ text.toList) : textOf (Text.encodeUtf8 text) = .ok text := by
  rw [textOf, Text.decode_encode]
  simp only [Text.unifyLineEnds_of_not_mem h, String.ofList_toList]

/-- A text that was saved is there and can be read, if its line ends are of one kind. -/
theorem read_of_save (hsave : fs.save p text = .ok fs') (h : '\r' ∉ text.toList) :
    fs'.isThere p = .ok true ∧ fs'.read p = .ok text := by
  obtain ⟨made, -, hwrite⟩ := bind_eq_ok_iff.1 hsave
  obtain ⟨hsound, place, htarget⟩ := target_of_write hwrite
  have hnul : p.hasNul = false := by
    by_contra hnul
    rw [sound, if_pos (by simpa using hnul)] at hsound
    cases hsound
  constructor
  · simp [isThere, hnul, hsound, htarget]
  · simp only [read, hsound, htarget]
    exact textOf_encode h

end SchemaSheets.Files
