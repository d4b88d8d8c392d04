import SchemaSheets.Proofs.Source.Depth

/-!
# Schema notation

A reference in schema notation is a label with marks around it, one or two for
each wrapper.  The last character shows the outermost wrapper, or that there is
none, so the notation is taken apart from the outside inwards and stands for one
sequence of wrappers around one label.
-/

namespace SchemaSheets

namespace TypeRef

/-- What a reference can be wrapped in. -/
inductive Wrapper where
  | list
  | nonNull
  deriving DecidableEq, Repr

/-- The last character of a wrapped reference. -/
def Wrapper.mark : Wrapper → Char
  | list => ']'
  | nonNull => '!'

/-- The wrappers around the named type, from the outside inwards. -/
def wrapping : TypeRef → List Wrapper
  | list inner => .list :: inner.wrapping
  | nonNull inner => .nonNull :: inner.wrapping
  | _ => []

/-- The label of the named type: its name, or the kind of a type that no column is made from if it
has none. -/
def leaf? : TypeRef → Option Value
  | list inner => inner.leaf?
  | nonNull inner => inner.leaf?
  | scalar name => some name
  | object name => some name
  | other kind name => some (name.orElse (.str kind))
  | absent => none

/-- A label in wrappers. -/
def written : List Wrapper → List Char → List Char
  | [], leaf => leaf
  | .list :: ws, leaf => '[' :: (written ws leaf ++ [']'])
  | .nonNull :: ws, leaf => written ws leaf ++ ['!']

/-- A label is not empty and has none of the marks in it. -/
def IsLabel (text : String) : Prop :=
  text ≠ "" ∧ ∀ c ∈ text.toList, c ≠ '[' ∧ c ≠ ']' ∧ c ≠ '!'

variable {t u : TypeRef} {x y : String} {w v : Wrapper} {ws vs : List Wrapper}
variable {leaf leaf' : List Char}

/-! ### Marks -/

theorem Wrapper.eq_of_mark_eq (h : w.mark = v.mark) : w = v := by
  cases w with
  | list =>
    cases v with
    | list => rfl
    | nonNull => exact absurd h (by decide)
  | nonNull =>
    cases v with
    | list => exact absurd h (by decide)
    | nonNull => rfl

theorem getLast?_written (w : Wrapper) (ws : List Wrapper) (leaf : List Char) :
    (written (w :: ws) leaf).getLast? = some w.mark := by
  cases w with
  | list => rw [written, ← List.cons_append, List.getLast?_concat, Wrapper.mark]
  | nonNull => rw [written, List.getLast?_concat, Wrapper.mark]

theorem written_cons_inj (h : written (w :: ws) leaf = written (w :: vs) leaf') :
    written ws leaf = written vs leaf' := by
  cases w with
  | list => exact List.append_cancel_right (List.cons.inj h).2
  | nonNull => exact List.append_cancel_right h

/-- No label ends in a mark, so the last character of the whole shows the outermost wrapper. -/
theorem written_inj (hleaf : ∀ w : Wrapper, leaf.getLast? ≠ some w.mark)
    (hleaf' : ∀ w : Wrapper, leaf'.getLast? ≠ some w.mark)
    (h : written ws leaf = written vs leaf') : ws = vs ∧ leaf = leaf' := by
  induction ws generalizing vs with
  | nil =>
    cases vs with
    | nil => exact ⟨rfl, h⟩
    | cons v vs =>
      have hlast := getLast?_written v vs leaf'
      rw [← h] at hlast
      exact absurd hlast (hleaf v)
  | cons w ws ih =>
    have hlast := getLast?_written w ws leaf
    rw [h] at hlast
    cases vs with
    | nil => exact absurd hlast (hleaf' w)
    | cons v vs =>
      rw [getLast?_written, Option.some.injEq] at hlast
      obtain rfl := Wrapper.eq_of_mark_eq hlast
      obtain ⟨rfl, hsame⟩ := ih (written_cons_inj h)
      exact ⟨rfl, hsame⟩

theorem IsLabel.getLast?_ne (h : IsLabel x) (w : Wrapper) : x.toList.getLast? ≠ some w.mark := by
  intro hlast
  obtain ⟨-, hclosed, hbang⟩ := h.2 _ (List.mem_of_getLast? hlast)
  cases w with
  | list => exact hclosed rfl
  | nonNull => exact hbang rfl

/-! ### Labels -/

theorem label_eq_written (h : t.leaf? = some (.str x)) :
    t.label = .ok (.str (String.ofList (written t.wrapping x.toList))) := by
  induction t with
  | scalar name =>
    cases h
    simp [label, wrapping, written]
  | object name =>
    cases h
    simp [label, wrapping, written]
  | other kind name =>
    rw [label, Option.some.inj h]
    simp [wrapping, written]
  | absent => cases h
  | list inner ih =>
    have htext : "[" ++ String.ofList (written inner.wrapping x.toList) ++ "]" =
        String.ofList (written (list inner).wrapping x.toList) := by
      simp [← String.toList_inj, wrapping, written]
    rw [label, ih h, ← htext]
    rfl
  | nonNull inner ih =>
    have htext : String.ofList (written inner.wrapping x.toList) ++ "!" =
        String.ofList (written (nonNull inner).wrapping x.toList) := by
      simp [wrapping, written]
    rw [label, ih h, ← htext]
    rfl

/-- Two references whose named types have labels are written as the same text exactly if they have
the same wrappers in the same order around the same label. -/
theorem label_unambiguous (ht : t.leaf? = some (.str x)) (hu : u.leaf? = some (.str y))
    (hx : IsLabel x) (hy : IsLabel y) :
    (∃ text, t.label = .ok (.str text) ∧ u.label = .ok (.str text)) ↔
      t.wrapping = u.wrapping ∧ x = y := by
  rw [label_eq_written ht, label_eq_written hu]
  constructor
  · rintro ⟨text, htext, hutext⟩
    have hsame := Except.ok.inj (htext.trans hutext.symm)
    simp only [Value.scalar.injEq, Scalar.str.injEq, String.ofList_inj] at hsame
    obtain ⟨hwrapping, hlabel⟩ := written_inj hx.getLast?_ne hy.getLast?_ne hsame
    exact ⟨hwrapping, String.toList_inj.1 hlabel⟩
  · rintro ⟨hwrapping, rfl⟩
    rw [hwrapping]
    exact ⟨_, rfl, rfl⟩

/-- The label does not show what kind of type it is the name of, but it shows where a type may be
null. -/
theorem label_unambiguous_for_people :
    IsLabel "Person" ∧ people.label = .ok (.str "[Person!]!") ∧
      (∃ text, people.label = .ok (.str text) ∧
        (nonNull (list (nonNull (other "Person" .null)))).label = .ok (.str text)) ∧
      ¬∃ text, people.label = .ok (.str text) ∧
        (list (nonNull (nonNull (object (.str "Person"))))).label = .ok (.str text) := by
  have hlabel : IsLabel "Person" := ⟨by decide, by decide⟩
  have hkind := label_unambiguous (t := people)
    (u := nonNull (list (nonNull (other "Person" .null)))) rfl rfl hlabel hlabel
  have hnull := label_unambiguous (t := people)
    (u := list (nonNull (nonNull (object (.str "Person"))))) rfl rfl hlabel hlabel
  exact ⟨hlabel, rfl, hkind.2 ⟨rfl, rfl⟩, fun h => absurd (hnull.1 h).1 (by decide)⟩

end TypeRef

end SchemaSheets
