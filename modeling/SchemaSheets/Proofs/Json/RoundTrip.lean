import SchemaSheets.Proofs.Json.Scalars
import SchemaSheets.Proofs.Text.Bounded
import SchemaSheets.Proofs.Value.Portable

/-!
# Values in JSON both ways

A value that JSON holds is read back from its text in either layout, the
entries of its mappings in their order, as long as there is room for its lists
and mappings.  The text is ASCII.
-/

namespace SchemaSheets.Json

open Text

variable {c : Char} {cs rest w : List Char}

/-! ### Blanks between items -/

theorem skipSpace_of_starts (hw : Starts w) : skipSpace (w ++ rest) = w ++ rest := by
  obtain ⟨c, cs, rfl, hc, -⟩ := hw
  simp [skipSpace, hc]

theorem skipSpace_append {gap : List Char} (hgap : ∀ c ∈ gap, isSpace c = true) :
    skipSpace (gap ++ rest) = skipSpace rest := List.dropWhile_append_of_pos hgap

namespace Layout

/-- What stands behind the comma between two items. -/
def gap : Layout → List Char
  | compact => [' ']
  | indented depth => '\n' :: List.replicate (2 * depth) ' '

theorem separator_eq (layout : Layout) : layout.separator = ',' :: layout.gap := by
  cases layout <;> rfl

theorem isSpace_of_mem_gap {layout : Layout} (h : c ∈ layout.gap) : isSpace c = true := by
  cases layout with
  | compact =>
    rw [List.mem_singleton.1 h]
    rfl
  | indented depth =>
    rcases List.mem_cons.1 h with rfl | hc
    · rfl
    · rw [List.eq_of_mem_replicate hc]
      rfl

theorem isSpace_of_mem_lineStart {layout : Layout} (h : c ∈ layout.lineStart) :
    isSpace c = true := by
  cases layout with
  | compact => cases h
  | indented depth => exact isSpace_of_mem_gap (show c ∈ (indented depth).gap from h)

theorem ends_lineStart (layout : Layout) (rest : List Char) (hc : c = ']' ∨ c = '\x7d') :
    Ends (layout.lineStart ++ c :: rest) := by
  cases layout with
  | compact =>
    rintro x ⟨⟩
    rcases hc with rfl | rfl <;> decide
  | indented depth =>
    rintro x ⟨⟩
    decide

end Layout

theorem ends_comma (rest : List Char) : Ends (',' :: rest) := by
  rintro x ⟨⟩
  decide

/-! ### Items and members -/

/-- The rule makes this of the text, wherever the value ends. -/
def Takes (item : Rule) (w : List Char) (outcome : Except Stop Value) : Prop :=
  ∀ rest, Ends rest → item (w ++ rest) = outcome.map fun v => (v, rest)

variable {item : Rule} {text : Value → List Char} {made : Value → Except Stop Value}
  {layout outer : Layout}

theorem starts_intercalate (sep : List Char) {parts : List (List Char)} (hne : parts ≠ [])
    (h : ∀ w ∈ parts, Starts w) : Starts (sep.intercalate parts) := by
  cases parts with
  | nil => exact absurd rfl hne
  | cons w ws =>
    obtain ⟨c, cs, rfl, hc⟩ := h w (.head _)
    cases ws with
    | nil => exact ⟨c, cs, by simp, hc⟩
    | cons w' ws =>
      rw [List.intercalate_cons_cons]
      exact ⟨c, _, rfl, hc⟩

theorem items_stop {most : Nat} {read : List Value} {e : Stop} (hitem : item cs = .error e) :
    items item (most + 1) read cs = .error e := by
  rw [items, hitem]
  rfl

theorem items_last {most : Nat} {read : List Value} {v : Value} {after : List Char}
    (hitem : item cs = .ok (v, after)) (hafter : skipSpace after = ']' :: rest) :
    items item (most + 1) read cs = .ok (.list (read.reverse ++ [v]), rest) := by
  rw [items, hitem]
  simp only [bind, Except.bind, hafter, List.reverse_cons]
  rfl

theorem items_next {most : Nat} {read : List Value} {v : Value} {after : List Char}
    (hitem : item cs = .ok (v, after)) (hafter : skipSpace after = ',' :: rest) :
    items item (most + 1) read cs = items item most (v :: read) (skipSpace rest) := by
  rw [items, hitem]
  simp only [bind, Except.bind, hafter]

/-- Items with separators between them and a bracket behind them are read one after another. -/
theorem items_intercalate {vs : List Value} {most : Nat} {read : List Value} (hne : vs ≠ [])
    (hmost : vs.length ≤ most) (hstarts : ∀ v ∈ vs, Starts (text v))
    (htakes : ∀ v ∈ vs, Takes item (text v) (made v)) :
    items item most read
        (layout.separator.intercalate (vs.map text) ++ (outer.lineStart ++ ']' :: rest)) =
      (vs.mapM made).map fun found => (.list (read.reverse ++ found), rest) := by
  induction vs generalizing most read with
  | nil => exact absurd rfl hne
  | cons v vs ih =>
    rw [List.length_cons] at hmost
    obtain ⟨most, rfl⟩ : ∃ k, most = k + 1 := ⟨most - 1, by omega⟩
    obtain ⟨hv, hvs⟩ := List.forall_mem_cons.1 htakes
    obtain ⟨-, hstarts⟩ := List.forall_mem_cons.1 hstarts
    cases vs with
    | nil =>
      have hclose : skipSpace (outer.lineStart ++ ']' :: rest) = ']' :: rest := by
        rw [skipSpace_append fun c => Layout.isSpace_of_mem_lineStart]
        rfl
      have hitem := hv _ (outer.ends_lineStart rest (.inl rfl))
      rw [List.map_singleton, List.intercalate_singleton, List.mapM_cons, List.mapM_nil]
      cases hmade : made v with
      | error e =>
        rw [hmade] at hitem
        exact items_stop hitem
      | ok w =>
        rw [hmade] at hitem
        exact items_last hitem hclose
    | cons v' vs =>
      have hnext : Starts (layout.separator.intercalate ((v' :: vs).map text)) :=
        starts_intercalate layout.separator (by simp) (by simpa using hstarts)
      have hitem := hv _ (ends_comma (layout.gap ++
        (layout.separator.intercalate ((v' :: vs).map text) ++ (outer.lineStart ++ ']' :: rest))))
      have hsplit : layout.separator.intercalate ((v :: v' :: vs).map text) =
          text v ++ (',' :: layout.gap) ++ layout.separator.intercalate ((v' :: vs).map text) := by
        rw [List.map_cons, List.map_cons, List.intercalate_cons_cons, layout.separator_eq]
      rw [hsplit, List.mapM_cons]
      simp only [List.append_assoc, List.cons_append]
      cases hmade : made v with
      | error e =>
        rw [hmade] at hitem
        exact items_stop hitem
      | ok w =>
        rw [hmade] at hitem
        rw [items_next hitem rfl, skipSpace_append fun c => Layout.isSpace_of_mem_gap,
          skipSpace_of_starts hnext, ih (by simp) (by omega) hstarts hvs]
        cases (v' :: vs).mapM made with
        | error e => rfl
        | ok found => simp [bind, Except.bind, Except.map, pure, Except.pure]

theorem Takes.behind_blank {outcome : Except Stop Value} (h : Takes item w outcome) (hw : Starts w)
    (hrest : Ends rest) :
    item (skipSpace (' ' :: (w ++ rest))) = outcome.map fun v => (v, rest) := by
  have hblank : skipSpace (' ' :: (w ++ rest)) = w ++ rest := skipSpace_of_starts hw
  rw [hblank]
  exact h rest hrest

/-- The text of a member. -/
def memberText (text : Value → List Char) (e : Scalar × Value) : List Char :=
  keyText e.1 ++ ':' :: ' ' :: text e.2

theorem members_stop {most : Nat} {read : Entries} {name : String} {e : Stop}
    (hitem : item (skipSpace cs) = .error e) :
    members noHalves item (most + 1) read (quoted name ++ ':' :: cs) = .error e := by
  have hcolon : skipSpace (':' :: cs) = ':' :: cs := rfl
  rw [quoted_append, members]
  simp only [textBody_quoted, bind, Except.bind, hcolon, hitem]

theorem members_last {most : Nat} {read : Entries} {name : String} {v : Value} {after : List Char}
    (hitem : item (skipSpace cs) = .ok (v, after)) (hafter : skipSpace after = '\x7d' :: rest) :
    members noHalves item (most + 1) read (quoted name ++ ':' :: cs) =
      .ok (.map (Entries.insert (.str name) v read), rest) := by
  have hcolon : skipSpace (':' :: cs) = ':' :: cs := rfl
  rw [quoted_append, members]
  simp only [textBody_quoted, bind, Except.bind, hcolon, hitem, hafter, ofCodes_toList]
  rfl

theorem members_next {most : Nat} {read : Entries} {name : String} {v : Value} {after : List Char}
    (hitem : item (skipSpace cs) = .ok (v, after)) (hafter : skipSpace after = ',' :: rest) :
    members noHalves item (most + 1) read (quoted name ++ ':' :: cs) =
      members noHalves item most (Entries.insert (.str name) v read) (skipSpace rest) := by
  have hcolon : skipSpace (':' :: cs) = ':' :: cs := rfl
  rw [quoted_append, members]
  simp only [textBody_quoted, bind, Except.bind, hcolon, hitem, hafter, ofCodes_toList]

theorem starts_memberText {e : Scalar × Value} (he : ∃ s, e.1 = .str s) :
    Starts (memberText text e) := by
  obtain ⟨s, hs⟩ := he
  rw [memberText, hs]
  exact ⟨'"', _, rfl, rfl, by decide, by decide⟩

/-- Members of distinct names are read one after another. -/
theorem members_intercalate {es read : Entries} {most : Nat} (hne : es ≠ [])
    (hmost : es.length ≤ most) (htexts : ∀ e ∈ es, ∃ s, e.1 = .str s)
    (hdistinct : (read.keys ++ es.keys).Nodup) (hstarts : ∀ e ∈ es, Starts (text e.2))
    (htakes : ∀ e ∈ es, Takes item (text e.2) (made e.2)) :
    members noHalves item most read (layout.separator.intercalate (es.map (memberText text)) ++
        (outer.lineStart ++ '\x7d' :: rest)) =
      (es.mapM fun e => (made e.2).map fun v => (e.1, v)).map fun found =>
        (.map (read ++ found), rest) := by
  induction es generalizing most read with
  | nil => exact absurd rfl hne
  | cons e es ih =>
    obtain ⟨k, v⟩ := e
    obtain ⟨⟨s, hs⟩, htextsRest⟩ := List.forall_mem_cons.1 htexts
    cases hs
    rw [List.length_cons] at hmost
    obtain ⟨most, rfl⟩ : ∃ k, most = k + 1 := ⟨most - 1, by omega⟩
    obtain ⟨hv, htakes⟩ := List.forall_mem_cons.1 htakes
    obtain ⟨hstart, hstarts⟩ := List.forall_mem_cons.1 hstarts
    have hnew : .str s ∉ read.keys := by
      intro hmem
      exact (List.nodup_append.1 hdistinct).2.2 _ hmem _ (.head _) rfl
    cases es with
    | nil =>
      have hclose : skipSpace (outer.lineStart ++ '\x7d' :: rest) = '\x7d' :: rest := by
        rw [skipSpace_append fun c => Layout.isSpace_of_mem_lineStart]
        rfl
      have hitem := hv.behind_blank hstart (outer.ends_lineStart rest (.inr rfl))
      rw [List.map_singleton, List.intercalate_singleton, List.mapM_cons, List.mapM_nil]
      simp only [memberText, keyText, List.append_assoc, List.cons_append]
      cases hmade : made v with
      | error e =>
        rw [hmade] at hitem
        exact members_stop hitem
      | ok w =>
        rw [hmade] at hitem
        rw [members_last hitem hclose, Entries.insert_of_not_mem w hnew]
        rfl
    | cons e' es =>
      have hnext : Starts (layout.separator.intercalate ((e' :: es).map (memberText text))) := by
        apply starts_intercalate layout.separator (by simp)
        intro w hw
        obtain ⟨e, he, rfl⟩ := List.mem_map.1 hw
        exact starts_memberText (htextsRest e he)
      have hitem := hv.behind_blank hstart (ends_comma (layout.gap ++
        (layout.separator.intercalate ((e' :: es).map (memberText text)) ++
          (outer.lineStart ++ '\x7d' :: rest))))
      have hsplit : layout.separator.intercalate (((.str s, v) :: e' :: es).map (memberText text)) =
          memberText text (.str s, v) ++ (',' :: layout.gap) ++
            layout.separator.intercalate ((e' :: es).map (memberText text)) := by
        rw [List.map_cons, List.map_cons, List.intercalate_cons_cons, layout.separator_eq]
      rw [hsplit, List.mapM_cons]
      simp only [memberText, keyText, List.append_assoc, List.cons_append] at hitem ⊢
      cases hmade : made v with
      | error e =>
        rw [hmade] at hitem
        exact members_stop hitem
      | ok w =>
        rw [hmade] at hitem
        have hkeys : Entries.keys (read ++ [(Scalar.str s, w)]) ++ Entries.keys (e' :: es) =
            read.keys ++ Entries.keys ((.str s, v) :: e' :: es) := by simp [Entries.keys]
        rw [← hkeys] at hdistinct
        rw [members_next hitem rfl, skipSpace_append fun c => Layout.isSpace_of_mem_gap,
          skipSpace_of_starts hnext, Entries.insert_of_not_mem w hnew,
          ih (by simp) (by omega) htextsRest hdistinct hstarts htakes]
        cases (e' :: es).mapM fun e => (made e.2).map fun v => (e.1, v) with
        | error e => rfl
        | ok found => simp [bind, Except.bind, Except.map, pure, Except.pure]

/-! ### Nesting -/

mutual
/-- How deep lists and mappings nest in a value. -/
def depth : Value → Nat
  | .list vs => itemsDepth vs + 1
  | .map es => entriesDepth es + 1
  | _ => 0

def itemsDepth : List Value → Nat
  | [] => 0
  | v :: vs => max (depth v) (itemsDepth vs)

def entriesDepth : Entries → Nat
  | [] => 0
  | (_, v) :: es => max (depth v) (entriesDepth es)
end

/-- The value if it nests no deeper than there is room for. -/
def kept (room : Nat) (v : Value) : Except Stop Value :=
  if depth v ≤ room then .ok v else .error .tooDeep

theorem itemsDepth_le_iff {room : Nat} (vs : List Value) :
    itemsDepth vs ≤ room ↔ ∀ v ∈ vs, depth v ≤ room := by
  induction vs with
  | nil => simp [itemsDepth]
  | cons v vs ih => rw [itemsDepth, Nat.max_le, ih, List.forall_mem_cons]

theorem entriesDepth_le_iff {room : Nat} (es : Entries) :
    entriesDepth es ≤ room ↔ ∀ e ∈ es, depth e.2 ≤ room := by
  induction es with
  | nil => simp [entriesDepth]
  | cons e es ih => rw [entriesDepth, Nat.max_le, ih, List.forall_mem_cons]

theorem kept_zero {v : Value} (h : 0 < depth v) : kept 0 v = .error .tooDeep :=
  if_neg (Nat.not_le.2 h)

theorem kept_list (room : Nat) (vs : List Value) :
    kept (room + 1) (.list vs) = (vs.mapM (kept room)).map .list := by
  have hparts := Steps.mapM_ite (f := kept room) (fun _ => rfl) vs
  rw [hparts, kept, depth]
  by_cases h : ∀ v ∈ vs, depth v ≤ room
  · rw [if_pos h, if_pos (Nat.succ_le_succ ((itemsDepth_le_iff vs).2 h))]
    rfl
  · rw [if_neg h, if_neg fun hle => h ((itemsDepth_le_iff vs).1 (Nat.le_of_succ_le_succ hle))]
    rfl

theorem kept_map (room : Nat) (es : Entries) :
    kept (room + 1) (.map es) =
      (es.mapM fun e => (kept room e.2).map fun v => (e.1, v)).map .map := by
  have hmember : ∀ e : Scalar × Value, ((kept room e.2).map fun v => (e.1, v)) =
      if depth e.2 ≤ room then .ok e else .error .tooDeep := by
    intro e
    rw [kept]
    split <;> rfl
  rw [Steps.mapM_ite hmember es, kept, depth]
  by_cases h : ∀ e ∈ es, depth e.2 ≤ room
  · rw [if_pos h, if_pos (Nat.succ_le_succ ((entriesDepth_le_iff es).2 h))]
    rfl
  · rw [if_neg h, if_neg fun hle => h ((entriesDepth_le_iff es).1 (Nat.le_of_succ_le_succ hle))]
    rfl

/-! ### Values -/

theorem writtenItems_eq (layout : Layout) (vs : List Value) :
    writtenItems layout vs = vs.map (written layout) := by
  induction vs with
  | nil => rfl
  | cons v vs ih => rw [writtenItems, ih, List.map_cons]

theorem writtenMembers_eq (layout : Layout) (es : Entries) :
    writtenMembers layout es = es.map (memberText (written layout)) := by
  induction es with
  | nil => rfl
  | cons e es ih =>
    obtain ⟨k, v⟩ := e
    rw [writtenMembers, ih, List.map_cons]
    rfl

theorem bracketed_cons (layout : Layout) (left right : Char) {parts : List (List Char)}
    (h : parts ≠ []) (rest : List Char) :
    bracketed layout left right parts ++ rest =
      left :: (layout.inner.lineStart ++ (layout.inner.separator.intercalate parts ++
        (layout.lineStart ++ right :: rest))) := by
  cases parts with
  | nil => exact absurd rfl h
  | cons w ws => simp [bracketed]

theorem starts_bracketed (layout : Layout) (right : Char) (parts : List (List Char)) :
    Starts (bracketed layout '[' right parts) ∧ Starts (bracketed layout '\x7b' right parts) := by
  cases parts with
  | nil => exact ⟨⟨'[', _, rfl, rfl, by decide⟩, ⟨'\x7b', _, rfl, rfl, by decide⟩⟩
  | cons w ws => exact ⟨⟨'[', _, rfl, rfl, by decide⟩, ⟨'\x7b', _, rfl, rfl, by decide⟩⟩

theorem Holds.starts {v : Value} (h : Holds v) (layout : Layout) : Starts (written layout v) := by
  cases v with
  | scalar s =>
    obtain ⟨-, c, cs, hcs, hc, hlist, hmap, -⟩ := scalarText_reads h ends_nil
    exact ⟨c, cs, by rw [written, hcs], hc, hlist, hmap⟩
  | list vs =>
    rw [written]
    exact (starts_bracketed _ _ _).1
  | map es =>
    rw [written]
    exact (starts_bracketed _ _ _).2
  | set members => cases h
  | schema definition => cases h

theorem length_le_length_intercalate (sep : List Char) {parts : List (List Char)}
    (h : ∀ w ∈ parts, Starts w) : parts.length ≤ (sep.intercalate parts).length := by
  induction parts with
  | nil => exact Nat.zero_le _
  | cons w ws ih =>
    obtain ⟨hw, hws⟩ := List.forall_mem_cons.1 h
    obtain ⟨c, cs, rfl, -⟩ := hw
    have hrest := ih hws
    cases ws with
    | nil => simp
    | cons w' ws =>
      rw [List.intercalate_cons_cons]
      simp only [List.length_cons, List.length_append] at hrest ⊢
      omega

theorem value_of_plain {room : Nat} (hlist : c ≠ '[') (hmap : c ≠ '\x7b') :
    value noHalves room (c :: cs) = plainValue noHalves (c :: cs) := by
  have hnoList : ∀ tail, c :: cs = '[' :: tail → False := by
    intro tail htail
    cases htail
    exact hlist rfl
  have hnoMap : ∀ tail, c :: cs = '\x7b' :: tail → False := by
    intro tail htail
    cases htail
    exact hmap rfl
  cases room with
  | zero =>
    rw [value]
    · exact hnoList
    · exact hnoMap
  | succ room =>
    rw [value]
    · exact hnoList
    · exact hnoMap

theorem value_of_scalar {room : Nat} {s : Scalar} (hs : Holds (.scalar s)) (h : Ends rest) :
    value noHalves room (scalarText s ++ rest) = .ok (.scalar s, rest) := by
  obtain ⟨hplain, c, cs, hcs, -, -, -, hlist, hmap⟩ := scalarText_reads hs h
  rw [hcs, List.cons_append] at hplain ⊢
  rw [value_of_plain hlist hmap, hplain]

theorem value_list {room : Nat} {gap : List Char} (hgap : ∀ c ∈ gap, isSpace c = true)
    (hw : Starts w) : value noHalves (room + 1) ('[' :: (gap ++ (w ++ rest))) =
      items (value noHalves room) ((w ++ rest).length + 1) [] (w ++ rest) := by
  have hskip : skipSpace (gap ++ (w ++ rest)) = w ++ rest := by
    rw [skipSpace_append hgap, skipSpace_of_starts hw]
  rw [value, hskip]
  obtain ⟨c, cs, rfl, -, hclose, -⟩ := hw
  split
  · rename_i hhead
    exact absurd (List.cons.inj hhead).1 hclose
  · rfl

theorem value_map {room : Nat} {gap : List Char} (hgap : ∀ c ∈ gap, isSpace c = true)
    (hw : Starts w) : value noHalves (room + 1) ('\x7b' :: (gap ++ (w ++ rest))) =
      members noHalves (value noHalves room) ((w ++ rest).length + 1) [] (w ++ rest) := by
  have hskip : skipSpace (gap ++ (w ++ rest)) = w ++ rest := by
    rw [skipSpace_append hgap, skipSpace_of_starts hw]
  rw [value, hskip]
  obtain ⟨c, cs, rfl, -, -, hclose⟩ := hw
  split
  · rename_i hhead
    exact absurd (List.cons.inj hhead).1 hclose
  · rfl

/-- A list reads back if each of its items does with one level less. -/
theorem takes_list {vs : List Value} (layout : Layout) (hholds : ∀ v ∈ vs, Holds v)
    (htakes : ∀ v ∈ vs, ∀ room, Takes (value noHalves room) (written layout.inner v) (kept room v))
    (room : Nat) : Takes (value noHalves room) (written layout (.list vs)) (kept room (.list vs)) := by
  intro rest _
  have hstarts : ∀ v ∈ vs, Starts (written layout.inner v) :=
    fun v hv => (hholds v hv).starts layout.inner
  rw [written, writtenItems_eq]
  cases vs with
  | nil =>
    cases room with
    | zero => rfl
    | succ room =>
      rw [kept_list]
      rfl
  | cons v vs =>
    rw [bracketed_cons layout '[' ']' (by simp)]
    cases room with
    | zero =>
      rw [kept_zero (v := .list (v :: vs)) (Nat.succ_pos _)]
      rfl
    | succ room =>
      have hparts : ∀ w ∈ (v :: vs).map (written layout.inner), Starts w := by
        simpa using hstarts
      have hinner := starts_intercalate layout.inner.separator (by simp) hparts
      have hfuel := length_le_length_intercalate layout.inner.separator hparts
      rw [value_list (fun c => Layout.isSpace_of_mem_lineStart) hinner, kept_list,
        items_intercalate (by simp) _ hstarts fun v hv => htakes v hv room]
      · cases (v :: vs).mapM (kept room) with
        | error e => rfl
        | ok found => rfl
      · rw [List.length_map] at hfuel
        rw [List.length_append]
        omega

/-- A mapping reads back if the value of each member does with one level less. -/
theorem takes_map {es : Entries} (layout : Layout) (htexts : ∀ e ∈ es, ∃ s, e.1 = .str s)
    (hdistinct : es.keys.Nodup) (hholds : ∀ e ∈ es, Holds e.2)
    (htakes : ∀ e ∈ es, ∀ room, Takes (value noHalves room) (written layout.inner e.2) (kept room e.2))
    (room : Nat) : Takes (value noHalves room) (written layout (.map es)) (kept room (.map es)) := by
  intro rest _
  have hstarts : ∀ e ∈ es, Starts (written layout.inner e.2) :=
    fun e he => (hholds e he).starts layout.inner
  rw [written, writtenMembers_eq]
  cases es with
  | nil =>
    cases room with
    | zero => rfl
    | succ room =>
      rw [kept_map]
      rfl
  | cons e es =>
    rw [bracketed_cons layout '\x7b' '\x7d' (by simp)]
    cases room with
    | zero =>
      rw [kept_zero (v := .map (e :: es)) (Nat.succ_pos _)]
      rfl
    | succ room =>
      have hparts : ∀ w ∈ (e :: es).map (memberText (written layout.inner)), Starts w := by
        intro w hw
        obtain ⟨e, he, rfl⟩ := List.mem_map.1 hw
        exact starts_memberText (htexts e he)
      have hinner := starts_intercalate layout.inner.separator (by simp) hparts
      have hfuel := length_le_length_intercalate layout.inner.separator hparts
      have hread : (Entries.keys [] ++ Entries.keys (e :: es)).Nodup := hdistinct
      rw [value_map (fun c => Layout.isSpace_of_mem_lineStart) hinner, kept_map,
        members_intercalate (by simp) _ htexts hread hstarts fun e he => htakes e he room]
      · cases (e :: es).mapM fun e => (kept room e.2).map fun v => (e.1, v) with
        | error e => rfl
        | ok found => rfl
      · rw [List.length_map] at hfuel
        rw [List.length_append]
        omega

/-- A written value reads back as itself if there is room for its lists and mappings. -/
theorem Holds.takes {v : Value} (h : Holds v) (layout : Layout) (room : Nat) :
    Takes (value noHalves room) (written layout v) (kept room v) := by
  induction h generalizing layout room with
  | list parts ih => exact takes_list layout parts (fun v hv => ih v hv layout.inner) room
  | map texts distinct parts ih =>
    exact takes_map layout texts distinct parts (fun e he => ih e he layout.inner) room
  | null => exact fun rest hrest => value_of_scalar .null hrest
  | bool b => exact fun rest hrest => value_of_scalar (.bool b) hrest
  | int short => exact fun rest hrest => value_of_scalar (.int short) hrest
  | str s => exact fun rest hrest => value_of_scalar (.str s) hrest

/-! ### ASCII -/

theorem mem_intercalate {sep : List Char} {parts : List (List Char)}
    (h : c ∈ sep.intercalate parts) : c ∈ sep ∨ ∃ w ∈ parts, c ∈ w := by
  induction parts with
  | nil => cases h
  | cons w ws ih =>
    cases ws with
    | nil =>
      rw [List.intercalate_singleton] at h
      exact .inr ⟨w, .head _, h⟩
    | cons w' ws =>
      rw [List.intercalate_cons_cons, List.append_assoc, List.mem_append, List.mem_append] at h
      rcases h with hfirst | hsep | hrest
      · exact .inr ⟨w, .head _, hfirst⟩
      · exact .inl hsep
      · rcases ih hrest with hsep | ⟨x, hx, hc⟩
        · exact .inl hsep
        · exact .inr ⟨x, .tail _ hx, hc⟩

theorem ascii_of_isSpace (h : isSpace c = true) : c.toNat < 0x80 := by
  simp only [isSpace, Bool.or_eq_true, beq_iff_eq] at h
  rcases h with ((rfl | rfl) | rfl) | rfl <;> decide

theorem ascii_of_mem_bracketed {left right : Char} {parts : List (List Char)}
    (hleft : left.toNat < 0x80) (hright : right.toNat < 0x80)
    (hparts : ∀ w ∈ parts, ∀ c ∈ w, c.toNat < 0x80)
    (h : c ∈ bracketed layout left right parts) : c.toNat < 0x80 := by
  by_cases hne : parts = []
  · subst hne
    simp only [bracketed, List.mem_cons, List.not_mem_nil, or_false] at h
    rcases h with rfl | rfl
    · exact hleft
    · exact hright
  · have hforms := bracketed_cons layout left right hne []
    rw [List.append_nil] at hforms
    rw [hforms] at h
    simp only [List.mem_cons, List.mem_append, List.not_mem_nil, or_false] at h
    rcases h with rfl | hstart | hinner | hend | rfl
    · exact hleft
    · exact ascii_of_isSpace (Layout.isSpace_of_mem_lineStart hstart)
    · rcases mem_intercalate hinner with hsep | ⟨w, hw, hc⟩
      · rw [Layout.separator_eq] at hsep
        rcases List.mem_cons.1 hsep with rfl | hgap
        · decide
        · exact ascii_of_isSpace (Layout.isSpace_of_mem_gap hgap)
      · exact hparts w hw c hc
    · exact ascii_of_isSpace (Layout.isSpace_of_mem_lineStart hend)
    · exact hright

theorem ascii_of_mem_intText {n : Int} (h : c ∈ (Decimal.intText n).toList) : c.toNat < 0x80 := by
  rw [Decimal.intText, String.toList_ofList] at h
  split at h
  · rcases List.mem_cons.1 h with rfl | hdigit
    · decide
    · exact ascii_of_mem_toDigits (by omega) (by omega) hdigit
  · exact ascii_of_mem_toDigits (by omega) (by omega) h

/-- A written value has only characters of ASCII. -/
theorem Holds.ascii {v : Value} (h : Holds v) (layout : Layout) :
    ∀ c ∈ written layout v, c.toNat < 0x80 := by
  induction h generalizing layout with
  | null =>
    show ∀ c ∈ "null".toList, c.toNat < 0x80
    decide
  | bool b =>
    show ∀ c ∈ scalarText (.bool b), c.toNat < 0x80
    cases b <;> decide
  | int short =>
    intro c hc
    exact ascii_of_mem_intText hc
  | str s =>
    intro c hc
    exact ascii_of_mem_quoted hc
  | list parts ih =>
    intro c hc
    rw [written, writtenItems_eq] at hc
    refine ascii_of_mem_bracketed (by decide) (by decide) ?_ hc
    intro w hw
    obtain ⟨v, hv, rfl⟩ := List.mem_map.1 hw
    exact ih v hv layout.inner
  | map texts distinct parts ih =>
    intro c hc
    rw [written, writtenMembers_eq] at hc
    refine ascii_of_mem_bracketed (by decide) (by decide) ?_ hc
    intro w hw x hx
    obtain ⟨e, he, rfl⟩ := List.mem_map.1 hw
    obtain ⟨s, hs⟩ := texts e he
    rw [memberText, hs] at hx
    rcases List.mem_append.1 hx with hkey | hrest
    · exact ascii_of_mem_quoted hkey
    · rcases List.mem_cons.1 hrest with rfl | hrest
      · decide
      · rcases List.mem_cons.1 hrest with rfl | hvalue
        · decide
        · exact ih e he layout.inner x hvalue

/-! ### Whole texts -/

theorem documentWithin_written {v : Value} (h : Holds v) (layout : Layout) (room : Nat) :
    documentWithin room (written layout v ++ ['\n']) = kept room v := by
  have hend : Ends ['\n'] := by
    rintro c ⟨⟩
    decide
  have hvalue := h.takes layout room ['\n'] hend
  have hstarts := h.starts layout
  have hmark : ¬((written layout v ++ ['\n']).head? == some '\uFEFF') = true := by
    obtain ⟨c, cs, hcs, -⟩ := hstarts
    have hascii : c.toNat < 0x80 := by
      apply h.ascii layout
      rw [hcs]
      exact .head _
    rw [hcs]
    simp only [List.cons_append, List.head?_cons, beq_iff_eq, Option.some.injEq]
    rintro rfl
    revert hascii
    decide
  rw [documentWithin, tornDocument, if_neg hmark, skipSpace_of_starts hstarts, hvalue]
  cases kept room v with
  | error e => rfl
  | ok w => rfl

theorem read_written [Capacity] {v : Value} (h : Holds v) (layout : Layout) :
    read (String.ofList (written layout v) ++ "\n") =
      if depth v ≤ Capacity.json then .ok v else .error .tooDeep := by
  have htext : (String.ofList (written layout v) ++ "\n").toList = written layout v ++ ['\n'] := by
    simp
  rw [read, htext, documentWithin_written h, kept]
  by_cases hdepth : depth v ≤ Capacity.json
  · rw [if_pos hdepth, if_pos hdepth]
  · rw [if_neg hdepth, if_neg hdepth]

end SchemaSheets.Json
