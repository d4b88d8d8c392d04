import SchemaSheets.Proofs.Schema.Lexing
import SchemaSheets.Proofs.Schema.Passing

/-!
# Definitions and their tokens

A document that was read falls into pieces, one for each definition.  The piece
of a type's definition or extension holds the name of the type and a piece for
each field, and the piece of a field holds its name and the tokens of its type
just as the document writes them.
-/

namespace SchemaSheets.Schema

/-- The tokens of a type. -/
def TypeExpr.lexemes : TypeExpr → List Lexeme
  | named name => [.name name]
  | list inner => .mark .bracketOpen :: (inner.lexemes ++ [.mark .bracketClose])
  | nonNull inner => inner.lexemes ++ [.mark .bang]

open Parse (Describes between InPieces)

/-- The tokens of a field: perhaps a description, its name, perhaps arguments, a colon, its type,
and perhaps directives. -/
def SpellsField (ls : List Lexeme) (f : FieldDefinition) : Prop :=
  ∃ description arguments directives,
    ls = description ++ (.name f.name :: (between .parenOpen .parenClose arguments ++
      .mark .colon :: (f.type.lexemes ++ directives))) ∧
    Describes description f.description ∧ ∀ l ∈ directives.head?, l = .mark .at

/-- The tokens of a type after its keyword: its name first, its fields last. -/
def SpellsType (ls : List Lexeme) (t : TypeDefinition) : Prop :=
  ∃ front fields, ls = .name t.name :: (front ++ between .braceOpen .braceClose fields) ∧
    List.Forall₂ SpellsField fields t.body.fields

/-- The tokens of a definition. -/
def SpellsDefinition (ls : List Lexeme) : Definition → Prop
  | .type t => ∃ description word after, ls = description ++ .name word :: after ∧
      Describes description t.description ∧ word ∈ Parse.typeWords ∧ SpellsType after t
  | .typeExtension t => ∃ word after, ls = .name "extend" :: .name word :: after ∧
      word ∈ Parse.typeWords ∧ SpellsType after t
  | _ => True

/-- The tokens of a document start with those of its definitions. -/
def SpellsDocument (ls : List Lexeme) (d : Document) : Prop :=
  ∃ definitions more, List.Forall₂ SpellsDefinition definitions d ∧
    ls = definitions.flatten ++ more

namespace Parse

variable {α β : Type} {R : List Lexeme → Definition → Prop} {T : List Lexeme → β → Prop}
  {items mid rest : List Item} {l first : Lexeme} {left : Nat} {s : String} {d : Option String}

/-! ### Types -/

theorem reads_bangAfter (t : TypeExpr) :
    Reads (bangAfter t) fun ls u => t.lexemes ++ ls = u.lexemes := by
  refine (reads_skip Lexeme.noConfusion).bind fun b ls hls => ?_
  subst hls
  cases b with
  | true => exact .pure rfl
  | false => exact .pure (List.append_nil _)

theorem reads_type (room : Nat) : Reads (type room) fun ls t => ls = t.lexemes := by
  have hnamed : Reads (name >>= fun n => bangAfter (.named n)) fun ls t => ls = t.lexemes := by
    refine reads_name.bind fun n ls hls => (reads_bangAfter _).mono fun more t ht => ?_
    rw [hls, ← ht]
    rfl
  induction room with
  | zero =>
    refine (reads_skip Lexeme.noConfusion).bind fun b ls hls => ?_
    subst hls
    cases b with
    | true => exact reads_tooDeep.bind fun _ _ => False.elim
    | false => exact hnamed
  | succ room ih =>
    refine (reads_skip Lexeme.noConfusion).bind fun b ls hls => ?_
    subst hls
    cases b with
    | true =>
      refine ih.bind fun inner written hinner => (reads_mark _).bind fun _ close hclose =>
        (reads_bangAfter _).mono fun bang t ht => ?_
      rw [hinner, hclose, ← ht]
      simp [TypeExpr.lexemes]
    | false => exact hnamed

/-! ### Parts that nest within a given room -/

theorem passes_selection (room : Nat) {inner : Parse (List Selection)} (hinner : Passes inner) :
    Passes (selection room inner) := by
  have hdirectives := passes_directives false room
  refine (passes_skip Lexeme.noConfusion).bind fun spread => ?_
  cases spread with
  | true =>
    refine (passes_skip Lexeme.noConfusion).bind fun on => ?_
    cases on with
    | true =>
      exact passes_name.bind fun _ => hdirectives.bind fun _ => hinner.bind fun _ => .pure
    | false =>
      refine reads_peek fun l => ?_
      split
      · exact passes_advance.bind fun _ => hdirectives.bind fun _ => .pure
      · exact hdirectives.bind fun _ => hinner.bind fun _ => .pure
  | false =>
    have hbody : Passes (do
        let args ← arguments false room
        let ds ← directives false room
        if (← peek) = .mark .braceOpen then return Selection.field args ds (← inner)
        else return Selection.field args ds []) := by
      refine (passes_arguments false room).bind fun _ => hdirectives.bind fun _ =>
        reads_peek fun l => ?_
      split
      · exact hinner.bind fun _ => .pure
      · exact Passes.pure
    refine passes_name.bind fun _ => (passes_skip Lexeme.noConfusion).bind fun aliased => ?_
    cases aliased with
    | true => exact passes_name.bind fun _ => hbody
    | false => exact hbody

theorem passes_selectionSet (room : Nat) : Passes (selectionSet room) := by
  induction room with
  | zero => exact reads_tooDeep
  | succ room ih => exact passes_anyBetween _ _ (passes_selection room ih)

theorem passes_operationKind : Passes operationKind := by
  refine reads_current fun found => passes_name.bind fun s => ?_
  split
  · exact .pure
  · exact .throw

theorem passes_root : Passes root :=
  passes_operationKind.bind fun _ => (passes_mark _).bind fun _ => passes_name.bind fun _ => .pure

theorem passes_position : Passes position := by
  refine reads_current fun found => passes_name.bind fun s => ?_
  split
  · exact .pure
  · exact .throw

theorem passes_interfaces : Passes interfaces := by
  refine (passes_skip Lexeme.noConfusion).bind fun b => ?_
  cases b with
  | true => exact passes_separated _ passes_name
  | false => exact .pure

/-- The type has a name, a description and no fields, so that it is spelled by whatever follows its
name. -/
def IsPlain (d : Option String) (label : String) (t : TypeDefinition) : Prop :=
  t.name = label ∧ t.description = d ∧ t.body.fields = []

theorem IsPlain.spellsType {d : Option String} {label : String} {t : TypeDefinition}
    (h : IsPlain d label t) (more : List Lexeme) :
    SpellsType ([.name label] ++ more) t ∧ t.description = d := by
  obtain ⟨rfl, hd, hfields⟩ := h
  refine ⟨⟨more, [], by simp [between], ?_⟩, hd⟩
  rw [hfields]
  exact .nil

/-- After the description, if there is one, stands the word that was looked at. -/
theorem readsAt_described_word {start : Nat} {k : Option String → Parse β}
    (hword : (.token first start :: items)[if isDescription first then 1 else 0]? =
      some (.token (.name s) left))
    (hk : ∀ d ls tail, Describes ls d →
      ReadsAt (.token (.name s) left :: tail) (k d) fun more b => T (ls ++ more) b) :
    ReadsAt (.token first start :: items) (description >>= k) T := by
  cases hfirst : isDescription first with
  | true =>
    rw [hfirst] at hword
    cases items with
    | nil => exact nomatch hword
    | cons item tail =>
      obtain rfl : item = .token (.name s) left := Option.some.inj hword
      intro b rest h
      cases first with
      | text t =>
        obtain ⟨passed, hpassed, hread⟩ := hk _ _ _ (.text t) h
        exact ⟨.token (.text t) start :: passed, by rw [hpassed]; rfl, hread⟩
      | block t =>
        obtain ⟨passed, hpassed, hread⟩ := hk _ _ _ (.block t) h
        exact ⟨.token (.block t) start :: passed, by rw [hpassed]; rfl, hread⟩
      | _ => exact nomatch hfirst
  | false =>
    rw [hfirst] at hword
    obtain ⟨⟩ := Option.some.inj hword
    exact hk none [] items .none

variable [Capacity]

/-! ### Operations and fragments -/

theorem reads_typeExpr : Reads typeExpr fun ls t => ls = t.lexemes := reads_type _

theorem passes_operationVariable : Passes operationVariable :=
  passes_description.bind fun _ => (passes_mark _).bind fun _ => passes_name.bind fun _ =>
    (passes_mark _).bind fun _ => reads_typeExpr.passes.bind fun _ => passes_fallback.bind fun _ =>
      (passes_directives true _).bind fun _ => .pure

theorem reads_operation : Reads operation fun _ d => ∀ ls, SpellsDefinition ls d := by
  have hrest (kind : Operation) : Reads (do
      let vs ← Parse.optional .parenOpen operationVariable .parenClose
      let ds ← directives false Capacity.schema
      return Definition.operation kind vs ds (← selections)) fun _ d => ∀ ls, SpellsDefinition ls d :=
    (reads_optional _ _ passes_operationVariable).passes.gives fun _ =>
      (passes_directives false _).gives fun _ => (passes_selectionSet _).gives fun _ =>
        .pure fun _ => trivial
  refine passes_description.gives fun _ => passes_operationKind.gives fun kind =>
    reads_peek fun l => ?_
  split
  · exact passes_advance.gives fun _ => hrest kind
  · exact hrest kind

theorem reads_fragment : Reads fragment fun _ d => ∀ ls, SpellsDefinition ls d := by
  have hrest : Reads (do
      let _ ← name
      keyword "on"
      let condition ← name
      let ds ← directives false Capacity.schema
      return Definition.fragment condition ds (← selections)) fun _ d =>
        ∀ ls, SpellsDefinition ls d :=
    passes_name.gives fun _ => (reads_keyword _).passes.gives fun _ => passes_name.gives fun _ =>
      (passes_directives false _).gives fun _ => (passes_selectionSet _).gives fun _ =>
        .pure fun _ => trivial
  refine passes_description.gives fun _ => (reads_keyword _).passes.gives fun _ =>
    reads_peek fun l => ?_
  split
  · exact Passes.gives reads_unexpected fun _ => hrest
  · exact Passes.gives reads_unexpected fun _ => hrest
  · exact Passes.gives reads_unexpected fun _ => hrest
  · exact hrest

/-! ### Fields -/

theorem passes_input : Passes input :=
  passes_description.bind fun _ => passes_name.bind fun _ => (passes_mark _).bind fun _ =>
    reads_typeExpr.passes.bind fun _ => passes_fallback.bind fun _ =>
      (passes_directives true _).bind fun _ => .pure

theorem reads_inputs : Reads inputs (InPieces (fun _ _ => True) (between .parenOpen .parenClose)) :=
  reads_optional _ _ passes_input

theorem reads_field : Reads field SpellsField := by
  refine reads_description.bind fun d description hd => reads_name.bind fun label ls hlabel =>
    reads_inputs.bind fun args written hargs => (reads_mark _).bind fun _ colon hcolon =>
    reads_typeExpr.bind fun t type ht => (reads_directives true _).bind fun ds directives hds =>
    .pure ?_
  obtain ⟨segments, -, rfl⟩ := hargs
  refine ⟨description, segments, directives, ?_, hd, hds⟩
  simp [hlabel, hcolon, ht]

/-! ### Types after their keyword -/

theorem passes_enumValue : Passes enumValue := by
  have hrest (d : Option String) : Passes (do
      let label ← name
      return (⟨d, label, ← constantDirectives⟩ : ValueDefinition)) :=
    passes_name.bind fun _ => (passes_directives true _).bind fun _ => .pure
  have hreserved (d : Option String) (s : String) (stop : Stop) : Passes (do
      if reservedNames.contains s then throw stop
      let label ← name
      return (⟨d, label, ← constantDirectives⟩ : ValueDefinition)) := by
    dsimp only
    split
    · exact Passes.bind Reads.throw fun _ => hrest d
    · exact hrest d
  refine passes_description.bind fun d => reads_current fun found => ?_
  dsimp only
  split
  · exact hreserved d _ _
  · exact hreserved d _ _
  · exact hreserved d _ _
  · exact hrest d

theorem reads_typeAfter (word : String) (d : Option String) :
    Reads (typeAfter word d) fun ls t => SpellsType ls t ∧ t.description = d := by
  refine reads_name.bind fun label ls hlabel => ?_
  subst hlabel
  have hdirectives := passes_directives true Capacity.schema
  split
  case h_5 =>
    refine Reads.bind passes_interfaces fun is names _ => (reads_directives true _).bind
      fun ds front _ => (reads_optional _ _ reads_field).bind fun fs fields hfields => .pure ?_
    obtain ⟨segments, hsegments, rfl⟩ := hfields
    refine ⟨⟨names ++ front, segments, by simp, ?_⟩, rfl⟩
    split
    · exact hsegments
    · exact hsegments
  all_goals refine Reads.mono (R := fun _ t => IsPlain d label t) ?_ fun more t h => h.spellsType more
  · exact hdirectives.gives fun _ => .pure ⟨rfl, rfl, rfl⟩
  · refine hdirectives.gives fun _ => (passes_skip Lexeme.noConfusion).gives fun b => ?_
    cases b with
    | true => exact (passes_separated _ passes_name).gives fun _ => .pure ⟨rfl, rfl, rfl⟩
    | false => exact .pure ⟨rfl, rfl, rfl⟩
  · exact hdirectives.gives fun _ => (reads_optional _ _ passes_enumValue).passes.gives fun _ =>
      .pure ⟨rfl, rfl, rfl⟩
  · exact hdirectives.gives fun _ => (reads_optional _ _ passes_input).passes.gives fun _ =>
      .pure ⟨rfl, rfl, rfl⟩

/-! ### Definitions -/

theorem passes_directiveDefinition : Passes directiveDefinition :=
  passes_description.bind fun _ => (reads_keyword _).passes.bind fun _ => (passes_mark _).bind fun _ =>
    passes_name.bind fun _ => reads_inputs.passes.bind fun _ =>
      (passes_directives true _).bind fun _ => (passes_skip Lexeme.noConfusion).bind fun _ =>
        (reads_keyword _).passes.bind fun _ => (passes_separated _ passes_position).bind fun _ =>
          .pure

/-- An extension after its keyword. -/
theorem readsAt_extension :
    ReadsAt (.token (.name "extend") left :: items) extension SpellsDefinition := by
  refine readsAt_ahead fun word place hword => ?_
  dsimp only
  split
  case h_3 s _ _ =>
    split
    next htype =>
      have hnext : Next items (.name s) := next_of_getElem hword
      obtain ⟨place, tail, rfl⟩ := hnext Lexeme.noConfusion
      refine readsAt_advance_bind (readsAt_advance_bind ?_)
      refine (reads_typeAfter s none _).bind fun t ls ht => ?_
      have hspelled : SpellsDefinition (.name "extend" :: .name s :: ls) (.typeExtension t) :=
        ⟨s, ls, rfl, by simpa using htype, ht.1⟩
      split
      · exact Reads.bind reads_unexpected fun _ _ => False.elim
      · exact .pure (by simpa using hspelled)
    next => exact .throw
  case h_4 => exact .throw
  all_goals refine Reads.mono (R := fun _ d => ∀ ls, SpellsDefinition ls d) ?_ (fun ls d h => h ls) _
  · refine passes_advance.gives fun _ => passes_advance.gives fun _ =>
      (passes_directives true _).gives fun ds =>
        (reads_optional _ _ passes_root).passes.gives fun roots => ?_
    split
    · exact Passes.gives reads_unexpected fun _ => .pure fun _ => trivial
    · exact .pure fun _ => trivial
  · refine passes_advance.gives fun _ => passes_advance.gives fun _ => (passes_mark _).gives fun _ =>
      passes_name.gives fun _ => (passes_directives true _).gives fun ds => ?_
    split
    · exact Passes.gives reads_unexpected fun _ => .pure fun _ => trivial
    · exact .pure fun _ => trivial

theorem reads_definition : Reads definition SpellsDefinition := by
  intro items
  cases items with
  | nil => exact nofun
  | cons item items =>
  cases item with
  | fault fault left => exact nofun
  | token first start =>
  -- the word stands behind a description, so that it is looked for at one of two places
  refine readsAt_current_token (readsAt_ahead fun word left hword => ?_)
  dsimp only
  split
  case h_8 s _ _ _ _ _ _ =>
    have hword := hword Lexeme.noConfusion
    split
    next htype =>
      refine readsAt_described_word hword fun d description tail hd => readsAt_advance_bind ?_
      refine (reads_typeAfter s d _).bind fun t ls ht => .pure ?_
      exact ⟨description, s, ls, by simp, by rwa [ht.2], by simpa using htype, ht.1⟩
    next =>
      split
      · exact ReadsAt.bind .throw fun _ _ => False.elim
      next hdescription =>
        split
        next hextend =>
          rw [Bool.not_eq_true] at hdescription
          rw [hdescription] at hword
          obtain ⟨⟩ := Option.some.inj hword
          obtain rfl : s = "extend" := by simpa using hextend
          exact readsAt_extension
        next => exact .throw
  case h_9 => exact .throw
  all_goals refine Reads.mono (R := fun _ d => ∀ ls, SpellsDefinition ls d) ?_ (fun ls d h => h ls) _
  · split
    · exact Passes.gives .throw fun _ => (passes_selectionSet _).gives fun _ => .pure fun _ => trivial
    · exact (passes_selectionSet _).gives fun _ => .pure fun _ => trivial
  · exact passes_description.gives fun _ => passes_advance.gives fun _ =>
      (passes_directives true _).gives fun _ => (reads_atLeastOne _ _ passes_root).passes.gives
        fun _ => .pure fun _ => trivial
  · exact passes_directiveDefinition.gives fun _ => .pure fun _ => trivial
  · exact reads_operation
  · exact reads_operation
  · exact reads_operation
  · exact reads_fragment

theorem reads_definitionsFrom (fuel : Nat) : Reads (definitionsFrom fuel)
    (InPieces SpellsDefinition List.flatten) := by
  induction fuel with
  | zero => exact reads_unexpected
  | succ fuel ih =>
    refine reads_definition.bind fun d segment hd => reads_peek fun l => ?_
    split
    · exact .pure ⟨[segment], .cons hd .nil, by simp⟩
    · refine ih.bind fun ds more hmore => .pure ?_
      obtain ⟨segments, hsegments, rfl⟩ := hmore
      exact ⟨segment :: segments, .cons hd hsegments, by simp⟩

theorem reads_document : Reads document (InPieces SpellsDefinition List.flatten) :=
  reads_get fun _ => reads_definitionsFrom _

end Parse

/-- A document is spelled by its tokens. -/
theorem spellsDocument_of_read [Capacity] {text : String} {d : Document}
    (h : Document.read text = .ok d) : SpellsDocument (lexemes (tokens text.toList)) d := by
  rw [Document.read] at h
  split at h
  next d' rest hread =>
    obtain ⟨⟩ := h
    obtain ⟨passed, hitems, definitions, hdefinitions, hpassed⟩ := Parse.reads_document _ hread
    refine ⟨definitions, lexemes rest, hdefinitions, ?_⟩
    rw [hitems, lexemes_append, hpassed]
  next => exact nomatch h

/-! ### Types among the tokens -/

section

variable {ls : List Lexeme} {f : FieldDefinition} {t : TypeDefinition} {d : Document}

theorem name_base_mem_lexemes (t : TypeExpr) : .name t.base ∈ t.lexemes := by
  induction t with
  | named name => exact List.mem_singleton_self _
  | list inner ih => exact List.mem_cons_of_mem _ (List.mem_append_left _ ih)
  | nonNull inner ih => exact List.mem_append_left _ ih

/-- A mark or a name as it is written; of another token its content. -/
def Lexeme.written : Lexeme → List Char
  | mark m => m.text.toList
  | name s | int s | float s | text s | block s => s.toList
  | endOfFile => []

/-- Schema notation is the tokens one after another. -/
theorem text_eq_written (t : TypeExpr) :
    t.text = String.ofList (t.lexemes.flatMap Lexeme.written) := by
  rw [← String.toList_inj, String.toList_ofList]
  induction t with
  | named name => simp [TypeExpr.text, TypeExpr.lexemes, Lexeme.written]
  | list inner ih => simp [TypeExpr.text, TypeExpr.lexemes, Lexeme.written, Mark.text, ih]
  | nonNull inner ih => simp [TypeExpr.text, TypeExpr.lexemes, Lexeme.written, Mark.text, ih]

theorem SpellsField.subset (h : SpellsField ls f) : f.type.lexemes ⊆ ls := by
  obtain ⟨description, arguments, directives, rfl, -, -⟩ := h
  intro l hl
  simp [hl]

theorem SpellsType.subset (h : SpellsType ls t) (hf : f ∈ t.body.fields) :
    f.type.lexemes ⊆ ls := by
  obtain ⟨front, fields, rfl, hfields⟩ := h
  obtain ⟨piece, hpiece, hsubset⟩ := Parse.exists_piece hfields hf
  have hbetween := Parse.flatten_subset_between .braceOpen .braceClose fields
  intro l hl
  have hmem := hbetween (hsubset (hpiece.subset hl))
  simp [hmem]

theorem SpellsDefinition.subset {x : Definition} (h : SpellsDefinition ls x)
    (hx : x = .type t ∨ x = .typeExtension t) (hf : f ∈ t.body.fields) : f.type.lexemes ⊆ ls := by
  rcases hx with rfl | rfl
  · obtain ⟨description, word, after, rfl, -, -, htype⟩ := h
    intro l hl
    simp [htype.subset hf hl]
  · obtain ⟨word, after, rfl, -, htype⟩ := h
    intro l hl
    simp [htype.subset hf hl]

/-- The tokens of a field's type are among those of the document that defines the field. -/
theorem SpellsDocument.subset (h : SpellsDocument ls d)
    (ht : .type t ∈ d ∨ .typeExtension t ∈ d) (hf : f ∈ t.body.fields) : f.type.lexemes ⊆ ls := by
  obtain ⟨definitions, more, hdefinitions, rfl⟩ := h
  have hpiece : ∃ piece, f.type.lexemes ⊆ piece ∧ piece ⊆ definitions.flatten := by
    rcases ht with ht | ht
    · obtain ⟨piece, hspelled, hsubset⟩ := Parse.exists_piece hdefinitions ht
      exact ⟨piece, hspelled.subset (.inl rfl) hf, hsubset⟩
    · obtain ⟨piece, hspelled, hsubset⟩ := Parse.exists_piece hdefinitions ht
      exact ⟨piece, hspelled.subset (.inr rfl) hf, hsubset⟩
  obtain ⟨piece, htype, hsubset⟩ := hpiece
  exact List.subset_append_of_subset_left _ fun l hl => hsubset (htype hl)

/-- No field of a document has a type with an empty name. -/
theorem base_ne_empty [Capacity] {text : String} (hread : Document.read text = .ok d)
    (ht : .type t ∈ d ∨ .typeExtension t ∈ d) (hf : f ∈ t.body.fields) : f.type.base ≠ "" := by
  intro hempty
  have hname := (spellsDocument_of_read hread).subset ht hf (name_base_mem_lexemes f.type)
  rw [hempty] at hname
  obtain ⟨left, hleft⟩ := mem_lexemes_iff.1 hname
  exact names_ne_empty hleft

end

end SchemaSheets.Schema
