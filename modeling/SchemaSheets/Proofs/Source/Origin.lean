import SchemaSheets.Proofs.Schema.Lexing
import SchemaSheets.Proofs.Session.Account
import SchemaSheets.Proofs.Url.Front
import SchemaSheets.Source.Origin

/-!
# URLs and schema documents

No text is both an absolute URL and a schema document.  Up to characters that a
URL drops at its front, an absolute URL starts with the name of a scheme.  A
document that has one of these characters at its front either passes over it as
well or stops at it, and no definition starts with the name of a scheme.
-/

namespace SchemaSheets

/-! ### The front of a document -/

namespace Schema

variable {c : Char} {gap word : List Char} {w : String} {items : List Item} {left : Nat}

/-- A document passes over a gap that a URL drops, or stops in it. -/
theorem skipIgnored_gap (hgap : ∀ c ∈ gap, Url.isDropped c = true) (rest : List Char) :
    skipIgnored false (gap ++ rest) = skipIgnored false rest ∨
      ∃ c more, Url.isDropped c = true ∧ skipIgnored false (gap ++ rest) = c :: more := by
  induction gap with
  | nil => exact .inl rfl
  | cons c gap ih =>
    have hc := hgap c List.mem_cons_self
    have hcode := Url.code_of_isDropped hc
    have hhash : (c == '#') = false := by
      rw [beq_eq_false_iff_ne]
      rintro rfl
      revert hcode
      decide
    rw [List.cons_append, skipIgnored]
    simp only [Bool.false_eq_true, ↓reduceIte, hhash]
    split
    · exact ih fun d hd => hgap d (List.mem_cons_of_mem c hd)
    · exact .inr ⟨c, gap ++ rest, hc, rfl⟩

/-- Letters, of either case, start names. -/
theorem scheme_letters (h : word.map Words.toLower ∈ Url.fetchSchemes) :
    ∀ c ∈ word, isNameStart c = true := by
  intro c hc
  simp only [isNameStart, Bool.or_eq_true]
  exact .inl (Url.letters_of_scheme h c hc).symm

/-- The name of a scheme with a colon after it is a name with a mark after it. -/
theorem firstToken_scheme (h : word.map Words.toLower ∈ Url.fetchSchemes) (rest : List Char) :
    firstToken (word ++ ':' :: rest) = .ok (.name (String.ofList word), ':' :: rest) := by
  have hname : ∀ c ∈ word, isNameChar c = true := by
    intro c hc
    rw [isNameChar, scheme_letters h c hc, Bool.true_or]
  cases word with
  | nil => exact absurd h (by decide)
  | cons c word =>
    rw [List.cons_append, firstToken_name (scheme_letters h c List.mem_cons_self),
      ← List.cons_append, List.takeWhile_append_of_pos hname, List.dropWhile_append_of_pos hname]
    have hcolon : isNameChar ':' = false := by decide
    simp [hcolon]

theorem skipIgnored_scheme (h : word.map Words.toLower ∈ Url.fetchSchemes) (rest : List Char) :
    skipIgnored false (word ++ ':' :: rest) = word ++ ':' :: rest := by
  cases word with
  | nil => exact absurd h (by decide)
  | cons c word => exact skipIgnored_name (scheme_letters h c List.mem_cons_self) _

/-! ### Where reading stops -/

/-- The words that definitions start with. -/
def definitionWords : List String :=
  ["schema", "directive", "query", "mutation", "subscription", "fragment", "extend"] ++
    Parse.typeWords

theorem scheme_not_definitionWord (h : word.map Words.toLower ∈ Url.fetchSchemes) :
    String.ofList word ∉ definitionWords := by
  intro hmem
  have hwords : ∀ w ∈ definitionWords, w.toList.map Words.toLower ∉ Url.fetchSchemes := by decide
  have hword := hwords _ hmem
  rw [String.toList_ofList] at hword
  contradiction

theorem document_stops [Capacity] {stop : Stop} (h : Parse.definition.run items = .error stop) :
    Parse.document.run items = .error stop := by
  simp only [Parse.document, Parse.definitionsFrom, StateT.run_bind, StateT.run_get, pure_bind, h]
  rfl

theorem definition_fault [Capacity] {fault : LexicalFault} :
    Parse.definition.run (.fault fault left :: items) = .error ⟨.lexical fault, left⟩ := rfl

theorem definition_name [Capacity] (h : w ∉ definitionWords) :
    Parse.definition.run (.token (.name w) left :: items) = .error ⟨.unexpected (.name w), left⟩ := by
  have hne : ∀ s ∈ definitionWords, w ≠ s := fun s hs => ne_of_mem_of_not_mem hs h |>.symm
  have htype : Parse.typeWords.contains w = false := by
    simpa using fun hw => h (List.mem_append_right _ hw)
  have hextend : (w == "extend") = false := by
    simpa using hne "extend" (by decide)
  simp only [Parse.definition, Parse.current, Parse.ahead, Parse.isDescription, StateT.run_bind,
    StateT.run_get, pure_bind, List.getElem?_cons_zero, StateT.run_pure, Bool.false_eq_true,
    ↓reduceIte]
  split
  case h_8 s _ _ _ _ _ _ hs =>
    obtain rfl := Lexeme.name.inj hs
    rw [htype, hextend]
    rfl
  case h_9 => rfl
  all_goals first
    | exact absurd (Lexeme.name.inj ‹Lexeme.name w = _›) (hne _ (by decide))
    | contradiction

/-! ### Both at once -/

/-- Reading stops at a dropped character or at the name of the scheme. -/
theorem document_stops_at_front [Capacity] (hgap : ∀ c ∈ gap, Url.isDropped c = true)
    (hword : word.map Words.toLower ∈ Url.fetchSchemes) (rest : List Char) :
    ∃ stop, Parse.document.run (tokens (gap ++ (word ++ ':' :: rest))) = .error stop := by
  rw [tokens, tokensFrom]
  -- what a URL drops at its front may be no separator of tokens, such as a form feed
  rcases skipIgnored_gap hgap (word ++ ':' :: rest) with hskip | ⟨c, more, hc, hskip⟩
  · have hscheme := skipIgnored_scheme hword rest
    rw [hskip, hscheme]
    simp only [firstToken_scheme hword]
    exact ⟨_, document_stops (definition_name (scheme_not_definitionWord hword))⟩
  · have hcode := Url.code_of_isDropped hc
    have hfirst := firstToken_unexpected (c := c) (by omega) more
    rw [hskip]
    simp only [hfirst]
    exact ⟨_, document_stops definition_fault⟩

/-- An absolute URL is no schema document. -/
theorem read_stops_of_isAbsolute [Capacity] {text : String} (h : Url.isAbsolute text.toList = true) :
    ∃ e, Document.read text = .error e := by
  obtain ⟨gap, word, rest, htext, hgap, hword⟩ := Url.front_of_isAbsolute h
  obtain ⟨stop, hstop⟩ := document_stops_at_front hgap hword rest
  rw [← htext] at hstop
  exact ⟨_, by rw [Document.read, hstop]⟩

theorem ofText_of_read [Capacity] {text : String} {e : LocatedError}
    (h : Document.read text = .error e) :
    TypeSystem.ofText text = .error (.syntaxFault e) := by
  rw [TypeSystem.ofText, h]
  rfl

end Schema

namespace Introspection

open Schema

theorem requests_of_not_isAbsolute [Capacity] {network : Http.Network} {s : Session} {text : String}
    (h : Url.isAbsolute text.toList = false) :
    (Run.from_ s (ofValue network (.str text))).2.requests = s.requests := by
  rw [ofValue, h]
  simp

/-- A text that counts as a URL is no schema document, so whatever is sent over the network for a
text, no schema could have been built from it. -/
theorem no_text_is_url_and_document [Capacity] (network : Http.Network) (s : Session) (text : String) :
    (Url.isAbsolute text.toList = true → ∃ e, Document.read text = .error e) ∧
      ((Run.from_ s (ofValue network (.str text))).2.requests ≠ s.requests →
        ∃ e, TypeSystem.ofText text = .error (.syntaxFault e)) := by
  refine ⟨read_stops_of_isAbsolute, fun hsent => ?_⟩
  cases habsolute : Url.isAbsolute text.toList with
  | false => exact absurd (requests_of_not_isAbsolute habsolute) hsent
  | true =>
    obtain ⟨e, he⟩ := read_stops_of_isAbsolute habsolute
    exact ⟨e, ofText_of_read he⟩

/-- An address with blanks and line ends around it. -/
def spacedAddress : String := "\t HTTPS://example.org/graphql\n"

theorem spaced_address_is_no_document :
    Url.isAbsolute spacedAddress.toList = true ∧ (∃ e, Document.read spacedAddress = .error e) ∧
      (Run.from_ {} (ofValue Http.Network.unreachable (.str spacedAddress))).2.requests ≠ [] ∧
        ∃ e, TypeSystem.ofText spacedAddress = .error (.syntaxFault e) := by
  have habsolute : Url.isAbsolute spacedAddress.toList = true := by decide +kernel
  have hsent : (Run.from_ {}
      (ofValue Http.Network.unreachable (.str spacedAddress))).2.requests ≠ [] := by
    decide +kernel
  have hboth := no_text_is_url_and_document Http.Network.unreachable {} spacedAddress
  exact ⟨habsolute, hboth.1 habsolute, hsent, hboth.2 hsent⟩

end Introspection

end SchemaSheets
