import SchemaSheets.Console.Markup

/-!
# Terminals

Where messages are shown.  A terminal has its own notion of what a tag may say
beside the name of a style: parameters, addresses, calls.  All that is known of
it is what it makes of tags that are bare names: it renders such a text exactly
if every tag that closes matches one that is open.
-/

namespace SchemaSheets

/-- What becomes of texts on a terminal. -/
class Terminal where
  /-- the cells of a line -/
  width : Nat
  /-- what shows of a text with markup, or why it cannot be rendered -/
  render : String → Except String String
  /-- the lines that trace a failure with a message -/
  trace : String → List String

namespace Markup

def isBare (inside : List Char) : Bool :=
  (match inside with
    | '/' :: name => name
    | name => name).all fun c => 'a' ≤ c && c ≤ 'z'

def IsBare (s : String) : Prop :=
  ∀ position inside, .tag position inside ∈ pieces s.toList → isBare inside = true

end Markup

namespace Terminal

def Lawful [Terminal] : Prop :=
  ∀ s, Markup.IsBare s →
    ((∃ text, render s = .ok text) ↔ ∃ text, Markup.render s = .ok text)

instance (priority := low) usual : Terminal where
  width := 4000
  render s := (Markup.render s).mapError Markup.Fault.message
  trace message := if (Markup.render message).toOption.isSome then ["Traceback"] else []

end Terminal

end SchemaSheets
