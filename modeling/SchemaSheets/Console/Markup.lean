import SchemaSheets.Console.Emoji
import SchemaSheets.Console.Style
import SchemaSheets.Decimal.Layout

/-!
# Markup on the console

Texts on the console may hold tags in brackets, which style what follows them
and do not show.  A tag that starts with a slash closes an open one.  `escape`
puts a backslash before whatever would be a tag, so that it shows as it is;
`render` gives the text that shows, with emoji for their codes.  Of a tag only
the name before an equals sign counts here.
-/

namespace SchemaSheets.Markup

/-! ### Tags -/

def startsTag (c : Char) : Bool :=
  ('a' ≤ c && c ≤ 'z') || c == '#' || c == '/' || c == '@'

def tag? : List Char → Option (List Char × List Char)
  | '[' :: c :: rest =>
    let more := rest.takeWhile fun x => x != '[' && x != ']'
    match rest.drop more.length with
    | ']' :: after => if startsTag c then some (c :: more, after) else none
    | _ => none
  | _ => none

def escapedTag? (cs : List Char) : Option (Nat × List Char × List Char) :=
  let slashes := (cs.takeWhile (· == '\\')).length
  (tag? (cs.drop slashes)).map fun (inside, after) => (slashes, inside, after)

/-! ### Escaping -/

def escapeFrom : Nat → List Char → List Char
  | 0, cs => cs
  | _, [] => []
  | fuel + 1, c :: cs =>
    match escapedTag? (c :: cs) with
    | some (slashes, inside, after) =>
      List.replicate (2 * slashes + 1) '\\' ++ '[' :: inside ++ ']' :: escapeFrom fuel after
    | none => c :: escapeFrom fuel cs

/-- A text with its tags escaped.  A single backslash at the end is doubled. -/
def escape (s : String) : String :=
  let escaped := escapeFrom s.length s.toList
  match escaped.reverse with
  | ['\\'] => String.ofList (escaped ++ ['\\'])
  | '\\' :: c :: _ => String.ofList (if c == '\\' then escaped else escaped ++ ['\\'])
  | _ => String.ofList escaped

/-! ### Pieces -/

inductive Piece where
  | text (cs : List Char)
  /-- a tag, and the number of characters before it -/
  | tag (position : Nat) (inside : List Char)
  deriving DecidableEq, Repr

def textThen (cs : List Char) (pieces : List Piece) : List Piece :=
  if cs.isEmpty then pieces else .text cs :: pieces

/-- The pieces of a text from a position on; `plain` holds the characters since the last piece, the
last one first. -/
def piecesFrom : Nat → Nat → List Char → List Char → List Piece
  | _, _, plain, [] => textThen plain.reverse []
  | 0, _, plain, cs => textThen (plain.reverse ++ cs) []
  | fuel + 1, position, plain, c :: cs =>
    match escapedTag? (c :: cs) with
    | none => piecesFrom fuel (position + 1) (c :: plain) cs
    | some (slashes, inside, after) =>
      let next := position + slashes + inside.length + 2
      let shown := List.replicate (slashes / 2) '\\'
      let piece : Piece :=
        if slashes % 2 = 1 then .text ('[' :: inside ++ [']'])
        else .tag (position + slashes) inside
      textThen plain.reverse <| textThen shown <| piece :: piecesFrom fuel next [] after

def pieces (cs : List Char) : List Piece := piecesFrom cs.length 0 [] cs

/-! ### Rendering -/

inductive Fault where
  | unmatched (tag : String) (position : Nat)
  | nothingToClose (position : Nat)
  /-- a number is missing in a style -/
  | noNumber
  deriving DecidableEq, Repr

def Fault.message : Fault → String
  | unmatched tag position =>
    "closing tag '[" ++ tag ++ "]' at position " ++ Decimal.intText position ++
      " doesn't match any open tag"
  | nothingToClose position =>
    "closing tag '[/]' at position " ++ Decimal.intText position ++ " has nothing to close"
  | noNumber => "invalid literal for int() with base 10: ''"

def tagName (inside : List Char) : List Char := inside.takeWhile (· != '=')

def styleOf (name : List Char) : Except Fault String :=
  (Style.normalForm name).mapError fun _ => .noNumber

def openAfter (stack : List String) (position : Nat) (inside : List Char) :
    Except Fault (List String) := do
  match tagName inside with
  | '/' :: name =>
    if (Text.trim name).isEmpty then
      match stack with
      | [] => throw (.nothingToClose position)
      | _ :: rest => return rest
    else
      let style ← styleOf name
      if stack.contains style then return stack.erase style
      else throw (.unmatched (String.ofList inside) position)
  | name => return (← styleOf name) :: stack

def unslashed : List Char → List Char
  | '\\' :: '[' :: rest => '[' :: unslashed rest
  | c :: rest => c :: unslashed rest
  | [] => []

/-- The characters that pieces show, given the open tags.  Emoji codes do not reach across pieces. -/
def shownFrom (stack : List String) : List Piece → Except Fault (List Char)
  | [] => .ok []
  | .text cs :: rest => (shownFrom stack rest).map (Emoji.shown (unslashed cs) ++ ·)
  | .tag position inside :: rest => do shownFrom (← openAfter stack position inside) rest

def isControl (c : Char) : Bool :=
  c == '\x07' || c == '\x08' || c == '\x0b' || c == '\x0c' || c == '\r'

def render (s : String) : Except Fault String :=
  (shownFrom [] (pieces s.toList)).map fun cs => String.ofList (cs.filter (!isControl ·))

example : (render "[bold]B[/bold] [x]").toOption = some "B " := by decide +kernel

example : (render (escape "a [b] [/c]")).toOption = some "a [b] [/c]" := by decide +kernel

end SchemaSheets.Markup
