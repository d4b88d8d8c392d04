import SchemaSheets.Text.Digits
import SchemaSheets.Text.Hex
import SchemaSheets.Value.Display

/-!
# Tokens of the schema language

A schema document is a sequence of names, numbers, texts and marks.  Blanks,
commas, line ends, comments and a byte order mark separate tokens and mean
nothing else.  `tokens` cuts a document into them.  The sequence closes with
the end of the file, or with the fault at which it had to stop; a fault counts
only for a reader that gets as far.
-/

namespace SchemaSheets.Schema

inductive Mark where
  | bang
  | dollar
  | ampersand
  | parenOpen
  | parenClose
  | spread
  | colon
  | equals
  | at
  | bracketOpen
  | bracketClose
  | braceOpen
  | pipe
  | braceClose
  deriving DecidableEq, Repr

namespace Mark

def text : Mark → String
  | bang => "!"
  | dollar => "$"
  | ampersand => "&"
  | parenOpen => "("
  | parenClose => ")"
  | spread => "..."
  | colon => ":"
  | equals => "="
  | .at => "@"
  | bracketOpen => "["
  | bracketClose => "]"
  | braceOpen => "\x7b"
  | pipe => "|"
  | braceClose => "\x7d"

def ofChar? : Char → Option Mark
  | '!' => some bang
  | '$' => some dollar
  | '&' => some ampersand
  | '(' => some parenOpen
  | ')' => some parenClose
  | ':' => some colon
  | '=' => some equals
  | '@' => some .at
  | '[' => some bracketOpen
  | ']' => some bracketClose
  | '\x7b' => some braceOpen
  | '|' => some pipe
  | '\x7d' => some braceClose
  | _ => none

end Mark

inductive Lexeme where
  | mark (m : Mark)
  | name (s : String)
  | int (digits : String)
  | float (digits : String)
  | text (s : String)
  /-- a text between triple quotes, its common indentation removed -/
  | block (s : String)
  | endOfFile
  deriving DecidableEq, Repr

namespace Lexeme

def kindWith (kind content : String) : String := kind ++ " '" ++ content ++ "'"

def describe : Lexeme → String
  | mark m => "'" ++ m.text ++ "'"
  | name s => kindWith "Name" s
  | int s => kindWith "Int" s
  | float s => kindWith "Float" s
  | text s => kindWith "String" s
  | block s => kindWith "BlockString" s
  | endOfFile => "<EOF>"

end Lexeme

inductive LexicalFault where
  | twoDots
  | numberWithoutWhole (digits : List Char)
  | singleQuote
  | unexpected (c : Char)
  | digitAfterZero (c : Char)
  | digitExpected (found : Option Char)
  | unicodeEscape (written : List Char)
  | characterEscape (written : List Char)
  | unterminatedText
  deriving DecidableEq, Repr

namespace LexicalFault

def shown : Option Char → String
  | none => "<EOF>"
  | some c =>
    if 0x20 ≤ c.toNat && c.toNat < 0x7F then
      if c == '"' then "'\"'" else "'" ++ String.ofList [c] ++ "'"
    else
      "U+" ++ String.ofList ((Display.hex 4 c.toNat).map Char.toUpper)

def message : LexicalFault → String
  | twoDots => "Unexpected '..', did you mean '...'?"
  | numberWithoutWhole digits =>
    "Invalid number, expected digit before '.', did you mean '0." ++ String.ofList digits ++ "'?"
  | singleQuote =>
    "Unexpected single quote character ('), did you mean to use a double quote (\")?"
  | unexpected c => "Unexpected character: " ++ shown (some c) ++ "."
  | digitAfterZero c => "Invalid number, unexpected digit after 0: " ++ shown (some c) ++ "."
  | digitExpected found => "Invalid number, expected digit but got: " ++ shown found ++ "."
  | unicodeEscape written =>
    "Invalid Unicode escape sequence: '" ++ String.ofList written ++ "'."
  | characterEscape written =>
    "Invalid character escape sequence: '" ++ String.ofList written ++ "'."
  | unterminatedText => "Unterminated string."

end LexicalFault

/-- A token or a fault, with the number of characters left where it starts. -/
inductive Item where
  | token (lexeme : Lexeme) (left : Nat)
  | fault (cause : LexicalFault) (left : Nat)
  deriving DecidableEq, Repr

/-- What a part of a token gives: what was read and the characters after it, or a fault. -/
abbrev Cut (α : Type) := Except (LexicalFault × Nat) (α × List Char)

/-! ### Characters -/

def isNameStart (c : Char) : Bool := ('a' ≤ c && c ≤ 'z') || ('A' ≤ c && c ≤ 'Z') || c == '_'

def isNameChar (c : Char) : Bool := isNameStart c || Text.isDigit c

def isIgnored (c : Char) : Bool :=
  c == ' ' || c == '\t' || c == ',' || c == '\n' || c == '\r' || c == '\uFEFF'

/-- The characters from the next token on.  A comment goes on to the end of its line. -/
def skipIgnored (inComment : Bool) : List Char → List Char
  | [] => []
  | c :: rest =>
    if inComment then skipIgnored (c != '\n' && c != '\r') rest
    else if c == '#' then skipIgnored true rest
    else if isIgnored c then skipIgnored false rest
    else c :: rest

/-! ### Numbers -/

def digits : List Char → Cut (List Char)
  | [] => .error (.digitExpected none, 0)
  | c :: rest =>
    if Text.isDigit c then .ok ((c :: rest).takeWhile Text.isDigit, (c :: rest).dropWhile Text.isDigit)
    else .error (.digitExpected (some c), rest.length + 1)

def wholePart : List Char → Cut (List Char)
  | '0' :: c :: rest =>
    if Text.isDigit c then .error (.digitAfterZero c, rest.length + 1) else .ok (['0'], c :: rest)
  | cs => digits cs

def fractionPart : List Char → Cut (List Char)
  | '.' :: rest => (digits rest).map fun (ds, rest) => ('.' :: ds, rest)
  | cs => .ok ([], cs)

def exponentPart : List Char → Cut (List Char)
  | [] => .ok ([], [])
  | c :: rest =>
    if c == 'e' || c == 'E' then
      match rest with
      | s :: more =>
        if s == '+' || s == '-' then (digits more).map fun (ds, rest) => (c :: s :: ds, rest)
        else (digits rest).map fun (ds, rest) => (c :: ds, rest)
      | [] => (digits rest).map fun (ds, rest) => (c :: ds, rest)
    else .ok ([], c :: rest)

/-- A number; neither a point nor the start of a name may follow it. -/
def number (cs : List Char) : Except (LexicalFault × Nat) (Lexeme × List Char) := do
  let (sign, rest) := match cs with
    | '-' :: rest => (['-'], rest)
    | rest => ([], rest)
  let (whole, rest) ← wholePart rest
  let (fraction, rest) ← fractionPart rest
  let (exponent, rest) ← exponentPart rest
  match rest with
  | c :: _ => if c == '.' || isNameStart c then throw (.digitExpected (some c), rest.length)
  | [] => pure ()
  let written := String.ofList (sign ++ whole ++ fraction ++ exponent)
  return (if fraction.isEmpty && exponent.isEmpty then .int written else .float written, rest)

/-! ### Texts -/

def escaped? : Char → Option Char
  | '"' => some '"'
  | '\\' => some '\\'
  | '/' => some '/'
  | 'b' => some '\x08'
  | 'f' => some '\x0c'
  | 'n' => some '\n'
  | 'r' => some '\r'
  | 't' => some '\t'
  | _ => none

/-- The character of an escape with braces, given the characters after the opening one. -/
def bracedEscape (cs : List Char) : Except LexicalFault (Char × List Char) :=
  let hex := (cs.take 9).takeWhile fun c => (Text.hexDigit? c).isSome
  let rest := cs.drop hex.length
  let seen := if hex.length < 9 then hex ++ rest.take 1 else hex
  let fault := LexicalFault.unicodeEscape ('\\' :: 'u' :: '\x7b' :: seen)
  match hex, rest with
  | _ :: _, '\x7d' :: after =>
    match (Text.hexValue? hex).bind Text.charOfCode? with
    | some c => if hex.length < 9 then .ok (c, after) else .error fault
    | none => .error fault
  | _, _ => .error fault

/-- The character of an escape with four digits, given the characters after the letter. -/
def plainEscape (cs : List Char) : Except LexicalFault (Char × List Char) :=
  let fault := LexicalFault.unicodeEscape ('\\' :: 'u' :: cs.take 4)
  match cs with
  | a :: b :: c :: d :: rest =>
    match Text.hex4? a b c d with
    | none => .error fault
    | some n =>
      match Text.charOfCode? n with
      | some c => .ok (c, rest)
      | none =>
        match rest with
        | '\\' :: 'u' :: e :: f :: g :: h :: rest =>
          match Text.hex4? e f g h with
          | some m =>
            if Text.isHighSurrogate n && Text.isLowSurrogate m then
              .ok (Text.joinSurrogates n m, rest)
            else .error fault
          | none => .error fault
        | _ => .error fault
  | _ => .error fault

def escape : List Char → Except LexicalFault (Char × List Char)
  | 'u' :: '\x7b' :: rest => bracedEscape rest
  | 'u' :: rest => plainEscape rest
  | c :: rest =>
    match escaped? c with
    | some e => .ok (e, rest)
    | none => .error (.characterEscape ['\\', c])
  | [] => .error (.characterEscape ['\\'])

/-- The rest of a text after its opening quote; `read` holds its characters so far in reverse. -/
def textBody : Nat → List Char → List Char → Cut (List Char)
  | 0, _, cs => .error (.unterminatedText, cs.length)
  | fuel + 1, read, cs =>
    match cs with
    | [] => .error (.unterminatedText, 0)
    | '"' :: rest => .ok (read.reverse, rest)
    | '\\' :: rest =>
      match escape rest with
      | .ok (c, rest) => textBody fuel (c :: read) rest
      | .error fault => .error (fault, rest.length + 1)
    | c :: rest =>
      if c == '\n' || c == '\r' then .error (.unterminatedText, rest.length + 1)
      else textBody fuel (c :: read) rest

/-- The lines of a block text after its opening quotes.  `lines` holds the lines so far and `line`
the characters of the current one, both in reverse. -/
def blockBody (lines : List (List Char)) (line : List Char) : List Char → Cut (List (List Char))
  | [] => .error (.unterminatedText, 0)
  | '"' :: '"' :: '"' :: rest => .ok ((line.reverse :: lines).reverse, rest)
  | '\\' :: '"' :: '"' :: '"' :: rest => blockBody lines ('"' :: '"' :: '"' :: line) rest
  | '\r' :: '\n' :: rest => blockBody (line.reverse :: lines) [] rest
  | '\r' :: rest => blockBody (line.reverse :: lines) [] rest
  | '\n' :: rest => blockBody (line.reverse :: lines) [] rest
  | c :: rest => blockBody lines (c :: line) rest

def isIndent (c : Char) : Bool := c == ' ' || c == '\t'

def isEmptyLine (line : List Char) : Bool := line.all isIndent

def commonIndent (lines : List (List Char)) : Nat :=
  let widths := (lines.filter (!isEmptyLine ·)).map fun l => (l.takeWhile isIndent).length
  match widths with
  | [] => 0
  | w :: ws => ws.foldl min w

/-- The lines of a block text without the indentation that all but the first share, and without
empty lines at either end. -/
def dedent : List (List Char) → List (List Char)
  | [] => []
  | first :: rest =>
    let lines := first :: rest.map (·.drop (commonIndent rest))
    ((lines.dropWhile isEmptyLine).reverse.dropWhile isEmptyLine).reverse

/-! ### Tokens -/

/-- The token at the front and the characters after it. -/
def firstToken (cs : List Char) : Cut Lexeme :=
  match cs with
  | [] => .ok (.endOfFile, [])
  | '.' :: '.' :: '.' :: rest => .ok (.mark .spread, rest)
  | '.' :: '.' :: rest => .error (.twoDots, rest.length + 2)
  | '"' :: '"' :: '"' :: rest =>
    (blockBody [] [] rest).map fun (lines, rest) =>
      (.block (String.ofList (['\n'].intercalate (dedent lines))), rest)
  | '"' :: rest =>
    (textBody (rest.length + 1) [] rest).map fun (s, rest) => (.text (String.ofList s), rest)
  | c :: rest =>
    match Mark.ofChar? c with
    | some m => .ok (.mark m, rest)
    | none =>
      if Text.isDigit c || c == '-' then number cs
      else if isNameStart c then
        .ok (.name (String.ofList (cs.takeWhile isNameChar)), cs.dropWhile isNameChar)
      else if c == '\'' then .error (.singleQuote, cs.length)
      else if c == '.' && rest.head?.any Text.isDigit then
        .error (.numberWithoutWhole (rest.takeWhile Text.isDigit), cs.length)
      else .error (.unexpected c, cs.length)

def tokensFrom : Nat → List Char → List Item
  | 0, cs => [.token .endOfFile cs.length]
  | fuel + 1, cs =>
    let cs := skipIgnored false cs
    match firstToken cs with
    | .ok (.endOfFile, _) => [.token .endOfFile 0]
    | .ok (lexeme, rest) => .token lexeme cs.length :: tokensFrom fuel rest
    | .error (fault, left) => [.fault fault left]

def tokens (cs : List Char) : List Item := tokensFrom (cs.length + 1) cs

end SchemaSheets.Schema
