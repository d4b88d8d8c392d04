import SchemaSheets.Schema.Document
import SchemaSheets.Schema.Token

/-!
# Written values

Values as schema documents write them: texts in double quotes with escapes,
block texts between triple quotes, lists in brackets and objects in braces.
A list or object that is too long for a line has its members on lines of their
own.
-/

namespace SchemaSheets.Schema

namespace Literal

def numbered (c : Char) : List Char := '\\' :: 'u' :: (Display.hex 4 c.toNat).map Char.toUpper

def textChar (c : Char) : List Char :=
  if c == '"' then ['\\', '"']
  else if c == '\\' then ['\\', '\\']
  else if c == '\x08' then ['\\', 'b']
  else if c == '\t' then ['\\', 't']
  else if c == '\n' then ['\\', 'n']
  else if c == '\x0c' then ['\\', 'f']
  else if c == '\r' then ['\\', 'r']
  else if c.toNat < 0x20 || (0x7F ≤ c.toNat && c.toNat < 0xA0) then numbered c
  else [c]

def quoted (s : String) : List Char := '"' :: s.toList.flatMap textChar ++ ['"']

def escapeQuotes : List Char → List Char
  | '"' :: '"' :: '"' :: rest => '\\' :: '"' :: '"' :: '"' :: escapeQuotes rest
  | c :: rest => c :: escapeQuotes rest
  | [] => []

/-- A block text between triple quotes.  It stands on lines of its own unless
it is a short single line that the quotes do not disturb. -/
def blockText (s : String) : List Char :=
  let cs := s.toList
  let escaped := escapeQuotes cs
  let lines := escaped.splitOnP (· == '\n')
  let single := lines.length == 1
  let leading := !single && (lines.drop 1).all fun l => l.head?.all isIndent
  let tripled := ['\\', '"', '"', '"'].isSuffixOf escaped
  let trailing := (['"'].isSuffixOf cs && !tripled) || ['\\'].isSuffixOf cs
  let several := !single || 70 < cs.length || trailing || leading || tripled
  let skipFirst := single && cs.head?.any isIndent
  let before := if (several && !skipFirst) || leading then ['\n'] else []
  let after := if several || trailing then ['\n'] else []
  ['"', '"', '"'] ++ before ++ escaped ++ after ++ ['"', '"', '"']

def lineWidth : Nat := 80

def indented (cs : List Char) : List Char :=
  ' ' :: ' ' :: cs.flatMap fun c => if c == '\n' then ['\n', ' ', ' '] else [c]

/-- Members between brackets: on one line if they fit there with `pad` inside the brackets, else
each on a line of its own. -/
def bracketed (opening closing : Char) (pad : List Char) (members : List (List Char)) : List Char :=
  let line := opening :: pad ++ [',', ' '].intercalate members ++ pad ++ [closing]
  if line.length ≤ lineWidth then line
  else opening :: '\n' :: indented (['\n'].intercalate members) ++ ['\n', closing]

mutual
def written : Literal → List Char
  | variableNamed name => '$' :: name.toList
  | int digits | float digits => digits.toList
  | text s => quoted s
  | block s => blockText s
  | bool true => "true".toList
  | bool false => "false".toList
  | null => "null".toList
  | enum name => name.toList
  | list items => bracketed '[' ']' [] (writtenItems items)
  | object fields => bracketed '\x7b' '\x7d' [' '] (writtenFields fields)

def writtenItems : List Literal → List (List Char)
  | [] => []
  | v :: vs => written v :: writtenItems vs

def writtenFields : List (String × Literal) → List (List Char)
  | [] => []
  | (name, v) :: rest => (name.toList ++ ':' :: ' ' :: written v) :: writtenFields rest
end

def shown (v : Literal) : String := String.ofList v.written

def intValue (digits : String) : Int :=
  let magnitude (cs : List Char) : Int := cs.foldl (fun n c => n * 10 + (c.toNat - 48)) (0 : Nat)
  match digits.toList with
  | '-' :: cs => -magnitude cs
  | cs => magnitude cs

end Literal

end SchemaSheets.Schema
