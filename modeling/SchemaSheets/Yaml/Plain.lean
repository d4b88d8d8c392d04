import SchemaSheets.Text.Digits
import SchemaSheets.Text.Hex

/-!
# What plain scalars mean

A scalar without quotes is read as null, a truth value, a number or a time if
it has the form of one, and as a text otherwise.  `Form.ofPlain` tells which.
The forms are those of YAML 1.1: `yes` and `off` are truth values, integers may
be octal or counted in sixties, and underscores may stand between digits.
-/

namespace SchemaSheets.Yaml

inductive Form where
  | null
  | bool
  | int
  | float
  | timestamp
  /-- the key that merges mappings -/
  | merge
  /-- the key that stands for a default value -/
  | default
  | text
  deriving DecidableEq, Repr

/-! ### Pieces of the forms -/

def isDigitOrGap (c : Char) : Bool := Text.isDigit c || c == '_'

def unsigned : List Char → List Char
  | '-' :: rest => rest
  | '+' :: rest => rest
  | cs => cs

def isNumber : List Char → Bool
  | c :: rest => Text.isDigit c && rest.all isDigitOrGap
  | [] => false

def isExponent : List Char → Bool
  | e :: s :: d :: rest =>
    (e == 'e' || e == 'E') && (s == '-' || s == '+') && (d :: rest).all Text.isDigit
  | _ => false

def isFraction (cs : List Char) : Bool :=
  let rest := cs.dropWhile isDigitOrGap
  rest.isEmpty || isExponent rest

def isSixtieth : List Char → Bool
  | [a] => Text.isDigit a
  | [a, b] => Text.isDigit a && a ≤ '5' && Text.isDigit b
  | _ => false

def isSexagesimal (cs : List Char) : Bool :=
  match cs.splitOnP (· == ':') with
  | first :: second :: rest => isNumber first && (second :: rest).all isSixtieth
  | _ => false

/-! ### The forms -/

def boolWords : List (String × Bool) :=
  [("yes", true), ("Yes", true), ("YES", true), ("no", false), ("No", false), ("NO", false),
   ("true", true), ("True", true), ("TRUE", true), ("false", false), ("False", false),
   ("FALSE", false), ("on", true), ("On", true), ("ON", true), ("off", false), ("Off", false),
   ("OFF", false)]

def nullWords : List String := ["", "~", "null", "Null", "NULL"]

def infinityWords : List String := [".inf", ".Inf", ".INF"]

def nanWords : List String := [".nan", ".NaN", ".NAN"]

/-- A number with a point; a sign and parts of sixty may stand before it. -/
def isPointed (cs : List Char) : Bool :=
  let cs := unsigned cs
  match cs.dropWhile (· != '.') with
  | [] => false
  | _ :: fraction =>
    let whole := cs.takeWhile (· != '.')
    (isNumber whole && isFraction fraction) || (isSexagesimal whole && fraction.all isDigitOrGap)

def isBarePointed : List Char → Bool
  | '.' :: c :: rest => Text.isDigit c && isFraction rest
  | _ => false

def isFloat (cs : List Char) : Bool :=
  isPointed cs || isBarePointed cs || infinityWords.contains (String.ofList (unsigned cs)) ||
    nanWords.contains (String.ofList cs)

/-- Digits of a base, with underscores; at least one character. -/
def isBased (p : Char → Bool) (cs : List Char) : Bool :=
  !cs.isEmpty && cs.all fun c => p c || c == '_'

def isInt (cs : List Char) : Bool :=
  match unsigned cs with
  | ['0'] => true
  | '0' :: 'b' :: rest => isBased (fun c => c == '0' || c == '1') rest
  | '0' :: 'x' :: rest => isBased (fun c => (Text.hexDigit? c).isSome) rest
  | '0' :: rest => isBased (fun c => '0' ≤ c && c ≤ '7') rest
  | cs => isNumber cs || isSexagesimal cs

/-! ### Times -/

def digitsUpTo (least most : Nat) (cs : List Char) : Option (List Char × List Char) :=
  let digits := (cs.take most).takeWhile Text.isDigit
  if least ≤ digits.length then some (digits, cs.drop digits.length) else none

def after? (c : Char) : List Char → Option (List Char)
  | d :: rest => if c = d then some rest else none
  | [] => none

def isBlank (c : Char) : Bool := c == ' ' || c == '\t'

/-- The parts of a time as they are written. -/
structure TimeText where
  year : List Char
  month : List Char
  day : List Char
  hour : List Char := []
  minute : List Char := []
  second : List Char := []
  fraction : List Char := []
  /-- the sign, hours and minutes of the distance from UTC, or nothing -/
  zone : Option (Bool × List Char × List Char) := none
  deriving DecidableEq, Repr

/-- The zone at the end of a time: UTC, a distance, or nothing. -/
def zoneOf (cs : List Char) : Option (Option (Bool × List Char × List Char)) :=
  match cs.dropWhile isBlank with
  | [] => if cs.isEmpty then some none else none
  | ['Z'] => some (some (false, ['0'], ['0']))
  | s :: rest =>
    if s == '-' || s == '+' then do
      let (hours, rest) ← digitsUpTo 1 2 rest
      match rest with
      | [] => return some (s == '-', hours, ['0'])
      | ':' :: rest =>
        let (minutes, rest) ← digitsUpTo 2 2 rest
        if rest.isEmpty then return some (s == '-', hours, minutes) else none
      | _ => none
    else none

def clockOf (t : TimeText) (cs : List Char) : Option TimeText := do
  let rest ← match cs with
    | [] => none
    | c :: rest =>
      if c == 'T' || c == 't' then some rest
      else if isBlank c then some (rest.dropWhile isBlank) else none
  let (hour, rest) ← digitsUpTo 1 2 rest
  let (minute, rest) ← digitsUpTo 2 2 (← after? ':' rest)
  let (second, rest) ← digitsUpTo 2 2 (← after? ':' rest)
  let (fraction, rest) := match rest with
    | '.' :: rest => (rest.takeWhile Text.isDigit, rest.dropWhile Text.isDigit)
    | rest => ([], rest)
  let zone ← zoneOf rest
  return { t with hour, minute, second, fraction, zone }

/-- The parts of a date or of a time.  A `strict` date has two digits for month and day. -/
def timeText? (strict : Bool) (cs : List Char) : Option TimeText := do
  let (year, rest) ← digitsUpTo 4 4 cs
  let (month, rest) ← digitsUpTo 1 2 (← after? '-' rest)
  let (day, rest) ← digitsUpTo 1 2 (← after? '-' rest)
  let t : TimeText := { year, month, day }
  if rest.isEmpty then
    if strict && !(month.length == 2 && day.length == 2) then none else some t
  else clockOf t rest

/-! ### All forms -/

def Form.ofPlain (cs : List Char) : Form :=
  let s := String.ofList cs
  if (boolWords.lookup s).isSome then .bool
  else if isFloat cs then .float
  else if isInt cs then .int
  else if cs == ['<', '<'] then .merge
  else if nullWords.contains s then .null
  else if (timeText? true cs).isSome then .timestamp
  else if cs == ['='] then .default
  else .text

/-- The form of a text that is to be taken as if it were plain.  One line end may follow what has a
form; nothing but a line end is a text. -/
def Form.ofText (cs : List Char) : Form :=
  match cs.reverse with
  | ['\n'] => .text
  | '\n' :: front => ofPlain front.reverse
  | _ => ofPlain cs

end SchemaSheets.Yaml
