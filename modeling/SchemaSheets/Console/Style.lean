import SchemaSheets.Text.Hex
import SchemaSheets.Text.Integer
import SchemaSheets.Text.Lowercase

/-!
# Styles of text on the console

A style is written as words: attributes such as `bold`, each perhaps after
`not`, a colour, a colour of the background after `on`, and an address after
`link`.  Two ways to write a style have the same normal form if they mean the
same.
-/

namespace SchemaSheets

/-- A style: attributes that are on or off, colours and a link. -/
structure Style where
  attributes : List (String × Bool) := []
  color : Option String := none
  background : Option String := none
  link : Option String := none
  deriving DecidableEq, Repr

namespace Style

/-! ### Words -/

def attributeNames : List (String × List String) :=
  [("bold", ["b"]), ("dim", ["d"]), ("italic", ["i"]), ("underline", ["u"]), ("blink", []),
   ("blink2", []), ("reverse", ["r"]), ("conceal", ["c"]), ("strike", ["s"]),
   ("underline2", ["uu"]), ("frame", []), ("encircle", []), ("overline", ["o"])]

def attribute? (word : String) : Option String :=
  (attributeNames.find? fun (name, short) => name == word || short.contains word).map (·.1)

def colorNames : List String :=
  ["black", "red", "green", "yellow", "blue", "magenta", "cyan", "white", "bright_black",
   "bright_red", "bright_green", "bright_yellow", "bright_blue", "bright_magenta", "bright_cyan",
   "bright_white", "grey0", "gray0", "navy_blue", "dark_blue", "blue3", "blue1", "dark_green",
   "deep_sky_blue4", "dodger_blue3", "dodger_blue2", "green4", "spring_green4", "turquoise4",
   "deep_sky_blue3", "dodger_blue1", "green3", "spring_green3", "dark_cyan", "light_sea_green",
   "deep_sky_blue2", "deep_sky_blue1", "spring_green2", "cyan3", "dark_turquoise", "turquoise2",
   "green1", "spring_green1", "medium_spring_green", "cyan2", "cyan1", "dark_red", "deep_pink4",
   "purple4", "purple3", "blue_violet", "orange4", "grey37", "gray37", "medium_purple4",
   "slate_blue3", "royal_blue1", "chartreuse4", "dark_sea_green4", "pale_turquoise4", "steel_blue",
   "steel_blue3", "cornflower_blue", "chartreuse3", "cadet_blue", "sky_blue3", "steel_blue1",
   "pale_green3", "sea_green3", "aquamarine3", "medium_turquoise", "chartreuse2", "sea_green2",
   "sea_green1", "aquamarine1", "dark_slate_gray2", "dark_magenta", "dark_violet", "purple",
   "light_pink4", "plum4", "medium_purple3", "slate_blue1", "yellow4", "wheat4", "grey53",
   "gray53", "light_slate_grey", "light_slate_gray", "medium_purple", "light_slate_blue",
   "dark_olive_green3", "dark_sea_green", "light_sky_blue3", "sky_blue2", "dark_sea_green3",
   "dark_slate_gray3", "sky_blue1", "chartreuse1", "light_green", "pale_green1",
   "dark_slate_gray1", "red3", "medium_violet_red", "magenta3", "dark_orange3", "indian_red",
   "hot_pink3", "medium_orchid3", "medium_orchid", "medium_purple2", "dark_goldenrod",
   "light_salmon3", "rosy_brown", "grey63", "gray63", "medium_purple1", "gold3", "dark_khaki",
   "navajo_white3", "grey69", "gray69", "light_steel_blue3", "light_steel_blue", "yellow3",
   "dark_sea_green2", "light_cyan3", "light_sky_blue1", "green_yellow", "dark_olive_green2",
   "dark_sea_green1", "pale_turquoise1", "deep_pink3", "magenta2", "hot_pink2", "orchid",
   "medium_orchid1", "orange3", "light_pink3", "pink3", "plum3", "violet", "light_goldenrod3",
   "tan", "misty_rose3", "thistle3", "plum2", "khaki3", "light_goldenrod2", "light_yellow3",
   "grey84", "gray84", "light_steel_blue1", "yellow2", "dark_olive_green1", "honeydew2",
   "light_cyan1", "red1", "deep_pink2", "deep_pink1", "magenta1", "orange_red1", "indian_red1",
   "hot_pink", "dark_orange", "salmon1", "light_coral", "pale_violet_red1", "orchid2", "orchid1",
   "orange1", "sandy_brown", "light_salmon1", "light_pink1", "pink1", "plum1", "gold1",
   "navajo_white1", "misty_rose1", "thistle1", "yellow1", "light_goldenrod1", "khaki1", "wheat1",
   "cornsilk1", "grey100", "gray100", "grey3", "gray3", "grey7", "gray7", "grey11", "gray11",
   "grey15", "gray15", "grey19", "gray19", "grey23", "gray23", "grey27", "gray27", "grey30",
   "gray30", "grey35", "gray35", "grey39", "gray39", "grey42", "gray42", "grey46", "gray46",
   "grey50", "gray50", "grey54", "gray54", "grey58", "gray58", "grey62", "gray62", "grey66",
   "gray66", "grey70", "gray70", "grey74", "gray74", "grey78", "gray78", "grey82", "gray82",
   "grey85", "gray85", "grey89", "gray89", "grey93", "gray93"]

/-- Why a text is no style: it says something else, or a number is missing where one has to be. -/
inductive Fault where
  | unknown
  | noNumber
  deriving DecidableEq, Repr

def bracketed? (word : String) (cs : List Char) : Option (List Char) :=
  if word.toList.isPrefixOf cs && cs.getLast? == some ')' then
    some ((cs.drop word.length).dropLast)
  else none

def checkParts (parts : List (List Char)) : Except Fault Unit :=
  if parts.length != 3 || !parts.all (·.all fun c => (Text.digitValue? c).isSome) then
    .error .unknown
  else
    match parts.mapM Text.integer? with
    | none => .error .noNumber
    | some numbers => if numbers.all (· ≤ 255) then .ok () else .error .unknown

def isColor (cs : List Char) : Bool :=
  let word := String.ofList cs
  word == "default" || colorNames.contains word ||
    (cs.head? == some '#' && cs.length == 7 && (cs.drop 1).all fun c => (Text.hexDigit? c).isSome) ||
    (bracketed? "color(" cs).any fun n =>
      !n.isEmpty && n.length ≤ 3 && n.all Text.isDigit && Text.decimalValue n ≤ 255

/-- The colour that a word stands for, in lower case.  It may be given by its three parts. -/
def readColor (word : List Char) : Except Fault String := do
  let word := Text.lower word
  if !isColor word then
    match bracketed? "rgb(" word with
    | some parts => checkParts (parts.splitOnP (· == ','))
    | none => throw .unknown
  return String.ofList word

/-! ### Styles -/

def set (s : Style) (name : String) (on : Bool) : Style :=
  { s with attributes := (name, on) :: s.attributes.filter (·.1 != name) }

def readAttribute (word : String) : Except Fault String :=
  match attribute? word with
  | some name => .ok name
  | none => .error .unknown

def ofWords (s : Style) : List (List Char) → Except Fault Style
  | [] => .ok s
  | word :: rest =>
    match String.ofList (Text.lower word), rest with
    | "on", value :: rest => do ofWords { s with background := some (← readColor value) } rest
    | "not", value :: rest => do
      ofWords (s.set (← readAttribute (String.ofList value)) false) rest
    | "link", value :: rest => ofWords { s with link := some (String.ofList value) } rest
    | "on", [] | "not", [] | "link", [] => .error .unknown
    | lower, rest =>
      match attribute? lower with
      | some name => ofWords (s.set name true) rest
      | none => do ofWords { s with color := some (← readColor word) } rest

def words (cs : List Char) : List (List Char) :=
  (cs.splitOnP Text.isBlank).filter (!·.isEmpty)

def ofText (cs : List Char) : Except Fault Style :=
  if Text.trim cs == "none".toList then .ok {} else ofWords {} (words cs)

def text (s : Style) : String :=
  let attributes := attributeNames.filterMap fun (name, _) =>
    (s.attributes.lookup name).map fun on => if on then name else "not " ++ name
  let words := attributes ++ s.color.toList ++ (s.background.map ("on " ++ ·)).toList ++
    (s.link.map ("link " ++ ·)).toList
  if words.isEmpty then "none" else " ".intercalate words

/-- The normal form of a text: that of the style it stands for, or its lower case.  A number that is
missing in a style is a fault. -/
def normalForm (cs : List Char) : Except Fault String :=
  match ofText cs with
  | .ok s => .ok s.text
  | .error .unknown => .ok (String.ofList (Text.lower (Text.trim cs)))
  | .error .noNumber => .error .noNumber

example : (normalForm "red b".toList).toOption = some "bold red" := by decide +kernel

end Style

end SchemaSheets
