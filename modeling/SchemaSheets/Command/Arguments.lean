import SchemaSheets.Command.Similar
import SchemaSheets.Command.Usage

/-!
# Words of a command line

A command line is a list of words.  Words that start with a hyphen are options;
a long one may carry its value after an equals sign, short ones may share a
word.  After a word of two hyphens there are no more options.
-/

namespace SchemaSheets

inductive Setting where
  | help
  | version
  | verbose
  | name
  | output
  | format
  | integrity
  | pretty
  | compact
  | source
  deriving DecidableEq, Repr

structure OptionRule where
  /-- the words for it, the long one first -/
  words : List String
  setting : Setting
  takesValue : Bool := true
  deriving DecidableEq, Repr

/-- The words that a command understands. -/
structure Grammar where
  /-- the command with what may follow it -/
  usage : String
  /-- the words that lead to the command -/
  command : List String := []
  options : List OptionRule
  /-- options may stand between and after other words -/
  interspersed : Bool := true
  deriving Repr

/-- The options that were given, in order, and the other words. -/
structure CommandLine where
  given : List (Setting × String) := []
  others : List String := []
  deriving DecidableEq, Repr

namespace Grammar

def isOption (word : String) : Bool := word.startsWith "-" && word != "-"

def isShort (word : String) : Bool := word.length == 2

def longWords (g : Grammar) : List String :=
  (g.options.flatMap (·.words)).filter (!isShort ·)

def option? (g : Grammar) (word : String) : Option OptionRule :=
  g.options.find? (·.words.contains word)

/-- What a word gives, and the option that still lacks its value. -/
structure Reading where
  given : List (Setting × String) := []
  waiting : Option (String × Setting) := none

def readLetters (g : Grammar) : List Char → Except UsageFault Reading
  | [] => .ok {}
  | c :: rest => do
    let word := String.ofList ['-', c]
    match g.option? word with
    | none => throw (.noSuchOption word [])
    | some o =>
      if o.takesValue then
        if rest.isEmpty then return { waiting := some (word, o.setting) }
        else return { given := [(o.setting, String.ofList rest)] }
      else
        let more ← readLetters g rest
        return { more with given := (o.setting, "") :: more.given }

def splitValue (word : String) : String × Option String :=
  let cs := word.toList
  match cs.dropWhile (· != '=') with
  | [] => (word, none)
  | _ :: value => (String.ofList (cs.takeWhile (· != '=')), some (String.ofList value))

def readOption (g : Grammar) (word : String) : Except UsageFault Reading := do
  let (long, value?) := splitValue word
  match if isShort long then none else g.option? long with
  | some o =>
    match o.takesValue, value? with
    | true, some value => return { given := [(o.setting, value)] }
    | true, none => return { waiting := some (long, o.setting) }
    | false, some _ => throw (.valueNotTaken long)
    | false, none => return { given := [(o.setting, "")] }
  | none =>
    if word.startsWith "--" then throw (.noSuchOption long (Similar.closest long g.longWords))
    else g.readLetters (word.toList.drop 1)

/-- The options and the other words of a command line. -/
def read (g : Grammar) : List String → Except UsageFault CommandLine
  | [] => .ok {}
  | word :: rest => do
    if word == "--" then return { others := rest }
    else if isOption word then
      let r ← g.readOption word
      match r.waiting, rest with
      | none, rest =>
        let more ← read g rest
        return { more with given := r.given ++ more.given }
      | some (option, _), [] => throw (.valueMissing option)
      | some (_, setting), value :: rest =>
        let more ← read g rest
        return { more with given := r.given ++ (setting, value) :: more.given }
    else if g.interspersed then
      let more ← read g rest
      return { more with others := word :: more.others }
    else return { others := word :: rest }

end Grammar

namespace CommandLine

def has (w : CommandLine) (s : Setting) : Bool := w.given.any (·.1 == s)

def value? (w : CommandLine) (s : Setting) : Option String := w.given.reverse.lookup s

def first? (w : CommandLine) (among : List Setting) : Option Setting :=
  (w.given.map (·.1)).find? among.contains

end CommandLine

end SchemaSheets
