import SchemaSheets.Command.Arguments
import SchemaSheets.Files.Store
import SchemaSheets.Generate.Integrity
import SchemaSheets.Setup.Format

/-!
# Commands

What the program can be asked for: to generate a workbook or a whole space, to
list the objects of a schema, or to write a first setup.  `Command.ofWords`
reads a command line.
-/

namespace SchemaSheets

/-- Where a document goes, and in what format. -/
structure Delivery where
  /-- the file, or the standard output if it is missing or empty -/
  output : Option String := none
  /-- the format that was asked for, if one was -/
  format : Option Format := none
  pretty : Bool := true
  deriving DecidableEq, Repr

inductive Command where
  | generate (source : String) (name : Option String) (mode : IntegrityMode) (delivery : Delivery)
  | inspect (source : String)
  | configure (path : String) (mode : IntegrityMode) (delivery : Delivery)
  | initConfig (output source : String)
  deriving DecidableEq, Repr

inductive Invocation where
  | run (verbose : Bool) (command : Command)
  | version
  | help (g : Grammar)
  /-- nothing at all -/
  | nothing
  deriving Repr

namespace Command

/-! ### Grammars -/

def helpRule : OptionRule := ⟨["--help"], .help, false⟩

def outputRule : OptionRule := ⟨["--output", "-o"], .output, true⟩

def formatRule : OptionRule := ⟨["--format", "-f"], .format, true⟩

def integrityRule : OptionRule := ⟨["--integrity"], .integrity, true⟩

def programGrammar : Grammar where
  usage := "[OPTIONS] COMMAND [ARGS]..."
  options := [⟨["--version"], .version, false⟩, ⟨["--verbose", "-v"], .verbose, false⟩, helpRule]
  interspersed := false

def generateGrammar : Grammar where
  usage := "generate [OPTIONS] SOURCE"
  command := ["generate"]
  options := [⟨["--name", "-n"], .name, true⟩, outputRule, formatRule, integrityRule,
    ⟨["--pretty"], .pretty, false⟩, ⟨["--compact"], .compact, false⟩, helpRule]

def inspectGrammar : Grammar where
  usage := "inspect [OPTIONS] SOURCE"
  command := ["inspect"]
  options := [helpRule]

def configureGrammar : Grammar where
  usage := "configure [OPTIONS] CONFIG_PATH"
  command := ["configure"]
  options := [outputRule, formatRule, integrityRule, helpRule]

def initConfigGrammar : Grammar where
  usage := "init-config [OPTIONS]"
  command := ["init-config"]
  options := [outputRule, ⟨["--source", "-s"], .source, true⟩, helpRule]

def grammars : List (String × Grammar) :=
  [("generate", generateGrammar), ("inspect", inspectGrammar), ("configure", configureGrammar),
   ("init-config", initConfigGrammar)]

/-! ### Choices -/

def choice {α : Type} (w : CommandLine) (rule : OptionRule) (choices : List (String × α)) :
    Except UsageFault (Option α) :=
  match w.value? rule.setting with
  | none => .ok none
  | some value =>
    match choices.lookup value with
    | some a => .ok (some a)
    | none =>
      let shown := " / ".intercalate (rule.words.map Display.text)
      .error (.notAChoice shown value (choices.map (·.1)))

def formats : List (String × Format) := [("json", .json), ("yaml", .yaml)]

def formatOf (w : CommandLine) : Except UsageFault (Option Format) := choice w formatRule formats

def modeOf (w : CommandLine) : Except UsageFault IntegrityMode := do
  return (← choice w integrityRule IntegrityMode.names).getD .universe

/-- Format and mode; of two faults the one of the option that was given first counts. -/
def formatAndMode (w : CommandLine) : Except UsageFault (Option Format × IntegrityMode) :=
  if w.first? [.format, .integrity] == some .integrity then do
    let mode ← modeOf w
    return (← formatOf w, mode)
  else do
    let format ← formatOf w
    return (format, ← modeOf w)

def isPretty (w : CommandLine) : Bool :=
  ((w.given.reverse.map (·.1)).find? [Setting.pretty, .compact].contains) != some .compact

/-! ### Single arguments -/

def argument (name : String) (w : CommandLine) (test : String → Except UsageFault Unit) :
    Except UsageFault String :=
  match w.others with
  | [] => .error (.missingArgument name)
  | word :: rest => do
    test word
    if rest.isEmpty then return word else throw (.extraArguments rest)

def isThere (files : Files) (word : String) : Bool :=
  let p := Path.ofText word
  let last := ((word.toList.splitOnP (· == '/')).getLast?).getD []
  !word.isEmpty && !p.isTooLong && match files.target p with
    | .directory _ => true
    | .file _ _ => !(last.isEmpty || last == ['.'])
    | _ => false

def existing (files : Files) (word : String) : Except UsageFault Unit :=
  if isThere files word then .ok () else .error (.noSuchPath "CONFIG_PATH" word)

/-- The command of a name with the words after it. -/
def ofName (files : Files) (name : String) (w : CommandLine) : Except UsageFault Command := do
  match name with
  | "generate" =>
    let (format, mode) ← formatAndMode w
    let source ← argument "SOURCE" w fun _ => .ok ()
    return .generate source (w.value? .name) mode ⟨w.value? .output, format, isPretty w⟩
  | "inspect" => return .inspect (← argument "SOURCE" w fun _ => .ok ())
  | "configure" =>
    let (format, mode) ← formatAndMode w
    let path ← argument "CONFIG_PATH" w (existing files)
    return .configure path mode ⟨w.value? .output, format, true⟩
  | _ =>
    if !w.others.isEmpty then throw (.extraArguments w.others)
    return .initConfig ((w.value? .output).getD "graphql-workbook.yaml")
      ((w.value? .source).getD ("https" ++ "://example.com/graphql"))

def aside? (top : CommandLine) : Option Invocation :=
  match top.first? [.version, .help] with
  | some .version => some .version
  | some _ => some (.help programGrammar)
  | none => none

/-- What words amount to that begin with no command: they are read as options once more, which
tells apart the options that were hidden behind two hyphens. -/
def withoutCommand (name : String) (rest : List String) : Except UsageFault Invocation := do
  match aside? (← programGrammar.read (name :: rest)) with
  | some i => return i
  | none => throw (.noSuchCommand name (Similar.closest name (grammars.map (·.1))))

/-- What a command line asks for, or its fault with the grammar that tells what it should be. -/
def ofWords (files : Files) (words : List String) : Except (Grammar × UsageFault) Invocation := do
  let blame {α : Type} (g : Grammar) (x : Except UsageFault α) : Except (Grammar × UsageFault) α :=
    x.mapError fun fault => (g, fault)
  if words.isEmpty then return .nothing
  let top ← blame programGrammar (programGrammar.read words)
  match aside? top with
  | some i => return i
  | none =>
    match top.others with
    | [] => throw (programGrammar, .noCommand)
    | name :: rest =>
      match grammars.lookup name with
      | none => blame programGrammar (withoutCommand name rest)
      | some g =>
        let w ← blame g (g.read rest)
        if w.has .help then return .help g
        return .run (top.has .verbose) (← blame g (ofName files name w))

end Command

end SchemaSheets
