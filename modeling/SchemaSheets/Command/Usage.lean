import SchemaSheets.Value.Display

/-!
# Usage

What can be wrong with the words of a command line, and how it is told.
-/

namespace SchemaSheets

/-- A command line that asks for nothing that can be done. -/
inductive UsageFault where
  | noSuchOption (name : String) (similar : List String)
  | noSuchCommand (name : String) (similar : List String)
  | noCommand
  /-- an option stands at the end without the value that it takes -/
  | valueMissing (option : String)
  | valueNotTaken (option : String)
  | missingArgument (name : String)
  | extraArguments (words : List String)
  | notAChoice (option value : String) (choices : List String)
  | noSuchPath (argument path : String)
  /-- neither a URL nor a file -/
  | noSource (word : String)
  /-- a setup with a number of workbooks other than one -/
  | notOneWorkbook (word : String) (count : Nat)
  deriving DecidableEq, Repr

namespace UsageFault

def quoted (names : List String) : String := ", ".intercalate (names.map Display.text)

def withSimilar (sentence : String) : List String → String
  | [] => sentence
  | [name] => sentence ++ " Did you mean " ++ Display.text name ++ "?"
  | names => sentence ++ " (Did you mean one of: " ++ quoted names ++ "?)"

def message : UsageFault → String
  | noSuchOption name similar =>
    withSimilar ("No such option " ++ Display.text name ++ ".") similar
  | noSuchCommand name similar =>
    withSimilar ("No such command " ++ Display.text name ++ ".") similar
  | noCommand => "Missing command."
  | valueMissing option => "Option " ++ Display.text option ++ " requires an argument."
  | valueNotTaken option => "Option " ++ Display.text option ++ " does not take a value."
  | missingArgument name => "Missing argument '" ++ name ++ "'."
  | extraArguments words =>
    "Got unexpected extra argument" ++ (if words.length = 1 then "" else "s") ++ " (" ++
      " ".intercalate words ++ ")"
  | notAChoice option value choices =>
    "Invalid value for " ++ option ++ ": " ++ Display.text value ++ " is not one of " ++
      quoted choices ++ "."
  | noSuchPath argument path =>
    "Invalid value for '" ++ argument ++ "': Path " ++ Display.text path ++ " does not exist."
  | noSource word =>
    "Invalid value for SOURCE: '" ++ word ++ "' is neither a URL nor an existing file"
  | notOneWorkbook word count =>
    "Invalid value for SOURCE: '" ++ word ++ "' defines " ++ Decimal.intText count ++
      " workbooks; use 'graphql-workbook configure' instead"

end UsageFault

end SchemaSheets
