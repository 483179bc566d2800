import RequestSchema.Cli.Suggestion
import RequestSchema.Encoding.Utf8
import RequestSchema.Json.Display
import RequestSchema.Text.ControlSequence

set_option autoImplicit false

/-!
# Usage

The commands of the program, their options, and what is said about a wrong use of them.
-/

namespace RequestSchema

inductive Command where
  | convert
  | serve
  | version
  | configShow
deriving DecidableEq

namespace Command

def name : Command → Text
  | convert => "convert"
  | serve => "serve"
  | version => "version"
  | configShow => "config-show"

def all : List Command := [configShow, convert, serve, version]

def ofName? (text : Text) : Option Command := all.find? fun command => command.name == text

end Command

inductive OptionName where
  | configFile
  | logLevel
  | logFormat
  | outputFile
  | strict
  | noStrict
  | indent
  | host
  | port
  | help
deriving DecidableEq

namespace OptionName

def spellings : OptionName → List Text
  | configFile => ["--config-file", "-c"]
  | logLevel => ["--log-level", "-l"]
  | logFormat => ["--log-format"]
  | outputFile => ["--output-file", "-o"]
  | strict => ["--strict"]
  | noStrict => ["--no-strict"]
  | indent => ["--indent"]
  | host => ["--host"]
  | port => ["--port"]
  | help => ["--help"]

def takesValue : OptionName → Bool
  | strict | noStrict | help => false
  | _ => true

/-- How an option is called in a message. -/
def hint (option : OptionName) : Text :=
  Text.intercalate " / " (option.spellings.map fun text => "'" ++ text ++ "'")

end OptionName

/-- Where on the command line something is wrong: in front of the command or behind it. -/
inductive Scope where
  | program
  | command (called : Command)
deriving DecidableEq

namespace Scope

def options : Scope → List OptionName
  | program => [.configFile, .logLevel, .logFormat, .help]
  | command .convert => [.outputFile, .strict, .noStrict, .indent, .help]
  | command .serve => [.host, .port, .help]
  | command .version => [.help]
  | command .configShow => [.help]

def programName : Text := "cli"

def path : Scope → Text
  | program => programName
  | command called => programName ++ " " ++ called.name

def arguments : Scope → Text
  | program => "[OPTIONS] COMMAND [ARGS]..."
  | command .convert => "[OPTIONS] [INPUT_FILE]"
  | command _ => "[OPTIONS]"

def usage (scope : Scope) : Text := "Usage: " ++ scope.path ++ " " ++ scope.arguments ++ "\n"

end Scope

/-- What is said about the arguments that settings may hold. -/
def settingsUsage : Text := "usage: " ++ Scope.programName ++ " [-h]\n"

/-- A message as a line of the standard error, which may hold no control sequences and no
    surrogates. -/
def messageLine (text : Text) : Text := withEscapes (withoutSequences text) ++ "\n"

inductive UsageProblem where
  | noSuchOption (text : Text) (close : List Text)
  | noSuchCommand (text : Text) (close : List Text)
  | needsArgument (text : Text)
  | takesNoValue (text : Text)
  | invalidValue (hint reason : Text)
  | missingCommand
  | extraArguments (texts : List Text)
  /-- A path with a character that no path has. -/
  | unusablePath

def quoted (text : Text) : Text := (Json.str text).display

/-- The path of a file as a message quotes it. -/
def quotedPath (path : Text) : Text := quoted (Utf8.shownName path)

def quotedList (texts : List Text) : Text := Text.intercalate ", " (texts.map quoted)

def suggestionText : List Text → Text
  | [] => ""
  | [word] => " Did you mean " ++ quoted word ++ "?"
  | words => " (Did you mean one of: " ++ quotedList words ++ "?)"

namespace UsageProblem

def text : UsageProblem → Text
  | noSuchOption text close => "No such option " ++ quoted text ++ "." ++ suggestionText close
  | noSuchCommand text close => "No such command " ++ quoted text ++ "." ++ suggestionText close
  | needsArgument text => "Option " ++ quoted text ++ " requires an argument."
  | takesNoValue text => "Option " ++ quoted text ++ " does not take a value."
  | invalidValue hint reason => "Invalid value for " ++ hint ++ ": " ++ reason
  | missingCommand => "Missing command."
  | extraArguments [text] => "Got unexpected extra argument (" ++ text ++ ")"
  | extraArguments texts => "Got unexpected extra arguments (" ++ Text.intercalate " " texts ++ ")"
  | unusablePath => "A path holds what no path can hold."

/-- A problem with the form of an option is told without the usage. -/
def showsUsage : UsageProblem → Bool
  | needsArgument _ => false
  | takesNoValue _ => false
  | _ => true

def report (scope : Scope) (problem : UsageProblem) : Text :=
  (if problem.showsUsage then
      scope.usage ++ "Try '" ++ scope.path ++ " --help' for help.\n\n"
    else "") ++
    messageLine ("Error: " ++ problem.text)

end UsageProblem

end RequestSchema
