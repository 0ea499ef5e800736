import RequestChain.CommandLine.Value
import RequestChain.Http.Message

/-! # Command lines

A command line names a command and gives it arguments. A line that does not lead to a command asks
for a text about the program, or is at fault; either way the program stops with that text.
-/

namespace RequestChain.CommandLine

/-- The name of the program. -/
def programName : String := "relay"

/-- The commands that a command line can name. -/
inductive CommandName where
  | call
  | chain
  | list
  | validate
  deriving DecidableEq, Repr, Inhabited

namespace CommandName

/-- The word for a command. -/
def word : CommandName → String
  | call => "call"
  | chain => "chain"
  | list => "list"
  | validate => "validate"

/-- The command of a word, which is matched exactly. -/
def ofWord? (text : String) : Option CommandName :=
  [call, chain, list, validate].find? fun name => name.word == text

/-- What a command does, in a line. -/
def summary : CommandName → String
  | call => "Invoke a single endpoint given as <api>.<endpoint>"
  | chain => "Run a named chain"
  | list => "List configured APIs, endpoints, profiles, and chains"
  | validate => "Check the configuration for structural problems"

/-- Whether a command runs something, which is its target. -/
def hasTarget : CommandName → Bool
  | call | chain => true
  | list | validate => false

/-- What the target of a command is called. -/
def targetName : CommandName → String
  | call => "TARGET"
  | chain => "NAME"
  | list | validate => ""

end CommandName

/-- How many seconds a request may take unless it is said otherwise. -/
def defaultTimeout : Nat := 30

/-- What a run is given besides its target. -/
structure RunArguments where
  /-- Variables in the order in which they are given. -/
  assignments : List (String × String) := []
  /-- Profiles in the order in which they are given. -/
  profiles : List String := []
  dryRun : Bool := false
  /-- How many seconds a request may take. -/
  timeout : Nat := defaultTimeout
  deriving DecidableEq, Repr, Inhabited

/-- What the program is asked to do. -/
inductive Command where
  | call (target : String) (arguments : RunArguments)
  | chain (name : String) (arguments : RunArguments)
  | list
  | validate
  deriving DecidableEq, Repr, Inhabited

/-- A command line that leads to a command. -/
structure Invocation where
  /-- The file of the configuration, if it is given. -/
  config : Option String := none
  command : Command
  deriving DecidableEq, Repr, Inhabited

/-- The options that have a value. -/
inductive Parameter where
  | config
  | assignment
  | profile
  | timeout
  deriving DecidableEq, Repr, Inhabited

namespace Parameter

/-- The word for a parameter, without its dashes. -/
def word : Parameter → String
  | config => "config"
  | assignment => "var"
  | profile => "profile"
  | timeout => "timeout"

/-- A parameter and what its value is called. -/
def usage : Parameter → String
  | config => "--config <CONFIG>"
  | assignment => "--var <KEY=VALUE>"
  | profile => "--profile <NAME>"
  | timeout => "--timeout <SECONDS>"

end Parameter

/-- The options without a value. -/
inductive Switch where
  | dryRun
  | help
  | version
  deriving DecidableEq, Repr, Inhabited

/-- The word for a switch, without its dashes. -/
def Switch.word : Switch → String
  | dryRun => "dry-run"
  | help => "help"
  | version => "version"

/-- What a command line gets wrong. -/
inductive UsageError where
  | unexpectedArgument (word : String)
  | unknownCommand (word : String)
  | missingTarget (command : CommandName)
  | missingCommand
  | missingValue (parameter : Parameter)
  | invalidAssignment (text : String) (error : AssignmentError)
  | invalidTimeout (text : String) (error : SecondsError)
  | repeatedParameter (parameter : Parameter)
  | repeatedDryRun
  | unexpectedValue (switch : Switch) (value : String)
  deriving DecidableEq, Repr

/-- The wording of the error for a value that a parameter does not take. -/
private def invalidValueMessage (parameter : Parameter) (text reason : String) : String :=
  "invalid value '" ++ text ++ "' for '" ++ parameter.usage ++ "': " ++ reason

/-- The wording of the error for an option that is given again. -/
private def repeatedMessage (option : String) : String :=
  "the argument '" ++ option ++ "' cannot be used multiple times"

/-- The wording of an error. -/
def UsageError.message : UsageError → String
  | unexpectedArgument word => "unexpected argument '" ++ word ++ "' found"
  | unknownCommand word => "unrecognized subcommand '" ++ word ++ "'"
  | missingTarget command =>
    "the following required arguments were not provided:\n  <" ++ command.targetName ++ ">"
  | missingCommand => "'" ++ programName ++ "' requires a subcommand but one was not provided"
  | missingValue parameter =>
    "a value is required for '" ++ parameter.usage ++ "' but none was supplied"
  | invalidAssignment text error => invalidValueMessage .assignment text error.message
  | invalidTimeout text error => invalidValueMessage .timeout text error.message
  | repeatedParameter parameter => repeatedMessage parameter.usage
  | repeatedDryRun => repeatedMessage ("--" ++ Switch.dryRun.word)
  | unexpectedValue switch value =>
    "unexpected value '" ++ value ++ "' for '--" ++ switch.word ++ "' found; no more were expected"

/-- What can be explained. -/
inductive Topic where
  | program
  | command (name : CommandName)
  | help
  deriving DecidableEq, Repr, Inhabited

namespace Topic

/-- A topic in a line. -/
def summary : Topic → String
  | program => "Run HTTP requests and request chains described in a config file"
  | command name => name.summary
  | help => "Print this message or the help of the given subcommand(s)"

/-- How a topic is written on the command line. -/
def usage : Topic → String
  | program => programName ++ " [OPTIONS] <COMMAND>"
  | command name =>
    let target := if name.hasTarget then " <" ++ name.targetName ++ ">" else ""
    programName ++ " " ++ name.word ++ " [OPTIONS]" ++ target
  | help => programName ++ " help [COMMAND]..."

/-- The text about a topic. -/
def text (topic : Topic) : String :=
  topic.summary ++ "\n\nUsage: " ++ topic.usage ++ "\n"

end Topic

/-- Why a command line leads to no command. -/
inductive Halt where
  /-- It asks about a topic. -/
  | help (topic : Topic)
  /-- It asks for the version. -/
  | version
  /-- It says nothing. -/
  | nothingAsked
  | fault (error : UsageError)
  deriving DecidableEq, Repr

namespace Halt

/-- The text with which the program stops. -/
def text : Halt → String
  | help topic => topic.text
  | version => programName ++ " " ++ Http.version ++ "\n"
  | nothingAsked => Topic.program.text
  | fault error => "error: " ++ error.message ++ "\n"

/-- Whether the text is what was asked for. -/
def isAnswer : Halt → Bool
  | help _ | version => true
  | nothingAsked | fault _ => false

end Halt

end RequestChain.CommandLine
