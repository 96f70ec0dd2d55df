import RepoWatch.CommandLine.Number
/-!
# Options of the command line

What can be asked for on the command line, and what can be wrong with it.
-/

namespace RepoWatch.CommandLine

def programName : String := "github-query-watcher"

def programVersion : String := "0.1.0"

inductive Command where
  | repositories
  | detail (name : String)
  | commits (name : String)
deriving DecidableEq, Repr

inductive CommandWord where
  | repositories
  | detail
  | commits
deriving DecidableEq, Repr

def CommandWord.text : CommandWord → String
  | .repositories => "repositories"
  | .detail => "detail"
  | .commits => "commits"

/-- All words, in the order in which help lists them. -/
def CommandWord.all : List CommandWord := [.repositories, .detail, .commits]

def CommandWord.of? (text : String) : Option CommandWord := all.find? fun w => w.text = text

def helpWord : String := "help"

inductive Setting where
  | endpoint
  | token
  | attempts
  | retryDelay
  | sinkCapacity
  | watchDuration
deriving DecidableEq, Repr

namespace Setting

/-- All settings, in the order in which help lists them. -/
def all : List Setting := [.endpoint, .token, .attempts, .retryDelay, .sinkCapacity, .watchDuration]

def long : Setting → String
  | .endpoint => "endpoint"
  | .token => "github-api-token"
  | .attempts => "max-retries"
  | .retryDelay => "retry-base-delay-ms"
  | .sinkCapacity => "sink-capacity"
  | .watchDuration => "watch-duration-secs"

def short? : Setting → Option Char
  | .endpoint => some 'e'
  | .watchDuration => some 'w'
  | _ => none

/-- The name of the value: the long name in capitals. -/
def valueName (s : Setting) : String :=
  String.ofList (s.long.toList.map fun c => if c = '-' then '_' else c.toUpper)

def display (s : Setting) : String := "--" ++ s.long ++ " <" ++ s.valueName ++ ">"

def ofLong? (name : String) : Option Setting := all.find? fun s => s.long = name

def ofShort? (name : Char) : Option Setting := all.find? fun s => s.short? = some name

end Setting

/-- The variable of the environment that holds the token. -/
def tokenVariable : String := "GITHUB_API_TOKEN"

/-- Everything that the command line says. -/
structure Options where
  command : Command
  endpoint : String
  token : String
  attempts : UInt32
  /-- Half the first pause between attempts, in milliseconds. -/
  retryDelay : Nat
  sinkCapacity : Nat
  /-- How long to watch, in seconds. -/
  watchDuration : Nat
deriving DecidableEq, Repr

inductive UsageError where
  | unexpected (argument : String)
  | unknownCommand (word : String)
  | missingCommand
  | missingArgument
  | missingValue (setting : Setting)
  | repeated (setting : Setting)
  | invalid (setting : Setting) (value : String) (fault : NumberFault)
  | needlessValue (flag value : String)
deriving DecidableEq, Repr

def UsageError.message : UsageError → String
  | .unexpected argument => "unexpected argument '" ++ argument ++ "' found"
  | .unknownCommand word => "unrecognized subcommand '" ++ word ++ "'"
  | .missingCommand =>
    "'" ++ programName ++ "' requires a subcommand but one was not provided"
  | .missingArgument => "the following required arguments were not provided:"
  | .missingValue setting =>
    "a value is required for '" ++ setting.display ++ "' but none was supplied"
  | .repeated setting =>
    "the argument '" ++ setting.display ++ "' cannot be used multiple times"
  | .invalid setting value fault =>
    "invalid value '" ++ value ++ "' for '" ++ setting.display ++ "': " ++ fault.message
  | .needlessValue flag value =>
    "unexpected value '" ++ value ++ "' for '" ++ flag ++ "' found; no more were expected"

/-- What ends the reading of a command line before its end. -/
inductive Halt where
  | error (e : UsageError)
  /-- Help is asked for, on a command or on the program. -/
  | help (topic : Option CommandWord)
  | helpOnHelp
  | version
  | nothing
deriving DecidableEq, Repr

end RepoWatch.CommandLine
