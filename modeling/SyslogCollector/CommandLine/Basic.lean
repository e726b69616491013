import SyslogCollector.Message.Basic
import SyslogCollector.Time.Rfc3339
/-!
# What a command line says

The collector has three commands: it serves, which is also what it does without a command, shows
the stored messages of an application, or lists the applications. Two options may stand before or
behind the command.
-/

namespace SyslogCollector.CommandLine

/-- The name of the program. -/
def programName : String := "lumber"

/-- The version of the program. -/
def version : String := "0.1.0"

/-- What the collector shall do. -/
inductive Command where
  /-- Collect messages until it is told to stop. -/
  | serve
  /-- Show the stored messages that a query asks for. -/
  | query (params : QueryParams)
  /-- List the applications that have stored messages. -/
  | list
  deriving Repr

/-- A command with the options that every command has. -/
structure Invocation where
  command : Command
  /-- The configuration file, if one is named. -/
  config : Option String
  /-- How much the collector tells about itself, if that is said. -/
  logLevel : Option String
  deriving Repr

/-- What a command line comes to. -/
inductive Request where
  /-- The collector shall run. -/
  | run (i : Invocation)
  /-- The version is asked for. -/
  | version
  /-- Help is asked for. -/
  | help
  /-- The command line makes no sense. -/
  | refused
  deriving Repr

/-- Where on a command line an argument stands. -/
inductive Level where
  /-- In front of the command, or without one. -/
  | main
  | serve
  | query
  | list
  deriving DecidableEq, Repr

namespace Level

/-- The word for the command of a level. -/
def word? : Level → Option String
  | .main => none
  | .serve => some "serve"
  | .query => some "query"
  | .list => some "list"

/-- The level of a command. -/
def ofWord? (word : String) : Option Level :=
  [serve, query, list].find? (·.word? == some word)

end Level

/-- The options, each of which has a value. -/
inductive OptionName where
  | config | logLevel | app | host | start | stop
  deriving DecidableEq, Repr

/-- What may follow a hyphen. -/
inductive Switch where
  /-- An option with a value. -/
  | option (name : OptionName)
  /-- The request for the version. -/
  | version
  /-- The request for help. -/
  | help
  deriving DecidableEq, Repr

namespace Switch

/-- The long name of a switch. -/
def long : Switch → String
  | .option .config => "config"
  | .option .logLevel => "log-level"
  | .option .app => "app"
  | .option .host => "host"
  | .option .start => "start"
  | .option .stop => "end"
  | .version => "version"
  | .help => "help"

/-- The letter of a switch, if it has one. -/
def letter? : Switch → Option Char
  | .option .config => some 'c'
  | .option .logLevel => some 'l'
  | .option .app => some 'a'
  | .version => some 'V'
  | .help => some 'h'
  | .option .host | .option .start | .option .stop => none

end Switch

/-- The switches of a level. -/
def Level.switches : Level → List Switch
  | .main => [.option .config, .option .logLevel, .help, .version]
  | .serve | .list => [.option .config, .option .logLevel, .help]
  | .query => [.option .app, .option .host, .option .start, .option .stop, .option .config,
      .option .logLevel, .help]

/-- The values that were given, each with its option. -/
abbrev Values := List (OptionName × String)

end SyslogCollector.CommandLine
