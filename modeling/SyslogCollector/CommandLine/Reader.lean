import SyslogCollector.CommandLine.Basic
import SyslogCollector.Text.Blank
/-!
# Reading a command line

Arguments are read one after the other. A long switch is written `--name`, a short one as a letter
after one hyphen, alone or with others. The value of an option follows as the next argument, or after
an equals sign, or after the letter. An option may stand once in front of the command and once behind
it; the later one counts.

The values of a level are looked at when its next switch comes and at the end of the line. So a request
for help behind the command is answered before a wrong value in front of it is noticed.
-/

namespace SyslogCollector.CommandLine

open Text

/-- How far a command line is read. -/
structure Progress where
  /-- Where the next argument stands. -/
  level : Level := .main
  /-- The values given in front of the command. -/
  before : Values := []
  /-- The values given behind the command. -/
  behind : Values := []
  /-- The option whose value comes next. -/
  pending : Option OptionName := none
  /-- Whether `--` has ended the switches. -/
  isClosed : Bool := false
  deriving Repr

namespace Progress

/-- The values given on the level that is read. -/
def values (p : Progress) : Values :=
  if p.level = .main then p.before else p.behind

/-- Whether a text may be the value of an option. -/
def isValue (name : OptionName) (text : String) : Bool :=
  match name with
  | .config => !text.isEmpty
  | .start | .stop => (Rfc3339.parse? text.toList).isSome
  | .logLevel | .app | .host => true

/-- Whether the values of a level are in order: each may be the value of its option, and no option
has two. -/
def areSound (values : Values) : Bool :=
  values.all (fun (name, text) => isValue name text) && decide (values.map (·.1)).Nodup

/-- Notes the value of an option. -/
def assign (p : Progress) (name : OptionName) (text : String) : Progress :=
  let entry := (name, text)
  if p.level = .main then { p with before := p.before ++ [entry], pending := none }
  else { p with behind := p.behind ++ [entry], pending := none }

/-- Goes on unless the values of the level are out of order. -/
def checked (p : Progress) : Except Request Progress :=
  if areSound p.values then .ok p else .error .refused

/-- Deals with a switch and the value attached to it, if there is one. -/
def takeSwitch (p : Progress) (s : Switch) (value : Option String) : Except Request Progress := do
  let p ← p.checked
  if p.pending.isSome then .error .refused
  else match s, value with
    | .version, none => .error .version
    | .help, none => .error .help
    | .version, some _ | .help, some _ => .error .refused
    | .option name, some text => (p.assign name text).checked
    | .option name, none => .ok { p with pending := some name }

/-- Reads what follows two hyphens. -/
def takeLong (p : Progress) (text : List Char) : Except Request Progress :=
  let (name, value) := match splitAt? (· = '=') text with
    | some (name, value) => (name, some (String.ofList value))
    | none => (text, none)
  match p.level.switches.find? (·.long == String.ofList name) with
  | some s => p.takeSwitch s value
  | none => .error .refused

/-- Reads what follows one hyphen. A letter that asks for something ends the reading, so the first
one decides. -/
def takeShort (p : Progress) : List Char → Except Request Progress
  | [] => .ok p
  | c :: rest =>
    match p.level.switches.find? (·.letter? == some c) with
    | some (.option name) =>
      let value := match rest with
        | [] => none
        | '=' :: text => some (String.ofList text)
        | text => some (String.ofList text)
      p.takeSwitch (.option name) value
    | some s => p.takeSwitch s none
    | none => .error .refused

/-- Reads a word without hyphens. -/
def takeWord (p : Progress) (word : String) : Except Request Progress :=
  match p.pending, p.level with
  | some name, _ => .ok (p.assign name word)
  | none, .main =>
    match Level.ofWord? word with
    | some level => .ok { p with level }
    | none => .error .refused
  | none, _ => .error .refused

/-- Reads an argument. -/
def take (p : Progress) (argument : String) : Except Request Progress :=
  if p.isClosed then .error .refused
  else match argument.toList with
    | ['-', '-'] => .ok { p with isClosed := true }
    | '-' :: '-' :: text => p.takeLong text
    | '-' :: c :: text => p.takeShort (c :: text)
    | _ => p.takeWord argument

/-- The value of an option that may stand on both sides of the command. -/
def shared? (p : Progress) (name : OptionName) : Option String :=
  (p.behind.lookup name).or (p.before.lookup name)

/-- A time given as an option. -/
def time? (p : Progress) (name : OptionName) : Option Instant :=
  (p.behind.lookup name).bind fun text => Rfc3339.parse? text.toList

/-- The command that was read, if nothing is missing. -/
def command? (p : Progress) : Option Command :=
  match p.level with
  | .main | .serve => some .serve
  | .list => some .list
  | .query =>
    (p.behind.lookup .app).map fun appName =>
      .query {
        appName
        hostname := p.behind.lookup .host
        start := p.time? .start
        stop := p.time? .stop
        severity := none }

/-- What the end of the command line comes to. -/
def finish (p : Progress) : Request :=
  if p.pending.isSome || !areSound p.before || !areSound p.behind then .refused
  else match p.command? with
    | some command => .run ⟨command, p.shared? .config, p.shared? .logLevel⟩
    | none => .refused

/-- Reads arguments up to the first that decides. -/
def readOn (p : Progress) : List String → Request
  | [] => p.finish
  | argument :: rest =>
    if p.level = .main && p.pending.isNone && !p.isClosed && argument == "help" then
      helpOn rest
    else match p.take argument with
      | .ok p => p.readOn rest
      | .error request => request
where
  /-- Behind the word `help` may stand the name of one command. -/
  helpOn : List String → Request
    | [] => .help
    | [word] => if word == "help" || (Level.ofWord? word).isSome then .help else .refused
    | _ => .refused

end Progress

/-- Reads a command line. -/
def read (arguments : List String) : Request :=
  ({} : Progress).readOn arguments

end SyslogCollector.CommandLine
