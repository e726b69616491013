import SyslogCollector.Collector.Files
import SyslogCollector.Collector.Running
import SyslogCollector.CommandLine.Reader
import SyslogCollector.Settings.Check
/-!
# Running a command line

A command line is read first, then the configuration, then the log is opened, and then the command
is carried out. The first of these that fails ends the program.
-/

namespace SyslogCollector.Collector

open CommandLine (Invocation Command Request)

/-! ## The configuration -/

/-- Where a configuration is looked for, in this order, unless it is named. -/
def defaultConfigs : List String := ["configs/lumber.toml", "lumber.toml"]

/-- The settings in a file. -/
def readSettings (f : Files) (path : String) : Except Settings.SettingsError Settings :=
  match f.read path with
  | .ok text => Settings.ofText text
  | .error reason => .error (.unreadable path reason)

/-- The settings that count: those of the file that is named, else those of the first file where
one is looked for, else the defaults. -/
def loadSettings (f : Files) (config : Option String) : Except CollectorError Settings :=
  match config with
  | some path =>
    if f.contains path then (readSettings f path).mapError (.configRefused (some path))
    else .error (.configMissing path)
  | none =>
    match defaultConfigs.find? f.contains with
    | some path => (readSettings f path).mapError (.configRefused none)
    | none => .ok {}

/-- The files once the collector's own log is open. -/
def openLog (f : Files) (s : Settings) : Except CollectorError Files :=
  match s.log.output with
  | .file path => (f.openAtEnd path).mapError (.logFile path)
  | .stderr | .stdout => .ok f

/-! ## The commands -/

/-- All lines of an answer, up to the first failure. -/
def linesToEnd : Store.Chunks → String × Option QueryError
  | [] => ("", none)
  | .error error :: _ => ("", some error)
  | .ok rows :: rest =>
    let (text, failure) := linesToEnd rest
    (Store.linesOf rows ++ text, failure)

/-- All that a reader gives from here on. -/
def readToEnd : Store.Reading × Option Store.Reader → String × Option QueryError
  | (.failed error, _) => ("", some error)
  | (.lines text, some (.streaming rest)) =>
    let (more, failure) := linesToEnd rest
    (text ++ more, failure)
  | (.lines text, _) => (text, none)
  | (.atEnd, _) => ("", none)

/-- Shows the messages that a query asks for: what is printed, and why it stops short. -/
def query (w : Store.Writer.Session σ) (params : QueryParams) :
    (String × Option QueryError) × Store.Writer.Session σ :=
  let (outcome, w) := (w.openReader 0 params).call (.read 0)
  match outcome with
  | some (.reading reading) => (readToEnd (reading, w.state.reader? 0), w)
  | _ => (("", none), w)

/-- The lines that name some applications. -/
def nameLines (names : List String) : String :=
  String.join (names.map (· ++ "\n"))

/-- What a run comes to. -/
inductive Outcome (τ : Type) where
  /-- The usage is shown: because it is asked for, or because the command line makes no sense. -/
  | usage (refused : Bool)
  /-- The program is at its end: what it printed, and why it gave up, if it did. -/
  | finished (output : String) (failure : Option CollectorError) (files : Files) (outside : τ)
  /-- The collector runs until it is told to stop. -/
  | running (r : Running τ) (files : Files)

namespace Outcome

/-- The status that the program ends with. -/
def exitCode : Outcome τ → Nat
  | .usage refused => if refused then 2 else 0
  | .finished _ failure .. => if failure.isSome then 1 else 0
  | .running .. => 0

end Outcome

/-- The world that a program runs in. -/
structure World (τ : Type) where
  /-- The network. -/
  network : Network
  /-- The way to InfluxDB. -/
  transport : Store.Influx.Transport τ
  /-- What the transport works on. -/
  outside : τ
  /-- The files. -/
  files : Files
  /-- The time. -/
  now : Instant

/-- Carries out a command. -/
def perform (w : World τ) (files : Files) (s : Settings) : Command → Outcome τ
  | .serve =>
    match start w.network w.transport w.outside s w.now with
    | .ok r => .running r files
    | .error e => .finished "" (some e) files w.outside
  | .query params =>
    let ((text, failure), session) := query (writer s w.transport w.outside) params
    .finished text (failure.map (.query params.appName)) files session.state.store.2
  | .list =>
    match (writer s w.transport w.outside).list with
    | (.ok names, session) => .finished (nameLines names) none files session.state.store.2
    | (.error e, session) => .finished "" (some (.list e)) files session.state.store.2

/-- Runs a command with its options. -/
def runInvocation (w : World τ) (i : Invocation) : Outcome τ :=
  let prepared : Except CollectorError (Settings × Files) := do
    let s ← loadSettings w.files i.config
    let files ← openLog w.files s
    return (s, files)
  match prepared with
  | .ok (s, files) => perform w files s i.command
  | .error e => .finished "" (some e) w.files w.outside

/-- Runs a command line. -/
def run (w : World τ) (arguments : List String) : Outcome τ :=
  match CommandLine.read arguments with
  | .version =>
    .finished (CommandLine.programName ++ " " ++ CommandLine.version ++ "\n") none w.files w.outside
  | .help => .usage false
  | .refused => .usage true
  | .run i => runInvocation w i

end SyslogCollector.Collector
