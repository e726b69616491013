import SyslogCollector.Message.Basic
import SyslogCollector.Store.Error
import SyslogCollector.Text.Utf8
import SyslogCollector.Time.Rfc3339
/-!
# The console sink

Shows every message as one line for people. Clients of the live tail get the same line, without
colours.
-/

namespace SyslogCollector.Console

/-- A value, or a hyphen for none. -/
def orDash (text : String) : String :=
  if text.isEmpty then "-" else text

/-- The time of a message as it is shown. -/
def shownTime (m : Message) : String :=
  Rfc3339.render .millis m.timestamp

/-- The line of a message, without colours and without its line feed. -/
def line (m : Message) : String :=
  shownTime m ++ " " ++ orDash m.hostname ++ " " ++ orDash m.appName ++ "[" ++ m.severity.name ++
    "]: " ++ m.body

/-- How a piece of a line stands out. -/
inductive Style where
  | plain | dimmed | red | yellow | cyan
  deriving DecidableEq, Repr

/-- The number of a style in a terminal's escape sequence. -/
def Style.code? : Style → Option Nat
  | .plain => none
  | .dimmed => some 2
  | .red => some 31
  | .yellow => some 33
  | .cyan => some 36

/-- A piece of a line in a style: switched on before it and off after it. -/
def Style.apply (style : Style) (text : String) : String :=
  match style.code? with
  | none => text
  | some code => "\x1b[" ++ toString code ++ "m" ++ text ++ "\x1b[0m"

/-- How the severity stands out. -/
def severityStyle : Severity → Style
  | .emergency | .alert | .critical | .error => .red
  | .warning => .yellow
  | .notice | .info => .plain
  | .debug => .dimmed

/-- The line of a message in colours, without its line feed. -/
def colouredLine (m : Message) : String :=
  Style.dimmed.apply (shownTime m) ++ " " ++ Style.cyan.apply (orDash m.hostname) ++ " " ++
    orDash m.appName ++ (severityStyle m.severity).apply ("[" ++ m.severity.name ++ "]") ++ ": " ++
    m.body

/-- What a console sink counts. -/
structure Metrics where
  /-- Messages that it was handed. -/
  received : Nat := 0
  /-- Messages that it wrote. -/
  written : Nat := 0
  /-- Bytes that it wrote, line feeds included. -/
  bytes : Nat := 0
  /-- Messages that its output refused. -/
  errors : Nat := 0
  deriving DecidableEq, Repr

/-- A console sink: its output so far and its counters. -/
structure State where
  /-- Whether lines are written in colours. -/
  colour : Bool := true
  /-- What the output answers instead of taking a line, if it is broken. -/
  fault : Option String := none
  /-- The text written so far. -/
  output : String := ""
  /-- The counters. -/
  metrics : Metrics := {}
  deriving DecidableEq, Repr

/-- The name of the sink. -/
def name : String := "console"

/-- The line of a message as the sink shows it. -/
def State.render (s : State) (m : Message) : String :=
  if s.colour then colouredLine m else line m

/-- Writes one message. -/
def State.write (s : State) (m : Message) : Except SinkError Unit × State :=
  let shown := s.render m
  let received := s.metrics.received + 1
  match s.fault with
  | some text =>
    (.error (.io text),
      { s with metrics := { s.metrics with received, errors := s.metrics.errors + 1 } })
  | none =>
    (.ok (), { s with
      output := s.output ++ shown ++ "\n"
      metrics := { s.metrics with
        received
        written := s.metrics.written + 1
        bytes := s.metrics.bytes + shown.utf8ByteSize + 1 } })

end SyslogCollector.Console
