import SyslogCollector.Collector.Run
/-!
# The command line program

Looks up the files that a command line may come across, runs it, and writes what comes out of it. A
running collector is stopped by the end of the standard input.
-/

namespace SyslogCollector.Program

open Collector

/-- The text of a file of the system, if it is one. -/
def readFile? (path : String) : IO (Option (String × String)) := do
  try
    return some (path, ← IO.FS.readFile path)
  catch _ =>
    return none

/-- Whether something can be read out of an open file. -/
def isReadable (handle : IO.FS.Handle) : IO Bool := do
  try
    discard (handle.read 1)
    return true
  catch _ =>
    return false

/-- Whether a path leads to a directory of the system: it opens, and nothing can be read out of
it. -/
def isDirectory (path : String) : IO Bool := do
  try
    return !(← isReadable (← IO.FS.Handle.mk path .read))
  catch _ =>
    return false

/-- The configurations that a command line may read. -/
def configs (arguments : List String) : List String :=
  match CommandLine.read arguments with
  | .run i => i.config.toList ++ defaultConfigs
  | _ => []

/-- The log file that the configuration names. -/
def logPath? (arguments : List String) (files : Files) : Option String :=
  match CommandLine.read arguments with
  | .run i =>
    match loadSettings files i.config with
    | .ok { log := { output := .file path, .. }, .. } => some path
    | _ => none
  | _ => none

/-- The place of the directory that the program runs in. Its own name does not matter, so a dot
stands for it. -/
def here : Place := ["."]

/-- A path and the paths of all that it goes through. -/
def stages (path : String) : List String :=
  let names := path.splitOn "/"
  (List.range names.length).map fun n => String.intercalate "/" (names.take (n + 1))

/-- The files that a command line may come across. -/
def filesFor (arguments : List String) : IO Files := do
  let named := configs arguments
  let files ← named.filterMapM readFile?
  let directories ← (named.flatMap stages).filterM isDirectory
  let known := Files.ofLists here files directories
  let logStages := ((logPath? arguments known).map stages).getD []
  return .ofLists here files (directories ++ (← logStages.filterM isDirectory))

/-- Opens the log file, if a run has added one. -/
def addLog (arguments : List String) (before after : Files) : IO Unit := do
  if before.entries.length < after.entries.length then
    if let some path := logPath? arguments before then
      let handle ← IO.FS.Handle.mk path .append
      handle.flush

/-- Waits for the end of the standard input. -/
def awaitEnd : IO Unit := do
  discard (← IO.getStdin).readToEnd

/-- Runs a command line, and answers with the status to end with. -/
def run (arguments : List String) : IO UInt32 := do
  let files ← filesFor arguments
  let world : World Unit :=
    { network := .isolated, transport := .unreachable "no transport", outside := (), files,
      now := ⟨0, 0⟩ }
  let outcome := Collector.run world arguments
  match outcome with
  | .usage refused =>
    let text := "Usage: " ++ CommandLine.programName ++ " [OPTIONS] [COMMAND]"
    if refused then IO.eprintln text else IO.println text
  | .finished output failure after _ =>
    IO.print output
    addLog arguments files after
    if let some e := failure then IO.eprintln e.reportText
  | .running r after =>
    addLog arguments files after
    awaitEnd
    IO.print r.stop.output
  return outcome.exitCode.toUInt32

end SyslogCollector.Program

/-- The entry point. -/
def main (arguments : List String) : IO UInt32 :=
  SyslogCollector.Program.run arguments
