import SyslogCollector.Store.Backend
/-!
# Reading stored messages

A reader hands out the messages that a query asks for, as text, one line a message, chunk by chunk.
Nothing happens before its first use: that one sends the query. A reader that came to the end or
failed once stays at the end.
-/

namespace SyslogCollector.Store

/-- What a use of a reader gives. -/
inductive Reading where
  /-- Some lines, each ended by a line feed. -/
  | lines (text : String)
  /-- There is no more. -/
  | atEnd
  /-- It failed. -/
  | failed (error : QueryError)
  deriving DecidableEq, Repr

/-- Where a reader stands. -/
inductive Reader where
  /-- The query is not sent yet. -/
  | pending (params : QueryParams)
  /-- These chunks of the answer are still to come. -/
  | streaming (rest : Chunks)
  /-- It came to the end, or failed. -/
  | finished
  deriving Repr

/-- The line of a message, with a line feed unless it ends with one. An empty message has none. -/
def lineOf (body : String) : String :=
  if body.isEmpty || body.toList.getLast? == some '\n' then body else body ++ "\n"

/-- The lines of some rows. -/
def linesOf (rows : List Row) : String :=
  String.join (rows.map fun r => lineOf r.body)

/-- The next lines of an answer, and where the reader stands then. Chunks without lines are left
out. -/
def nextLines : Chunks → Reading × Reader
  | [] => (.atEnd, .finished)
  | .error error :: _ => (.failed error, .finished)
  | .ok rows :: rest =>
    let text := linesOf rows
    if text.isEmpty then nextLines rest else (.lines text, .streaming rest)

/-- What the start of a query comes to: its first lines. -/
def firstLines : Except QueryError Chunks → Reading × Reader
  | .error error => (.failed error, .finished)
  | .ok chunks => nextLines chunks

end SyslogCollector.Store
