import SyslogCollector.Message.Basic
import SyslogCollector.Store.Error
/-!
# Sinks

A sink takes messages. It may have work of its own in the background, which is started, asked to
stop and waited for. All sinks of a collector share one state. A call that does not come to an end
has no result.
-/

namespace SyslogCollector

/-- A sink over a shared state. -/
structure Sink (σ : Type) where
  /-- The name of the sink. -/
  name : String
  /-- Takes a message. -/
  write : Message → σ → Option (Except SinkError Unit) × σ
  /-- Starts the background work. -/
  start : σ → Option (Except SinkError Unit) × σ
  /-- Asks the background work to stop, and waits for its end. -/
  stop : σ → Option (Except SinkError Unit) × σ
  /-- Waits for the end of the background work. -/
  wait : σ → Option (Except SinkError Unit) × σ

end SyslogCollector
