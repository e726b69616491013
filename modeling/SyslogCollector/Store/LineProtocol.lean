import SyslogCollector.Store.Point
/-!
# Line protocol

The text in which points are handed to InfluxDB, one record a point:

    MEASUREMENT,hostname=H,severity=S,facility=F message="TEXT" NANOS

A tag without a value is left out.
-/

namespace SyslogCollector.LineProtocol

/-- Puts a backslash in front of every special character. -/
def escape (special : List Char) (text : List Char) : List Char :=
  text.flatMap fun c => if c ∈ special then ['\\', c] else [c]

/-- What is escaped in a measurement. -/
def measurementSpecials : List Char := [',', ' ']

/-- What is escaped in the value of a tag. -/
def tagSpecials : List Char := [',', '=', ' ']

/-- What is escaped in the value of a field. -/
def fieldSpecials : List Char := ['"', '\\']

/-- The tags of a point, in order. -/
def tags (p : Point) : List (String × String) :=
  [("hostname", p.hostname), ("severity", p.severity.name), ("facility", p.facility.name)]

/-- A tag with the comma in front of it; nothing if it has no value. -/
def encodeTag (tag : String × String) : List Char :=
  if tag.2.isEmpty then []
  else ',' :: tag.1.toList ++ '=' :: escape tagSpecials tag.2.toList

/-- The record of a point, without its line feed. -/
def encodePoint (p : Point) : List Char :=
  escape measurementSpecials p.measurement.toList ++ (tags p).flatMap encodeTag ++
    " message=\"".toList ++ escape fieldSpecials p.body.toList ++ "\" ".toList ++
    (toString p.nanos).toList

/-- The records of points, each ended by a line feed. -/
def encode (points : List Point) : String :=
  String.ofList (points.flatMap fun p => encodePoint p ++ ['\n'])

end SyslogCollector.LineProtocol
