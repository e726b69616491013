import SyslogCollector.Syslog.Header
import SyslogCollector.Time.Rfc3339
/-!
# IETF syslog

`<PRI>1 TIMESTAMP HOST APP PROCID MSGID SD MSG`. A hyphen stands for a field without a value.
Structured data is checked for its shape and left out.
-/

namespace SyslogCollector.Syslog.Rfc5424

open Text

/-- The field of a word: the hyphen stands for no value. -/
def field (word : List Char) : String :=
  if word = ['-'] then "" else String.ofList word

/-- The byte order mark that may stand in front of the text. -/
def byteOrderMark : Char := Char.ofNat 0xFEFF

/-- Where the scan of one element of structured data stands. -/
inductive Scan where
  /-- Outside quotes: a square bracket ends the element. -/
  | plain
  /-- Inside quotes. -/
  | quoted
  /-- Inside quotes, after a backslash: the next character counts for nothing. -/
  | escaped
  deriving DecidableEq, Repr

/-- The text after an element whose opening bracket has been read. -/
def afterElement? : Scan → List Char → Option (List Char)
  | _, [] => none
  | .plain, c :: s =>
    if c = ']' then some s
    else if c = '"' then afterElement? .quoted s
    else afterElement? .plain s
  | .quoted, c :: s =>
    if c = '\\' then afterElement? .escaped s
    else if c = '"' then afterElement? .plain s
    else afterElement? .quoted s
  | .escaped, _ :: s => afterElement? .quoted s

/-- An element takes at least its closing bracket off the text. -/
theorem length_of_afterElement? {scan : Scan} {s rest : List Char}
    (h : afterElement? scan s = some rest) : rest.length < s.length := by
  fun_induction afterElement? scan s with
  | case1 => simp at h
  | case2 s => simp_all
  | case3 s _ ih => exact Nat.lt_succ_of_lt (ih h)
  | case4 c s _ _ ih => exact Nat.lt_succ_of_lt (ih h)
  | case5 s ih => exact Nat.lt_succ_of_lt (ih h)
  | case6 s _ ih => exact Nat.lt_succ_of_lt (ih h)
  | case7 c s _ _ ih => exact Nat.lt_succ_of_lt (ih h)
  | case8 c s ih => exact Nat.lt_succ_of_lt (ih h)

/-- The text after all elements in front. -/
def afterElements? : List Char → Option (List Char)
  | '[' :: s =>
    match _h : afterElement? .plain s with
    | some rest => afterElements? rest
    | none => none
  | s => some s
  termination_by s => s.length
  decreasing_by exact Nat.lt_succ_of_lt (length_of_afterElement? _h)

/-- The text that follows structured data: nothing, or what stands after one space. -/
def bodyAfter : List Char → Except ParseError (List Char)
  | [] => .ok []
  | ' ' :: body => .ok body
  | _ => .error .invalidStructuredData

/-- Leaves out the structured data: a hyphen, or one element or more. -/
def skipStructuredData : List Char → Except ParseError (List Char)
  | [] => .error (.missingField "structured-data")
  | '-' :: rest => bodyAfter rest
  | '[' :: s =>
    match afterElements? ('[' :: s) with
    | some rest => bodyAfter rest
    | none => .error .invalidStructuredData
  | _ => .error .invalidStructuredData

/-- The time of a timestamp field; the hyphen stands for when the message was received. -/
def readTimestamp (word : List Char) (received : Instant) : Except ParseError Instant :=
  if word = ['-'] then .ok received
  else match Rfc3339.parseStrict? word with
    | some t => .ok t
    | none => .error (.invalidTimestamp (String.ofList word))

/-- Reads a message of the IETF dialect. -/
def parse (text : List Char) (received : Instant) : Except ParseError Message := do
  let (facility, severity, rest) ← splitPriority text
  let (version, rest) ← word "version" rest
  if version ≠ ['1'] then throw (.unsupportedVersion (String.ofList version))
  let (stamp, rest) ← word "timestamp" rest
  let timestamp ← readTimestamp stamp received
  let (host, rest) ← word "hostname" rest
  let (app, rest) ← word "app-name" rest
  let (_, rest) ← word "procid" rest
  let (_, rest) ← word "msgid" rest
  let body ← skipStructuredData rest
  return {
    timestamp
    hostname := field host
    severity
    facility
    appName := field app
    body := String.ofList ((afterChar? byteOrderMark body).getD body)
    dialect := .rfc5424 }

end SyslogCollector.Syslog.Rfc5424
