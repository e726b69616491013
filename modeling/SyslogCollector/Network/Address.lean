import SyslogCollector.Text.Blank
import SyslogCollector.Text.Decimal
import SyslogCollector.Text.Hexadecimal
/-!
# Network addresses

An address is written as a host, a colon and a port. The host is a number in one of the usual
notations or a name that somebody has to look up. A `Network` is what a machine makes of addresses:
which names it knows, which hosts it is itself, and whether anything it sends arrives.
-/

namespace SyslogCollector

namespace Network

open Text

/-- The number of a host. -/
inductive Host where
  /-- A number of 32 bits. -/
  | v4 (number : Nat)
  /-- A number of 128 bits. -/
  | v6 (number : Nat)
  deriving DecidableEq, Repr

/-- A host and a port. -/
structure Address where
  host : Host
  port : Nat
  deriving DecidableEq, Repr

/-- The reasons for which an address cannot be listened on. -/
inductive BindError where
  /-- There is no colon in front of a port. -/
  | noPort
  /-- The port is no number of 16 bits. -/
  | badPort
  /-- The name of the host holds the character NUL. -/
  | nulByte
  /-- Nobody knows the host. -/
  | unknownHost
  /-- The host is another machine. -/
  | notOwn
  /-- Somebody listens there already. -/
  | inUse
  deriving DecidableEq, Repr

/-- The text shown to people. -/
def BindError.message : BindError → String
  | .noPort => "invalid socket address"
  | .badPort => "invalid port value"
  | .nulByte => "file name contained an unexpected NUL byte"
  | .unknownHost => "failed to lookup address information: Temporary failure in name resolution"
  | .notOwn => "Cannot assign requested address (os error 99)"
  | .inUse => "Address already in use (os error 98)"

/-! ## Numbers for hosts -/

/-- A part of a number with dots: hexadecimal after `0x`, octal after `0`, else decimal. -/
def dottedPart? : List Char → Option Nat
  | '0' :: 'x' :: digits | '0' :: 'X' :: digits => Hexadecimal.value? digits
  | ['0'] => some 0
  | '0' :: digits =>
    if digits.all fun c => '0' ≤ c && c ≤ '7' then
      some (digits.foldl (fun n c => n * 8 + (c.toNat - 48)) 0)
    else none
  | digits => Decimal.ofText? digits

/-- The number of some parts: each takes eight bits, and the last one all that is left. -/
def dottedNumber? : List Nat → Option Nat
  | [a] => if a < 0x100000000 then some a else none
  | [a, b] => if a < 0x100 ∧ b < 0x1000000 then some (a * 0x1000000 + b) else none
  | [a, b, c] =>
    if a < 0x100 ∧ b < 0x100 ∧ c < 0x10000 then some (a * 0x1000000 + b * 0x10000 + c) else none
  | [a, b, c, d] =>
    if a < 0x100 ∧ b < 0x100 ∧ c < 0x100 ∧ d < 0x100 then
      some (a * 0x1000000 + b * 0x10000 + c * 0x100 + d)
    else none
  | _ => none

/-- The parts of a text between separators. -/
def splitOn (separator : Char) : List Char → List (List Char)
  | [] => [[]]
  | c :: rest =>
    if c = separator then [] :: splitOn separator rest
    else match splitOn separator rest with
      | part :: parts => (c :: part) :: parts
      | [] => [[c]]

/-- The number of a host in the notation with dots. -/
def readDotted? (text : List Char) : Option Nat :=
  ((splitOn '.' text).mapM dottedPart?).bind dottedNumber?

/-- Groups of 16 bits, written in hexadecimal with colons between them. The last two may be
written with dots. -/
def readGroups? (text : List Char) : Option (List Nat) :=
  if text.isEmpty then some []
  else
    let parts := splitOn ':' text
    let group? (part : List Char) : Option Nat :=
      if 1 ≤ part.length && part.length ≤ 4 then Hexadecimal.value? part else none
    match parts.getLast?, parts.dropLast.mapM group? with
    | some last, some groups =>
      if '.' ∈ last then
        if (splitOn '.' last).length = 4 then
          (readDotted? last).map fun n => groups ++ [n / 0x10000, n % 0x10000]
        else none
      else (group? last).map fun g => groups ++ [g]
    | _, _ => none

/-- Cuts a text at its first two colons in a row. -/
def cutDoubleColon? : List Char → Option (List Char × List Char)
  | ':' :: ':' :: rest => some ([], rest)
  | c :: rest => (cutDoubleColon? rest).map fun (before, after) => (c :: before, after)
  | [] => none

/-- The number of a host in the notation with colons. Two colons in a row stand for as many groups
of zeros as are missing, at least one. -/
def readColons? (text : List Char) : Option Nat :=
  let groups? : Option (List Nat) :=
    match cutDoubleColon? text with
    | none => readGroups? text
    | some (before, after) =>
      match readGroups? before, readGroups? after with
      | some front, some back =>
        if front.length + back.length < 8 then
          some (front ++ List.replicate (8 - front.length - back.length) 0 ++ back)
        else none
      | _, _ => none
  match groups? with
  | some groups =>
    if groups.length = 8 then some (groups.foldl (fun n g => n * 0x10000 + g) 0) else none
  | none => none

/-- The host that a text gives by number. -/
def numericHost? (text : List Char) : Option Host :=
  match readDotted? text with
  | some n => some (.v4 n)
  | none =>
    match text with
    | '[' :: rest =>
      if rest.getLast? = some ']' then (readColons? rest.dropLast).map .v6 else none
    | _ => (readColons? text).map .v6

/-- The port that a text gives: decimal digits, with or without a plus in front. -/
def readPort? (text : List Char) : Option Nat :=
  let digits := match text with
    | '+' :: rest => rest
    | _ => text
  (Decimal.ofText? digits).filter (· < 0x10000)

/-- Cuts a text at its last colon. -/
def cutLastColon? (text : List Char) : Option (List Char × List Char) :=
  (splitAt? (· = ':') text.reverse).map fun (after, before) => (before.reverse, after.reverse)

/-! ## What a machine makes of addresses -/

/-- Whether a host stands for all hosts of this machine. -/
def Host.isAny : Host → Bool
  | .v4 n | .v6 n => n == 0

/-- Whether nobody can listen on one address while somebody listens on the other. Port 0 stands for
a port that nobody uses. -/
def Address.clashes (a b : Address) : Bool :=
  a.port != 0 && a.port == b.port && (a.host == b.host || a.host.isAny || b.host.isAny)

/-- Whether a host is this machine as it sees itself: loopback, any of its own, or everybody. -/
def isLoopbackOrAny : Host → Bool
  | .v4 n => n / 0x1000000 == 127 || n == 0 || n / 0x10000000 == 14 || n == 0xFFFFFFFF
  | .v6 n => n == 0 || n == 1

end Network

/-- What a machine makes of addresses. -/
structure Network where
  /-- The host of a name, if it is known. -/
  lookup : String → Option Network.Host
  /-- Whether a host is this machine. -/
  isOwn : Network.Host → Bool
  /-- Whether what is sent to this machine arrives. -/
  carries : Bool
  /-- Where somebody listens for connections. -/
  occupied : List Network.Address := []

namespace Network

open Text

/-- A machine that nothing gets into or out of: it knows no name but its own, and nobody reaches
it. -/
def isolated : Network where
  lookup name := if name = "localhost" then some (.v4 0x7F000001) else none
  isOwn := isLoopbackOrAny
  carries := false

/-- The address that a text means. -/
def resolve (n : Network) (text : String) : Except BindError Address :=
  match cutLastColon? text.toList with
  | none => .error .noPort
  | some (host, port) =>
    match readPort? port with
    | none => .error .badPort
    | some port =>
      if Char.ofNat 0 ∈ host then .error .nulByte
      else match (numericHost? host).or (n.lookup (String.ofList host)) with
        | some host => .ok ⟨host, port⟩
        | none => .error .unknownHost

/-- The address of this machine that a text means. -/
def own (n : Network) (text : String) : Except BindError Address :=
  match n.resolve text with
  | .ok address => if n.isOwn address.host then .ok address else .error .notOwn
  | .error e => .error e

/-- Listens for connections on the address that a text means. -/
def listen (n : Network) (text : String) : Except BindError Address :=
  match n.own text with
  | .ok address => if n.occupied.any address.clashes then .error .inUse else .ok address
  | .error e => .error e

/-- The network when somebody listens for connections on an address. -/
def occupy (n : Network) (address : Address) : Network :=
  { n with occupied := n.occupied ++ [address] }

end Network

end SyslogCollector
