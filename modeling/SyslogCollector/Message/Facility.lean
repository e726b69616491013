/-!
# Facilities

The twenty-four facilities of syslog.
-/

namespace SyslogCollector

/-- Which part of a system a message comes from. -/
inductive Facility where
  | kern | user | mail | daemon | auth | syslog | lpr | news | uucp | cron | authpriv | ftp | ntp
  | security | console | solarisCron
  | local0 | local1 | local2 | local3 | local4 | local5 | local6 | local7
  deriving DecidableEq, Repr, Inhabited

namespace Facility

/-- All facilities, in the order of their codes. -/
def all : List Facility :=
  [.kern, .user, .mail, .daemon, .auth, .syslog, .lpr, .news, .uucp, .cron, .authpriv, .ftp, .ntp,
    .security, .console, .solarisCron,
    .local0, .local1, .local2, .local3, .local4, .local5, .local6, .local7]

/-- The numerical code, 0 to 23. -/
def code : Facility → Nat
  | .kern => 0
  | .user => 1
  | .mail => 2
  | .daemon => 3
  | .auth => 4
  | .syslog => 5
  | .lpr => 6
  | .news => 7
  | .uucp => 8
  | .cron => 9
  | .authpriv => 10
  | .ftp => 11
  | .ntp => 12
  | .security => 13
  | .console => 14
  | .solarisCron => 15
  | .local0 => 16
  | .local1 => 17
  | .local2 => 18
  | .local3 => 19
  | .local4 => 20
  | .local5 => 21
  | .local6 => 22
  | .local7 => 23

/-- The facility of a numerical code. -/
def ofCode? (n : Nat) : Option Facility :=
  all[n]?

/-- The name, in lower case. -/
def name : Facility → String
  | .kern => "kern"
  | .user => "user"
  | .mail => "mail"
  | .daemon => "daemon"
  | .auth => "auth"
  | .syslog => "syslog"
  | .lpr => "lpr"
  | .news => "news"
  | .uucp => "uucp"
  | .cron => "cron"
  | .authpriv => "authpriv"
  | .ftp => "ftp"
  | .ntp => "ntp"
  | .security => "security"
  | .console => "console"
  | .solarisCron => "solaris-cron"
  | .local0 => "local0"
  | .local1 => "local1"
  | .local2 => "local2"
  | .local3 => "local3"
  | .local4 => "local4"
  | .local5 => "local5"
  | .local6 => "local6"
  | .local7 => "local7"

/-- The name in JSON documents, which has no hyphen. -/
def documentName (f : Facility) : String :=
  if f = .solarisCron then "solariscron" else f.name

/-- The facility of exactly this name in a JSON document. -/
def ofDocumentName? (text : String) : Option Facility :=
  all.find? (·.documentName == text)

/-- The code of a facility leads back to it. -/
theorem ofCode?_code (f : Facility) : ofCode? f.code = some f := by
  cases f <;> rfl

/-- A code belongs to no other facility. -/
theorem ofCode?_eq_some_iff {n : Nat} {f : Facility} : ofCode? n = some f ↔ f.code = n := by
  constructor
  · intro h
    obtain ⟨hn, rfl⟩ := List.getElem?_eq_some_iff.1 h
    have hcodes : ∀ n (hn : n < all.length), all[n].code = n := by decide
    exact hcodes n hn
  · rintro rfl
    exact ofCode?_code f

/-- Every one of the 24 codes has its facility. -/
theorem exists_ofCode? {n : Nat} (h : n < 24) : ∃ f, ofCode? n = some f :=
  ⟨all[n], List.getElem?_eq_getElem h⟩

end Facility

end SyslogCollector
