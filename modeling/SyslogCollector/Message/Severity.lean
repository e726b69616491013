/-!
# Severities

The eight severities of syslog, from 0 (most severe) to 7.
-/

namespace SyslogCollector

/-- How severe a message is. -/
inductive Severity where
  | emergency | alert | critical | error | warning | notice | info | debug
  deriving DecidableEq, Repr, Inhabited

namespace Severity

/-- The numerical code, 0 to 7. -/
def code : Severity → Nat
  | .emergency => 0
  | .alert => 1
  | .critical => 2
  | .error => 3
  | .warning => 4
  | .notice => 5
  | .info => 6
  | .debug => 7

/-- The severity of a numerical code. -/
def ofCode? : Nat → Option Severity
  | 0 => some .emergency
  | 1 => some .alert
  | 2 => some .critical
  | 3 => some .error
  | 4 => some .warning
  | 5 => some .notice
  | 6 => some .info
  | 7 => some .debug
  | _ => none

/-- The name, in lower case. -/
def name : Severity → String
  | .emergency => "emergency"
  | .alert => "alert"
  | .critical => "critical"
  | .error => "error"
  | .warning => "warning"
  | .notice => "notice"
  | .info => "info"
  | .debug => "debug"

/-- All severities, the most severe first. -/
def all : List Severity :=
  [.emergency, .alert, .critical, .error, .warning, .notice, .info, .debug]

/-- The severity of exactly this name. -/
def ofName? (text : String) : Option Severity :=
  all.find? (·.name == text)

/-- The short spellings that people type. -/
def abbreviations : List (String × Severity) :=
  [("emerg", .emergency), ("crit", .critical), ("err", .error), ("warn", .warning)]

/-- The severity that someone typed: a name or an abbreviation, in any case of ASCII letters. -/
def ofTyped? (text : String) : Option Severity :=
  let text := text.map Char.toLower
  (ofName? text).or (abbreviations.lookup text)

/-- The code of a severity leads back to it. -/
theorem ofCode?_code (s : Severity) : ofCode? s.code = some s := by
  cases s <;> rfl

/-- There are 8 codes. -/
theorem code_lt (s : Severity) : s.code < 8 := by
  cases s <;> decide

/-- Every one of the 8 codes has its severity. -/
theorem exists_ofCode? {n : Nat} (h : n < 8) : ∃ s, ofCode? n = some s := by
  have hall : ∀ n < 8, (ofCode? n).isSome = true := by decide
  exact Option.isSome_iff_exists.1 (hall n h)

/-- A code belongs to no other severity. -/
theorem ofCode?_eq_some_iff {n : Nat} {s : Severity} : ofCode? n = some s ↔ s.code = n := by
  constructor
  · intro h
    unfold ofCode? at h
    split at h <;> simp_all [code] <;> subst h <;> rfl
  · rintro rfl
    exact ofCode?_code s

end Severity

end SyslogCollector
