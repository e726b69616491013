import SyslogCollector.Proofs.LineProtocol.Unescaping
import SyslogCollector.Proofs.Text.Integer
import SyslogCollector.Store.SeriesQuery
/-!
# Statements say their queries

A statement is a fixed beginning, a name, and a where clause of at most two conditions. A reader of
that shape gets back the query that was written (`statement_read_back`), whatever characters the
name of the application and the host are made of: a plain word ends in front of the space that
follows it, a number too, and a text in quotes at its closing quote, because quotes and backslashes
in it are escaped.
-/

namespace SyslogCollector.SeriesQuery

open LineProtocol (quoted?)
open Text

/-! ## Texts in quotes -/

theorem escape_eq (quote : Char) (text : List Char) :
    escape quote text = LineProtocol.escape [quote, '\\'] text := by
  simp [escape, LineProtocol.escape]

/-- A text in quotes is read back, whatever it is and whatever follows. -/
theorem quoted?_append {quote : Char} (hquote : quote ≠ '\\') (text : String) (rest : List Char) :
    quoted? quote (quoted quote text ++ rest) = some (text, rest) := by
  have htext : quoted quote text ++ rest =
      quote :: (LineProtocol.escape [quote, '\\'] text.toList ++ quote :: rest) := by
    rw [quoted, escape_eq]
    simp
  rw [htext]
  exact LineProtocol.quoted?_escape_append hquote text rest

/-! ## Names -/

/-- Whether a character may stand in a plain word. -/
def isWordCharacter (c : Char) : Bool :=
  c.isAlphanum || c == '_'

/-- Reads a name: a text in double quotes, or a plain word. -/
def identifier? (s : List Char) : Option (String × List Char) :=
  let word := s.takeWhile isWordCharacter
  if isPlainWord word then some (String.ofList word, s.drop word.length) else quoted? '"' s

/-- A name is read back, whatever it is and whatever follows, as long as that does not go on with a
word. -/
theorem identifier?_append (name : String) {rest : List Char}
    (h : ∀ c ∈ rest.head?, isWordCharacter c = false) :
    identifier? (identifier name ++ rest) = some (name, rest) := by
  unfold identifier
  split
  · rename_i hplain
    have hall : ∀ c ∈ name.toList, isWordCharacter c = true :=
      List.all_eq_true.1 (Bool.and_eq_true_iff.1 hplain).2
    have hword : (name.toList ++ rest).takeWhile isWordCharacter = name.toList :=
      takeWhile_append_of_head? hall h
    simp only [identifier?, hword, hplain, if_true, String.ofList_toList, List.drop_left]
  · -- no word starts with a quote
    have hword : (quoted '"' name ++ rest).takeWhile isWordCharacter = [] :=
      List.takeWhile_cons_of_neg (by decide)
    simp only [identifier?, hword]
    exact quoted?_append (by decide) name rest

/-! ## Conditions -/

/-- Reads a bound on the time. -/
def timeCondition? (s : List Char) : Option (TimeBound × List Char) :=
  match afterPrefix? "time >= ".toList s, afterPrefix? "time <= ".toList s with
  | some s, _ => (Decimal.integer? s).map fun (n, s) => (.atLeast n, s)
  | none, some s => (Decimal.integer? s).map fun (n, s) => (.atMost n, s)
  | none, none => none

/-- A bound on the time is read back, whatever follows that does not start with a digit. -/
theorem timeCondition?_append (bound : TimeBound) {rest : List Char}
    (h : ∀ c ∈ rest.head?, c.isDigit = false) :
    timeCondition? (timeCondition bound ++ rest) = some (bound, rest) := by
  cases bound with
  | atLeast n =>
    have hread : afterPrefix? "time >= ".toList (timeCondition (.atLeast n) ++ rest) =
        some ((toString n).toList ++ rest) :=
      afterPrefix?_eq_some_iff.2 (List.append_assoc _ _ _)
    rw [timeCondition?, hread]
    simp only [Decimal.integer?_toString_append n h, Option.map_some]
  | atMost n =>
    -- the words of the other bound do not match
    have hother : afterPrefix? "time >= ".toList (timeCondition (.atMost n) ++ rest) = none := rfl
    have hread : afterPrefix? "time <= ".toList (timeCondition (.atMost n) ++ rest) =
        some ((toString n).toList ++ rest) :=
      afterPrefix?_eq_some_iff.2 (List.append_assoc _ _ _)
    rw [timeCondition?, hother, hread]
    simp only [Decimal.integer?_toString_append n h, Option.map_some]

/-- Reads the condition on the host, which comes last. -/
def hostCondition? (s : List Char) : Option String := do
  let s ← afterPrefix? "hostname=".toList s
  let (host, s) ← quoted? '\'' s
  if s.isEmpty then some host else none

/-- The condition on a host is read back, whatever the host is. -/
theorem hostCondition?_append (host : String) :
    hostCondition? ("hostname=".toList ++ quoted '\'' host) = some host := by
  have hquoted := @quoted?_append '\'' (by decide) host []
  rw [List.append_nil] at hquoted
  rw [hostCondition?, afterPrefix?_eq_some_iff.2 rfl, Option.bind_eq_bind, Option.bind_some,
    hquoted]
  rfl

/-- Reads what follows `where`: a bound on the time, a condition on the host, or one after the
other. -/
def conditions? (s : List Char) : Option (Option TimeBound × Option String) :=
  match timeCondition? s with
  | none => (hostCondition? s).map fun host => (none, some host)
  | some (bound, s) =>
    if s.isEmpty then some (some bound, none)
    else ((afterPrefix? " and ".toList s).bind hostCondition?).map fun host =>
      (some bound, some host)

/-- Reads a where clause, which may be missing. -/
def whereClause? (s : List Char) : Option (Option TimeBound × Option String) :=
  if s.isEmpty then some (none, none) else (afterPrefix? " where ".toList s).bind conditions?

theorem whereClause?_append {s : List Char} :
    whereClause? (" where ".toList ++ s) = conditions? s := by
  have hread : afterPrefix? " where ".toList (" where ".toList ++ s) = some s :=
    afterPrefix?_eq_some_iff.2 rfl
  rw [whereClause?, hread]
  rfl

/-- The where clause of a query says its bound on the time and its host, and nothing else. -/
theorem whereClause?_conditions (q : SeriesQuery) :
    whereClause? (whereClause q.conditions) = some (q.time, q.hostname) := by
  obtain ⟨measurement, time, hostname⟩ := q
  cases time with
  | none =>
    cases hostname with
    | none => rfl
    | some host =>
      have htext : whereClause (conditions ⟨measurement, none, some host⟩) =
          " where ".toList ++ ("hostname=".toList ++ quoted '\'' host) := List.append_nil _
      have htime : timeCondition? ("hostname=".toList ++ quoted '\'' host) = none := rfl
      rw [htext, whereClause?_append, conditions?, htime]
      simp only [hostCondition?_append, Option.map_some]
  | some bound =>
    cases hostname with
    | none =>
      have htext : whereClause (conditions ⟨measurement, some bound, none⟩) =
          " where ".toList ++ (timeCondition bound ++ []) := List.append_assoc _ _ _
      rw [htext, whereClause?_append, conditions?, timeCondition?_append bound (by simp)]
      rfl
    | some host =>
      have htext : whereClause (conditions ⟨measurement, some bound, some host⟩) =
          " where ".toList ++ (timeCondition bound ++
            (" and ".toList ++ ("hostname=".toList ++ quoted '\'' host))) := by
        change " where ".toList ++ timeCondition bound ++
          ["hostname=".toList ++ quoted '\'' host].flatMap (fun d => " and ".toList ++ d) = _
        rw [List.flatMap_singleton]
        exact List.append_assoc _ _ _
      -- the number of the bound ends in front of the space
      have hspace : ∀ c ∈ (" and ".toList ++ ("hostname=".toList ++ quoted '\'' host)).head?,
          c.isDigit = false := by
        rintro c ⟨⟩
        rfl
      have hand : afterPrefix? " and ".toList
          (" and ".toList ++ ("hostname=".toList ++ quoted '\'' host)) =
            some ("hostname=".toList ++ quoted '\'' host) := afterPrefix?_eq_some_iff.2 rfl
      rw [htext, whereClause?_append, conditions?, timeCondition?_append bound hspace]
      simp only [hand, Option.bind_some, hostCondition?_append, Option.map_some]
      rfl

/-! ## Statements -/

/-- Reads a statement up to its where clause: the name of the application, and the rest. -/
def source? (s : List Char) : Option (String × List Char) :=
  (afterPrefix? "select time,severity,message from ".toList s).bind identifier?

/-- Reads a statement. -/
def ofStatement? (text : String) : Option SeriesQuery := do
  let (measurement, s) ← source? text.toList
  let (time, hostname) ← whereClause? s
  some { measurement, time, hostname }

/-- A where clause does not go on with the name in front of it. -/
theorem head?_whereClause (conditions : List (List Char)) :
    ∀ c ∈ (whereClause conditions).head?, isWordCharacter c = false := by
  cases conditions with
  | nil => nofun
  | cons condition rest =>
    rintro c ⟨⟩
    rfl

/-- The name of a statement is read back, and the where clause is left. -/
theorem source?_statement (q : SeriesQuery) :
    source? q.statement.toList = some (q.measurement, whereClause q.conditions) := by
  have htext : q.statement.toList = "select time,severity,message from ".toList ++
      identifier q.measurement ++ whereClause q.conditions := String.toList_ofList
  have hread : afterPrefix? "select time,severity,message from ".toList q.statement.toList =
      some (identifier q.measurement ++ whereClause q.conditions) :=
    afterPrefix?_eq_some_iff.2 (htext.trans (List.append_assoc _ _ _))
  rw [source?, hread, Option.bind_some]
  exact identifier?_append q.measurement (head?_whereClause q.conditions)

theorem ofStatement?_statement (q : SeriesQuery) : ofStatement? q.statement = some q := by
  rw [ofStatement?, source?_statement, Option.bind_eq_bind, Option.bind_some]
  simp only [whereClause?_conditions, Option.bind_eq_bind, Option.bind_some]

/-- A statement says its query: the application, the bound on the time and the host are read back
from it, whatever the two names are made of, so different queries have different statements. What
follows the name of the application is the same for every name, and for every host it is read as the
bound on the time and the condition on that host. -/
theorem statement_read_back (q : SeriesQuery) :
    ofStatement? q.statement = some q ∧
      (∀ q', q'.statement = q.statement → q' = q) ∧
      (∀ name, source? ({ q with measurement := name } : SeriesQuery).statement.toList =
        some (name, whereClause q.conditions)) ∧
      ∀ host, whereClause? (whereClause { q with hostname := some host }.conditions) =
        some (q.time, some host) := by
  refine ⟨ofStatement?_statement q, fun q' hsame => ?_, fun name => source?_statement _,
    fun host => whereClause?_conditions _⟩
  have hread := ofStatement?_statement q'
  rw [hsame, ofStatement?_statement q] at hread
  exact (Option.some.inj hread).symm

/-- A host that would add a condition stays a host. -/
example : (⟨"app", none, some "' or time >= 0"⟩ : SeriesQuery).statement =
    "select time,severity,message from app where hostname='\\' or time >= 0'" := by decide

end SyslogCollector.SeriesQuery
