/-!
# TOML values

A document is a tree of tables. It keeps how every table came to be, because that decides which
later lines may still add to it. Of floats and dates nothing but their presence is kept: no
setting has such a value.
-/

namespace SyslogCollector.Toml

/-- How a table came to be. -/
inductive Origin where
  /-- Its own header names it, or it is the document. -/
  | header
  /-- A longer header goes through it. -/
  | implied
  /-- A dotted key goes through it. -/
  | dotted
  /-- It is written in braces. -/
  | braces
  deriving DecidableEq, Repr

/-- A TOML value. -/
inductive Value where
  | string (text : String)
  | integer (value : Int)
  | float
  | bool (value : Bool)
  /-- A date, a time of day, or both. -/
  | dateTime
  /-- An array in brackets. -/
  | array (items : List Value)
  /-- A table: its entries in order. -/
  | table (origin : Origin) (entries : List (String × Value))
  /-- The tables of a header in double brackets, each by its entries. -/
  | tables (items : List (List (String × Value)))
  deriving Repr, Inhabited

/-- The entries of a table. -/
abbrev Entries := List (String × Value)

end SyslogCollector.Toml
