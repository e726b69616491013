import SyslogCollector.Text.DoubleRange
/-!
# JSON values

A document is a tree that keeps what the text says: members in order and with repetitions, numbers
exactly, and strings whose escapes name a lone surrogate as strings without a text.
-/

namespace SyslogCollector.Json

/-- A number: `mantissa * 10 ^ exponent`. -/
structure Number where
  /-- Whether a minus stands in front. -/
  negative : Bool
  /-- The digits, without the point. -/
  mantissa : Nat
  /-- The power of ten. -/
  exponent : Int
  /-- Whether it is written without a point and without an exponent. -/
  isInteger : Bool
  deriving DecidableEq, Repr

namespace Number

/-- The number as a signed integer of 64 bits, if it is written as an integer and is one. -/
def toInt64? (n : Number) : Option Int :=
  let value : Int := if n.negative then -(n.mantissa : Int) else n.mantissa
  if n.isInteger && -0x8000000000000000 ≤ value && value < 0x8000000000000000 then some value else none

/-- Whether the number is in the range of double precision. -/
def isFinite (n : Number) : Bool :=
  !DoubleRange.exceeds n.mantissa n.exponent

end Number

/-- A JSON value. -/
inductive Value where
  | null
  | bool (value : Bool)
  | number (value : Number)
  /-- A string; there is no text if its escapes name a lone surrogate. -/
  | string (text : Option String)
  | array (items : List Value)
  /-- An object: its members in order, each with its key. -/
  | object (members : List (Option String × Value))
  deriving Repr, Inhabited

namespace Value

mutual

/-- How deep arrays and objects are nested. -/
def depth : Value → Nat
  | .array items => depthOfItems items + 1
  | .object members => depthOfMembers members + 1
  | _ => 0

/-- How deep the deepest of some items is nested. -/
def depthOfItems : List Value → Nat
  | [] => 0
  | v :: rest => max v.depth (depthOfItems rest)

/-- How deep the deepest of some members is nested. -/
def depthOfMembers : List (Option String × Value) → Nat
  | [] => 0
  | (_, v) :: rest => max v.depth (depthOfMembers rest)

end

mutual

/-- Whether all strings have a text, keys included, and all numbers are in the range of double
precision. -/
def isPlain : Value → Bool
  | .string text => text.isSome
  | .number n => n.isFinite
  | .array items => itemsArePlain items
  | .object members => membersArePlain members
  | _ => true

/-- Whether all items are plain. -/
def itemsArePlain : List Value → Bool
  | [] => true
  | v :: rest => v.isPlain && itemsArePlain rest

/-- Whether all members are plain, and their keys too. -/
def membersArePlain : List (Option String × Value) → Bool
  | [] => true
  | (key, v) :: rest => key.isSome && v.isPlain && membersArePlain rest

end

/-! ## Reading typed data out of a value -/

/-- The text of a string. -/
def text? : Value → Option String
  | .string text => text
  | _ => none

/-- A value that may be null. -/
def nullable? (read : Value → Option α) : Value → Option (Option α)
  | .null => some none
  | v => (read v).map some

/-- The name of an alternative: a string, or an object whose only member has that key and the
value null. -/
def alternative? : Value → Option String
  | .string text => text
  | .object [(key, .null)] => key
  | _ => none

/-- The fields of a record, in the order of their names, each with its value if it is there. A
record is an object, in which no field may stand twice and other members count for nothing, or an
array of the values in order, which may stop early. -/
def fields? (names : List String) : Value → Option (List (Option Value))
  | .object members =>
    if members.any (·.1.isNone) then none
    else names.mapM fun name =>
      match members.filter (·.1 == some name) with
      | [] => some none
      | [(_, v)] => some (some v)
      | _ => none
  | .array items =>
    if names.length < items.length then none
    else some (names.zipIdx.map fun (_, i) => items[i]?)
  | _ => none

end Value

end SyslogCollector.Json
