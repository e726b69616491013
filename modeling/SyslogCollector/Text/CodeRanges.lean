/-!
# Sets of characters as ranges of codes

Properties of Unicode characters are tables: closed ranges of codes, in ascending order.
-/

namespace SyslogCollector.Text

/-- A set of character codes: ranges, each given by its first and its last member. -/
abbrev CodeRanges := List (Nat × Nat)

/-- Whether the code of a character is in one of the ranges. -/
def CodeRanges.covers (ranges : CodeRanges) (c : Char) : Bool :=
  ranges.any fun (first, last) => first ≤ c.toNat && c.toNat ≤ last

end SyslogCollector.Text
