/-!
# Counters

Components count events. A count is shown as a word of 64 bits, so it starts again at 0 after
2⁶⁴ - 1, and one that goes below 0 is shown from the top.
-/

namespace SyslogCollector

/-- How many values a word has. -/
def wordSize : Nat := 0x10000000000000000

/-- A count as it is shown. -/
def shownCount (n : Int) : Nat :=
  (n % wordSize).toNat

/-- A count below the size of a word is shown as it is. -/
theorem shownCount_of_lt {n : Nat} (h : n < wordSize) : shownCount n = n := by
  unfold shownCount wordSize at *
  omega

end SyslogCollector
