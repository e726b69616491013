import SyslogCollector.Time.Instant
/-!
# The order of instants and of their nanosecond counts

A leap second shares its count of nanoseconds with the second after it, so the count does not keep
the order there: an instant late in a leap second counts more than one early in the next second
(`Instant.Overtakes`). Everywhere else it does, also where the counts are held at the ends of the
64 bits (`Instant.toNanos_le_toNanos`).
-/

namespace SyslogCollector.Instant

variable {a b t : Instant}

/-- Whether a clock can show the instant: a second has 10⁹ nanoseconds, and a leap second that many
more. -/
def OnClock (t : Instant) : Prop :=
  t.nanos < 2 * nanosPerSecond

/-- Whether an instant lies in the leap second in front of the second of another, and further into
it than the other into its own. -/
def Overtakes (a b : Instant) : Prop :=
  a.seconds + 1 = b.seconds ∧ nanosPerSecond + b.nanos < a.nanos

instance (t : Instant) : Decidable t.OnClock :=
  inferInstanceAs (Decidable (_ < _))

instance (a b : Instant) : Decidable (a.Overtakes b) :=
  inferInstanceAs (Decidable (_ ∧ _))

theorem notAfter_iff :
    a.notAfter b = true ↔ a.seconds < b.seconds ∨ a.seconds = b.seconds ∧ a.nanos ≤ b.nanos := by
  simp only [notAfter, before, Bool.not_eq_true', Bool.or_eq_false_iff, Bool.and_eq_false_iff,
    decide_eq_false_iff_not, beq_eq_false_iff_ne]
  omega

/-- The nanoseconds since the epoch, however many. -/
def count (t : Instant) : Int :=
  t.seconds * nanosPerSecond + t.nanos

/-- Of two instants, the one that is not after the other counts no more, unless it overtakes it. -/
theorem count_le_count (ha : a.OnClock) (h : a.notAfter b = true) (hleap : ¬ a.Overtakes b) :
    a.count ≤ b.count := by
  rw [notAfter_iff] at h
  simp only [OnClock, Overtakes, nanosPerSecond, count] at ha hleap ⊢
  omega

/-! ### The count in 64 bits -/

/-- The first second whose nanoseconds are counted. -/
def leastSecond : Int := -9223372037

/-- Before the first second that is counted, the count is held at the least one, even in a leap
second whose nanoseconds would fit. -/
theorem toNanos_of_lt (h : t.seconds < leastSecond) : t.toNanos = leastNanos := by
  have hneg : t.seconds < 0 := Int.lt_trans h (by decide)
  -- the whole seconds are counted first, and they do not fit already
  have hnone : t.nanos? = none := by
    refine if_neg fun hfits => ?_
    simp only [if_pos hneg, nanosPerSecond, leastNanos, leastSecond] at h hfits
    omega
  rw [toNanos, hnone]
  exact if_pos hneg

/-- From that second on, the count is held between the least and the greatest one. -/
theorem toNanos_eq_max (h : t.OnClock) (hlate : leastSecond ≤ t.seconds) :
    t.toNanos = max leastNanos (min t.count greatestNanos) := by
  simp only [OnClock, leastSecond, nanosPerSecond] at h hlate
  unfold toNanos
  cases hn : t.nanos? with
  | some n =>
    obtain ⟨hfits, hcount⟩ := Option.ite_none_right_eq_some.1 hn
    cases hcount
    simp only [count, nanosPerSecond, leastNanos, greatestNanos] at hfits ⊢
    omega
  | none =>
    -- the count lies outside the 64 bits, on the side that the sign of the seconds tells
    unfold nanos? at hn
    have hfits := mt (fun h => (if_pos h).symm.trans hn) (Option.some_ne_none _)
    simp only [count, nanosPerSecond, leastNanos, greatestNanos] at hfits ⊢
    split <;> omega

theorem leastNanos_le_toNanos (h : t.OnClock) : leastNanos ≤ t.toNanos := by
  by_cases hearly : t.seconds < leastSecond
  · exact Int.le_of_eq (toNanos_of_lt hearly).symm
  · rw [toNanos_eq_max h (Int.not_lt.1 hearly)]
    exact Int.le_max_left _ _

/-- The counts of instants in 64 bits are in the order of the instants, unless one overtakes the
other. -/
theorem toNanos_le_toNanos (ha : a.OnClock) (hb : b.OnClock) (h : a.notAfter b = true)
    (hleap : ¬ a.Overtakes b) : a.toNanos ≤ b.toNanos := by
  by_cases hearly : a.seconds < leastSecond
  · rw [toNanos_of_lt hearly]
    exact leastNanos_le_toNanos hb
  · have hseconds : a.seconds ≤ b.seconds := by
      rw [notAfter_iff] at h
      omega
    have hcount := count_le_count ha h hleap
    have hlate : leastSecond ≤ a.seconds := Int.not_lt.1 hearly
    -- both are held at the same ends, which keeps the order
    rw [toNanos_eq_max ha hlate, toNanos_eq_max hb (Int.le_trans hlate hseconds)]
    omega

end SyslogCollector.Instant
