import SyslogCollector.Proofs.Time.Order
import SyslogCollector.Store.SeriesQuery
/-!
# The count of nanoseconds as a clamp

Outside leap seconds the count of an instant in 64 bits is its exact count, held between the two
ends of the 64 bits (`Instant.toNanos_eq_clamp`), although it is put together from a count that may
not exist and a side that is read off the whole seconds. So the counts keep the order of time, and a
bound on the count admits what a bound on the time would (`Instant.toNanos_clamps_in_order`).
-/

namespace SyslogCollector.Instant

variable {a b t : Instant}

/-- Whether an instant lies outside leap seconds. -/
def WithinSecond (t : Instant) : Prop :=
  t.nanos < nanosPerSecond

/-- Whether the nanoseconds of an instant can be counted in 64 bits. -/
def Fits (t : Instant) : Prop :=
  leastNanos ≤ t.count ∧ t.count ≤ greatestNanos

instance (t : Instant) : Decidable t.WithinSecond :=
  inferInstanceAs (Decidable (_ < _))

instance (t : Instant) : Decidable t.Fits :=
  inferInstanceAs (Decidable (_ ∧ _))

theorem WithinSecond.onClock (h : t.WithinSecond) : t.OnClock := by
  simp only [WithinSecond, OnClock] at h ⊢
  omega

/-! ### Exact counts are in the order of the instants -/

theorem notAfter_iff_count_le (ha : a.WithinSecond) (hb : b.WithinSecond) :
    a.notAfter b = true ↔ a.count ≤ b.count := by
  rw [notAfter_iff]
  simp only [WithinSecond, nanosPerSecond, count] at ha hb ⊢
  omega

theorem before_iff_count_lt (ha : a.WithinSecond) (hb : b.WithinSecond) :
    a.before b = true ↔ a.count < b.count := by
  have hnot : a.before b = true ↔ ¬ b.notAfter a = true := by simp [notAfter]
  rw [hnot, notAfter_iff_count_le hb ha, Int.not_le]

/-! ### The count in 64 bits -/

/-- There is a count exactly where it fits: below the first second that is counted nothing fits, and
from there on the whole seconds fit as soon as their sum with the nanoseconds does. -/
theorem nanos?_eq (h : t.WithinSecond) : t.nanos? = if t.Fits then some t.count else none := by
  unfold nanos?
  refine ite_congr (propext ?_) (fun _ => rfl) (fun _ => rfl)
  simp only [WithinSecond, nanosPerSecond, Fits, count, leastNanos, greatestNanos] at h ⊢
  -- the whole seconds before the epoch are counted without the last one
  split <;> omega

/-- The count is the exact one, held at the ends of the 64 bits. -/
theorem toNanos_eq_clamp (h : t.WithinSecond) :
    t.toNanos = max leastNanos (min t.count greatestNanos) := by
  by_cases hearly : t.seconds < leastSecond
  · -- the exact count does not reach the least one
    have hcount : t.count ≤ leastNanos := by
      simp only [WithinSecond, nanosPerSecond, count, leastSecond, leastNanos] at h hearly ⊢
      omega
    rw [toNanos_of_lt hearly]
    omega
  · exact toNanos_eq_max h.onClock (Int.not_lt.1 hearly)

theorem Fits.toNanos_eq (hfits : t.Fits) (h : t.WithinSecond) : t.toNanos = t.count := by
  rw [toNanos_eq_clamp h, Int.min_eq_left hfits.2, Int.max_eq_right hfits.1]

theorem toNanos_mono (ha : a.WithinSecond) (hb : b.WithinSecond) (h : a.notAfter b = true) :
    a.toNanos ≤ b.toNanos := by
  rw [notAfter_iff_count_le ha hb] at h
  rw [toNanos_eq_clamp ha, toNanos_eq_clamp hb]
  omega

/-- Outside leap seconds, the nanoseconds are counted exactly where they fit 64 bits, and the count
that is used is the exact one, clamped to the 64 bits. It keeps the order of two instants, also
where it is clamped, and it tells them apart where neither is. So a bound that is drawn at the
earlier of two instants from below, or at the later one from above, contains the other one, and
where both fit it contains no instant on the wrong side. -/
theorem toNanos_clamps_in_order (a b : Instant) (ha : a.WithinSecond) (hb : b.WithinSecond) :
    (a.nanos? = if a.Fits then some a.count else none) ∧
    a.toNanos = max leastNanos (min (a.seconds * nanosPerSecond + a.nanos) greatestNanos) ∧
    (a.notAfter b = true → a.toNanos ≤ b.toNanos ∧
      (TimeBound.atLeast a.toNanos).contains b.toNanos = true ∧
      (TimeBound.atMost b.toNanos).contains a.toNanos = true) ∧
    (a.Fits → b.Fits →
      (a.before b = true ↔ a.toNanos < b.toNanos) ∧
      ((TimeBound.atLeast a.toNanos).contains b.toNanos = true ↔ a.notAfter b = true) ∧
      ((TimeBound.atMost b.toNanos).contains a.toNanos = true ↔ a.notAfter b = true)) := by
  refine ⟨nanos?_eq ha, toNanos_eq_clamp ha, fun h => ?_, fun hfa hfb => ?_⟩
  · have hle := toNanos_mono ha hb h
    exact ⟨hle, decide_eq_true hle, decide_eq_true hle⟩
  · have hle : a.toNanos ≤ b.toNanos ↔ a.notAfter b = true := by
      rw [hfa.toNanos_eq ha, hfb.toNanos_eq hb, notAfter_iff_count_le ha hb]
    refine ⟨?_, decide_eq_true_iff.trans hle, decide_eq_true_iff.trans hle⟩
    rw [hfa.toNanos_eq ha, hfb.toNanos_eq hb, before_iff_count_lt ha hb]

/-- The two instants at the very ends of the 64 bits: their counts are exact, although in the second
of the first one less than the whole second can be counted. -/
theorem toNanos_clamps_in_order_ends :
    let first : Instant := ⟨-9223372037, 145224192⟩
    let last : Instant := ⟨9223372036, 854775807⟩
    first.toNanos = leastNanos ∧ last.toNanos = greatestNanos ∧
      first.nanos? = some leastNanos ∧ first.toNanos < last.toNanos ∧
      (TimeBound.atLeast first.toNanos).contains last.toNanos = true ∧
      (TimeBound.atMost first.toNanos).contains last.toNanos = false := by
  intro first last
  obtain ⟨hcount, hfirst, hmono, hexact⟩ :=
    toNanos_clamps_in_order first last (by decide) (by decide)
  obtain ⟨hstrict, -, -⟩ := hexact (by decide) (by decide)
  obtain ⟨-, hlast, -, hback⟩ := toNanos_clamps_in_order last first (by decide) (by decide)
  obtain ⟨-, -, hsecond⟩ := hback (by decide) (by decide)
  refine ⟨hfirst.trans (by decide), hlast.trans (by decide), hcount.trans (by decide),
    hstrict.1 (by decide), (hmono (by decide)).2.1, ?_⟩
  exact Bool.eq_false_iff.2 (mt hsecond.1 (by decide))

/-- One nanosecond beyond either end, the count stays there. -/
example : toNanos ⟨-9223372037, 145224191⟩ = leastNanos ∧
    toNanos ⟨9223372036, 854775808⟩ = greatestNanos := by decide

end SyslogCollector.Instant
