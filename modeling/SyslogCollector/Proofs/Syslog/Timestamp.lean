import SyslogCollector.Proofs.Syslog.Detection
import SyslogCollector.Proofs.Time.Order
/-!
# The timestamps that the parser admits

The strict reader of timestamps takes up to nine digits of a fraction and second 60. So what it
reads is an instant that a clock can show, and so is the time of every message that is accepted, if
the listener receives it at such an instant (`Syslog.onClock_of_parse`).
-/

namespace SyslogCollector

namespace Decimal

theorem digitValue_le {c : Char} (h : c.isDigit = true) : digitValue c ≤ 9 := by
  simp only [Char.isDigit, Bool.and_eq_true, decide_eq_true_eq] at h
  have hmost : c.toNat ≤ '9'.toNat := h.2
  simp only [digitValue]
  exact Nat.sub_le_of_le_add hmost

/-- Digits denote less than the power of ten of their number. -/
theorem value_lt {digits : List Char} (h : ∀ c ∈ digits, c.isDigit = true) :
    value digits < Nat.pow 10 digits.length := by
  have hfrom (n : Nat) : digits.foldl (fun n c => n * 10 + digitValue c) n <
      (n + 1) * Nat.pow 10 digits.length := by
    induction digits generalizing n with
    | nil => exact Nat.lt_of_lt_of_eq n.lt_succ_self (Nat.mul_one _).symm
    | cons c rest ih =>
      have hvalue := digitValue_le (h c (.head _))
      calc rest.foldl (fun n c => n * 10 + digitValue c) (n * 10 + digitValue c)
          < (n * 10 + digitValue c + 1) * Nat.pow 10 rest.length :=
            ih (fun d hd => h d (.tail _ hd)) _
        _ ≤ (n + 1) * 10 * Nat.pow 10 rest.length := Nat.mul_le_mul_right _ (by omega)
        _ = (n + 1) * Nat.pow 10 (rest.length + 1) :=
          (Nat.mul_assoc ..).trans (congrArg _ Nat.pow_succ'.symm)
  exact Nat.lt_of_lt_of_eq (hfrom 0) (by rw [Nat.zero_add, Nat.one_mul])

theorem lt_of_take? {least most n count : Nat} {s rest : List Char}
    (h : take? least most s = some (n, count, rest)) : n < Nat.pow 10 count ∧ count ≤ most := by
  obtain ⟨-, htake⟩ := Option.ite_none_left_eq_some.1 h
  cases htake
  refine ⟨value_lt fun c hc => ?_, ?_⟩
  · exact List.all_eq_true.1 List.all_takeWhile c hc
  · exact Nat.le_trans (List.takeWhile_prefix _).length_le (List.length_take_le _ _)

end Decimal

namespace Rfc3339

open Instant

theorem nanos_lt_of_fraction? {s rest : List Char} {nanos : Nat}
    (h : fraction? s = some (nanos, rest)) : nanos < nanosPerSecond := by
  simp only [fraction?, Option.bind_eq_bind, Option.bind_eq_some_iff, Prod.exists] at h
  obtain ⟨n, count, _, htake, hscaled⟩ := h
  obtain ⟨hlt, hcount⟩ := Decimal.lt_of_take? htake
  cases hscaled
  -- a fraction of fewer digits is filled up with zeros
  calc n * Nat.pow 10 (9 - count) < Nat.pow 10 count * Nat.pow 10 (9 - count) :=
        Nat.mul_lt_mul_of_pos_right hlt (Nat.pow_pos (by decide))
    _ = Nat.pow 10 (count + (9 - count)) := (Nat.pow_add ..).symm
    _ = nanosPerSecond := by rw [Nat.add_sub_cancel' hcount]; rfl

theorem nanos_lt_of_optionalFraction? {s rest : List Char} {nanos : Nat}
    (h : optionalFraction? s = some (nanos, rest)) : nanos < nanosPerSecond := by
  unfold optionalFraction? at h
  split at h
  · exact nanos_lt_of_fraction? h
  · cases h
    decide

theorem onClock_of_ofClock? {c : ClockTime} {offset : Int} {t : Instant}
    (hnanos : c.nanos < nanosPerSecond) (h : ofClock? c offset = some t) : t.OnClock := by
  obtain ⟨-, htime⟩ := Option.ite_none_right_eq_some.1 h
  cases htime
  simp only [OnClock]
  split <;> omega

/-- The strict reader reads instants that a clock can show. -/
theorem onClock_of_parseStrict? {s : List Char} {t : Instant} (h : parseStrict? s = some t) :
    t.OnClock := by
  simp only [parseStrict?, Option.bind_eq_bind, Option.bind_eq_some_iff, Prod.exists] at h
  obtain ⟨_, _, -, _, -, _, _, -, _, -, _, _, -, _, -, _, _, -, _, -, _, _, -, _, -, _, _, -,
    nanos, _, hfraction, _, _, -, h⟩ := h
  split at h
  · exact onClock_of_ofClock? (nanos_lt_of_optionalFraction? hfraction) h
  · cases h

end Rfc3339

namespace Syslog

/-- The time of a message of the BSD dialect is when it was received. -/
theorem Rfc3164.timestamp_of_parse {text : List Char} {received : Instant} {m : Message}
    (h : Rfc3164.parse text received = .ok m) : m.timestamp = received := by
  simp only [Rfc3164.parse, Rfc5424.bind_eq_ok_iff, Prod.exists] at h
  obtain ⟨_, _, _, -, _, _, -, hmessage⟩ := h
  cases hmessage
  rfl

theorem Rfc5424.onClock_of_parse {text : List Char} {received : Instant} {m : Message}
    (hreceived : received.OnClock) (h : Rfc5424.parse text received = .ok m) :
    m.timestamp.OnClock := by
  obtain ⟨p, -, hm⟩ := exists_parts_of_parse h
  have htime := hm.timestamp
  split at htime
  · exact htime ▸ hreceived
  · exact Rfc3339.onClock_of_parseStrict? htime

/-- The time of every message that is accepted is one that a clock can show. -/
theorem onClock_of_parse {frame : List UInt8} {mode : Mode} {received : Instant} {m : Message}
    (hreceived : received.OnClock) (h : parse frame mode received = .ok m) :
    m.timestamp.OnClock := by
  rcases bsd_or_ietf_of_parse h with hbsd | hietf
  · exact Rfc3164.timestamp_of_parse hbsd ▸ hreceived
  · exact Rfc5424.onClock_of_parse hreceived hietf

/-- The time that a message is stored under is such a time as well. -/
theorem onClock_storageTime {frame : List UInt8} {mode : Mode} {arrived received : Instant}
    {m : Message} (hparse : parse frame mode arrived = .ok m) (harrived : arrived.OnClock)
    (hreceived : received.OnClock) : (m.storageTime received).OnClock := by
  unfold Message.storageTime
  split
  · exact hreceived
  · exact onClock_of_parse harrived hparse

end Syslog

end SyslogCollector
