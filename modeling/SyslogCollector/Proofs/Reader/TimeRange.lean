import Mathlib.Control.Monad.Basic
import SyslogCollector.Proofs.Reader.Stock
import SyslogCollector.Proofs.Syslog.Timestamp
/-!
# Messages are found by their time

A reader compares counts of nanoseconds in 64 bits, not instants. These keep the order of time even
where they do not fit, so a message that was written and flushed is found by the time ranges that
contain its time (`flushed_message_found`), but for one case: in a leap second the count runs ahead
of the next second, and a bound there may miss the message (`message_of_leap_second_missed`).
-/

namespace SyslogCollector

namespace QueryParams

/-- Whether the time range of a request contains a time: the range that begins at its start, or
without a start the one that ends at its end. -/
def rangeContains (params : QueryParams) (time : Instant) : Bool :=
  match params.start, params.stop with
  | some start, _ => start.notAfter time
  | none, some stop => time.notAfter stop
  | none, none => true

/-- Whether of the bound of the time range and the time the earlier one overtakes the other. -/
def rangeOvertaken (params : QueryParams) (time : Instant) : Bool :=
  match params.start, params.stop with
  | some start, _ => start.Overtakes time
  | none, some stop => time.Overtakes stop
  | none, none => false

/-- Whether the bounds of the time range are instants that a clock can show. -/
def BoundsOnClock (params : QueryParams) : Prop :=
  (∀ start ∈ params.start, start.OnClock) ∧ ∀ stop ∈ params.stop, stop.OnClock

instance (params : QueryParams) : Decidable params.BoundsOnClock :=
  inferInstanceAs (Decidable (_ ∧ _))

end QueryParams

namespace Store

/-- The query asks for a point of its application and host whose time is in its range, unless the
point or the bound is overtaken. -/
theorem asksFor_of_rangeContains {params : QueryParams} {p : Point}
    (happ : params.appName = p.measurement)
    (hhost : params.hostFilter.all (· == p.hostname) = true) (hpoint : p.timestamp.OnClock)
    (hbounds : params.BoundsOnClock) (hrange : params.rangeContains p.timestamp = true)
    (hleap : params.rangeOvertaken p.timestamp = false) : asksFor params p = true := by
  unfold asksFor
  rw [Bool.and_eq_true, Bool.and_eq_true]
  refine ⟨⟨beq_iff_eq.2 happ.symm, ?_⟩, ?_⟩
  · unfold QueryParams.hostFilter at hhost
    cases hname : params.hostname with
    | none => rfl
    | some host =>
      rw [hname, Option.filter_some] at hhost
      cases hempty : host.isEmpty with
      | true => simp [hempty]
      | false => simpa [hempty] using hhost
  · -- the query compares counts, which keep the order of the two instants
    unfold QueryParams.rangeContains at hrange
    unfold QueryParams.rangeOvertaken at hleap
    cases hstart : params.start with
    | some start =>
      rw [hstart] at hrange hleap
      exact decide_eq_true (Instant.toNanos_le_toNanos (hbounds.1 start hstart) hpoint hrange
        (of_decide_eq_false hleap))
    | none =>
      cases hstop : params.stop with
      | some stop =>
        rw [hstart, hstop] at hrange hleap
        exact decide_eq_true (Instant.toNanos_le_toNanos hpoint (hbounds.2 stop hstop) hrange
          (of_decide_eq_false hleap))
      | none => rfl

namespace Writer

variable {t : Tuning} {size : Nat} {s s' : State MemoryStore}

/-! ### Messages that were flushed -/

/-- A message, received at a time, was written to a writer over an empty store in memory, and since
its point came into the buffer a flush has come to its end without an error. -/
inductive FlushedMessage (t : Tuning) (size : Nat) (m : Message) (received : Instant) :
    State MemoryStore → Prop
  | intro {l : Ledger} {place : Nat} {a : Action} {s₁ s₂ s₃ s : State MemoryStore}
      (hrun : Run .memory t { store := .withChunkSize size } l s₁)
      (hwritten : l.accepted[place]? = some (m, received)) (htaken : place ∈ l.taken)
      (hlater : State.Reachable .memory t s₁ s₂) (hstep : s₂.Step .memory t a s₃)
      (hflushed : s₂.Flushed s₃ (.ok ())) (hsince : State.Reachable .memory t s₃ s) :
      FlushedMessage t size m received s

/-- The point of a flushed message is one of those that were handed to the store. -/
theorem FlushedMessage.exists_stocked {m : Message} {received : Instant}
    (h : FlushedMessage t size m received s) :
    ∃ l handed, Stocked l handed s ∧ Point.ofMessage m received ∈ handed := by
  cases h with
  | @intro l place a s₁ s₂ s₃ _ hrun hwritten htaken hlater hstep hflushed hsince =>
    have hpoint : l.point? place = some (Point.ofMessage m received) := by
      rw [Ledger.point?, hwritten]
      rfl
    have haccepted := Ledger.mem_points htaken hpoint
    obtain ⟨_, hstocked₁⟩ := Stocked.of_run hrun
    obtain ⟨l₂, handed₂, hpoints, -, hstocked₂⟩ := hstocked₁.reach hlater
    obtain ⟨henabled, rfl⟩ := hstep
    -- the end of the flush leaves nothing in the buffer, so all was handed over
    have hempty : s₂.buffer = #[] :=
      hflushed.buffer.symm.trans (hstocked₂.stock.buffer_of_end hflushed)
    have hall : handed₂ = l₂.points := by
      rw [← hstocked₂.stock.accepted, hempty]
      exact (List.append_nil _).symm
    have hhanded : Point.ofMessage m received ∈ handed₂ := hall ▸ hpoints.subset haccepted
    obtain ⟨_, hmore, hstocked₃⟩ := hstocked₂.next (t := t) henabled
    obtain ⟨l', handed', -, hrest, hstocked⟩ := hstocked₃.reach hsince
    exact ⟨l', handed', hstocked, hrest.subset (hmore.subset hhanded)⟩

/-! ### Readers of a range -/

/-- The caller sends the query of the reader, and the reader hands out the lines of these rows,
chunk by chunk. -/
def State.HandsOut (s : State MemoryStore) (t : Tuning) (c r : Nat) (rows : List Row) : Prop :=
  ∃ chunks : List (List Row), chunks.flatten = rows ∧
    (s.next .memory t (.proceed c)).reading? c = some (nextLines (chunks.map .ok)).1 ∧
    (s.next .memory t (.proceed c)).reader? r = some (nextLines (chunks.map .ok)).2

/-- The query of a reader is sent, and the chunks of its answer are handed out. -/
theorem State.next_of_querying {c r : Nat} {params : QueryParams} {q : SeriesQuery}
    (hphase : s.phase? c = some (.querying r)) (hreader : s.reader? r = some (.pending params))
    (hquery : SeriesQuery.ofParams params = .ok q) :
    (s.next .memory t (.proceed c)).reading? c =
        some (nextLines ((s.store.query q).map .ok)).1 ∧
      (s.next .memory t (.proceed c)).reader? r =
        some (nextLines ((s.store.query q).map .ok)).2 := by
  simp only [next, hphase, proceed, hreader, sendQuery, hquery]
  exact ⟨reading?_finish _ c _, reader?_finish s _ c r _ _⟩

theorem State.handsOut_of_querying {c r : Nat} {params : QueryParams} {q : SeriesQuery}
    (hphase : s.phase? c = some (.querying r)) (hreader : s.reader? r = some (.pending params))
    (hquery : SeriesQuery.ofParams params = .ok q) : s.HandsOut t c r (s.store.rows q) :=
  ⟨s.store.query q, flatten_chunksOf _ _, next_of_querying hphase hreader hquery⟩

/-- A stored message is found by the time ranges that contain it. For every frame that is accepted
and names an application, in every run of a writer over a store in memory in which its message was
written and flushed: a request for its application whose time range contains its time is a query,
and the row of the message is among the matched rows, unless the message and the bound of the range
lie at a leap second and the earlier one overtakes the other. A reader of this request that has not
sent its query can be brought to it, and wherever it sends it, it hands out the matched rows. -/
theorem flushed_message_found {frame : List UInt8} {mode : Syslog.Mode}
    {arrived received : Instant} {m : Message} {params : QueryParams}
    (hparse : Syslog.parse frame mode arrived = .ok m) (hname : m.appName ≠ "")
    (harrived : arrived.OnClock) (hreceived : received.OnClock)
    (hflushed : FlushedMessage t size m received s) (happ : params.appName = m.appName)
    (hhost : params.hostFilter.all (· == m.hostname) = true) (hbounds : params.BoundsOnClock)
    (hrange : params.rangeContains (m.storageTime received) = true)
    (hleap : params.rangeOvertaken (m.storageTime received) = false) :
    ∃ q, SeriesQuery.ofParams params = .ok q ∧
      (Point.ofMessage m received).row ∈ s.store.rows q ∧
      ∀ r, s.reader? r = some (.pending params) →
        (∀ c, s.phase? c = some (.querying r) → s.HandsOut t c r (s.store.rows q)) ∧
        ∃ s' c, State.Reachable .memory t s s' ∧ s'.phase? c = some (.querying r) ∧
          (Point.ofMessage m received).row ∈ s'.store.rows q ∧
          s'.HandsOut t c r (s'.store.rows q) := by
  have hparams : params.appName ≠ "" := happ ▸ hname
  obtain ⟨q, hquery, -, hasks⟩ := exists_ofParams hparams
  have hasked : asksFor params (Point.ofMessage m received) = true :=
    asksFor_of_rangeContains happ hhost (Syslog.onClock_storageTime hparse harrived hreceived)
      hbounds hrange hleap
  obtain ⟨l, handed, hstocked, hhanded⟩ := hflushed.exists_stocked
  refine ⟨q, hquery, hstocked.row_mem hasks hhanded hasked, fun r hreader => ⟨?_, ?_⟩⟩
  · exact fun c hphase => State.handsOut_of_querying hphase hreader hquery
  · obtain ⟨s', c, hreach, hphase, hreader'⟩ := hstocked.exists_querying (t := t) hreader hquery
    obtain ⟨_, _, -, hmore, hstocked'⟩ := hstocked.reach hreach
    exact ⟨s', c, hreach, hphase, hstocked'.row_mem hasks (hmore.subset hhanded) hasked,
      State.handsOut_of_querying hphase hreader' hquery⟩

/-! ### Leap seconds -/

section

variable (time : Instant) (start stop : Option Instant)

/-- A message of the application `app` with this time. -/
def messageAt : Message :=
  { timestamp := time, hostname := "h", severity := .info, facility := .user, appName := "app",
    body := "x", dialect := .rfc5424 }

/-- The point of this message, received at the epoch. -/
def pointAt : Point := .ofMessage (messageAt time) ⟨0, 0⟩

/-- A writer that this message was written to. -/
def writtenAt : State MemoryStore :=
  { store := .withChunkSize 20000
    buffer := #[pointAt time]
    callers := [(0, .returned (.done (.ok ())))]
    metrics := { buffered := 1 } }

/-- The writer while its buffer is flushed. -/
def flushingAt : State MemoryStore :=
  { store := (MemoryStore.withChunkSize 20000).write [pointAt time]
    flight := some ⟨.caller 1, [pointAt time], .taken⟩
    callers := (writtenAt time).callers ++ [(1, .flushing none .result)]
    metrics := { buffered := 1 } }

/-- The writer when it is flushed and a reader with these bounds is about to send its query. -/
def askedAt : State MemoryStore :=
  { store := (MemoryStore.withChunkSize 20000).write [pointAt time]
    callers := (writtenAt time).callers ++ [(1, .returned (.done (.ok ()))), (2, .querying 0)]
    readers := [(0, .pending { appName := "app", start, stop })]
    metrics := { buffered := 1, written := 1, flushes := 1 } }

theorem flushedMessage_askedAt :
    FlushedMessage {} 20000 (messageAt time) ⟨0, 0⟩ (askedAt time start stop) := by
  have hwrite : play .memory {}
      [.call 0 (.write (messageAt time) ⟨0, 0⟩), .proceed 0, .proceed 0] {}
      { store := .withChunkSize 20000 } = some (_, writtenAt time) := rfl
  have hflush : play .memory {} [.call 1 .flush, .proceed 1] {} (writtenAt time) =
      some (_, flushingAt time) := rfl
  have hread : play .memory {}
      [.openReader 0 { appName := "app", start, stop }, .call 2 (.read 0), .proceed 2] {}
      ((flushingAt time).next .memory {} (.proceed 1)) = some (_, askedAt time start stop) := rfl
  have hflushed : (flushingAt time).Flushed ((flushingAt time).next .memory {} (.proceed 1))
      (.ok ()) := ⟨rfl, rfl, .inr ⟨_, rfl, rfl⟩⟩
  exact .intro (Run.refl.play hwrite) rfl (.head _) (Run.refl.play hflush).reachable ⟨rfl, rfl⟩
    hflushed (Run.refl.play hread).reachable

/-- A reader that does not ask for the point of the message matches nothing and comes to its end. -/
theorem missed_askedAt (h : asksFor { appName := "app", start, stop } (pointAt time) = false) :
    ∃ q, SeriesQuery.ofParams { appName := "app", start, stop } = .ok q ∧
      (askedAt time start stop).store.rows q = [] ∧
      ((askedAt time start stop).next .memory {} (.proceed 2)).reading? 2 = some .atEnd := by
  have happ : ({ appName := "app", start, stop } : QueryParams).appName ≠ "" :=
    (by decide : "app" ≠ "")
  obtain ⟨q, hquery, hname, hasks⟩ := exists_ofParams happ
  have hpoints : (askedAt time start stop).store.points q.measurement =
      [pointAt time].filter (·.measurement = q.measurement) := by
    rw [hname]
    rfl
  have hrows : (askedAt time start stop).store.rows q = [] := by
    simp [rows_eq hasks hpoints, asked, h]
  have hchunks : (askedAt time start stop).store.query q = [] := by
    rw [MemoryStore.query, hrows, chunksOf]
  have hreading := (State.next_of_querying (s := askedAt time start stop) (t := {}) (c := 2) rfl
    rfl hquery).1
  rw [hchunks] at hreading
  exact ⟨q, hquery, hrows, hreading⟩

end

/-- Half a second into the leap second at the end of 2016. -/
def lateInLeapSecond : Instant := ⟨1483228799, 1500000000⟩

/-- A fifth of a second into 2017. -/
def earlyInNextSecond : Instant := ⟨1483228800, 200000000⟩

/-- A message of a leap second is found by a range that ends in the next second, if it ends late
enough there. -/
theorem flushed_message_found_leap_second :
    let params : QueryParams := { appName := "app", stop := some ⟨1483228800, 700000000⟩ }
    ∃ s q, Syslog.parse "<14>1 2016-12-31T23:59:60.5Z h app - - - x".toUTF8.toList .automatic
        ⟨0, 0⟩ = .ok (messageAt lateInLeapSecond) ∧
      FlushedMessage {} 20000 (messageAt lateInLeapSecond) ⟨0, 0⟩ s ∧
      SeriesQuery.ofParams params = .ok q ∧ s.reader? 0 = some (.pending params) ∧
      (pointAt lateInLeapSecond).row ∈ s.store.rows q ∧ s.HandsOut {} 2 0 (s.store.rows q) := by
  intro params
  have hparse : Syslog.parse "<14>1 2016-12-31T23:59:60.5Z h app - - - x".toUTF8.toList .automatic
      ⟨0, 0⟩ = .ok (messageAt lateInLeapSecond) := by decide +kernel
  have hflushed := flushedMessage_askedAt lateInLeapSecond none params.stop
  have happ : params.appName = (messageAt lateInLeapSecond).appName := rfl
  obtain ⟨q, hquery, hrow, hreaders⟩ := flushed_message_found hparse (by decide) (by decide)
    (by decide) hflushed happ rfl (by decide) (by decide) (by decide)
  exact ⟨_, q, hparse, hflushed, hquery, rfl, hrow, (hreaders 0 rfl).1 2 rfl⟩

/-- Around a leap second a stored message may be missed by a time range that contains its time: by
one that ends in the next second, and, with the message in the next second, by one that starts in
the leap second. -/
theorem message_of_leap_second_missed :
    (∃ s q, Syslog.parse "<14>1 2016-12-31T23:59:60.5Z h app - - - x".toUTF8.toList .automatic
        ⟨0, 0⟩ = .ok (messageAt lateInLeapSecond) ∧
      FlushedMessage {} 20000 (messageAt lateInLeapSecond) ⟨0, 0⟩ s ∧
      s.reader? 0 = some (.pending { appName := "app", stop := some earlyInNextSecond }) ∧
      lateInLeapSecond.notAfter earlyInNextSecond = true ∧
      SeriesQuery.ofParams { appName := "app", stop := some earlyInNextSecond } = .ok q ∧
      s.store.rows q = [] ∧ (s.next .memory {} (.proceed 2)).reading? 2 = some .atEnd) ∧
    ∃ s q, Syslog.parse "<14>1 2017-01-01T00:00:00.2Z h app - - - x".toUTF8.toList .automatic
        ⟨0, 0⟩ = .ok (messageAt earlyInNextSecond) ∧
      FlushedMessage {} 20000 (messageAt earlyInNextSecond) ⟨0, 0⟩ s ∧
      s.reader? 0 = some (.pending { appName := "app", start := some lateInLeapSecond }) ∧
      lateInLeapSecond.notAfter earlyInNextSecond = true ∧
      SeriesQuery.ofParams { appName := "app", start := some lateInLeapSecond } = .ok q ∧
      s.store.rows q = [] ∧ (s.next .memory {} (.proceed 2)).reading? 2 = some .atEnd := by
  constructor
  · obtain ⟨q, hquery, hrows, hreading⟩ :=
      missed_askedAt lateInLeapSecond none (some earlyInNextSecond) (by decide)
    exact ⟨_, q, by decide +kernel, flushedMessage_askedAt _ _ _, rfl, by decide, hquery, hrows,
      hreading⟩
  · obtain ⟨q, hquery, hrows, hreading⟩ :=
      missed_askedAt earlyInNextSecond (some lateInLeapSecond) none (by decide)
    exact ⟨_, q, by decide +kernel, flushedMessage_askedAt _ _ _, rfl, by decide, hquery, hrows,
      hreading⟩

end Writer

end Store

end SyslogCollector
