import SyslogCollector.Collector.Running
import SyslogCollector.Proofs.Tail.Serving
import SyslogCollector.Settings.Check
/-!
# Checked settings can be run

The settings are checked in one place, and the parts that are set up from them need things in
others: the listener an address and room for a datagram, the writer an interval, InfluxDB somebody
who asks, the live tail queues for its clients and places for them in its hub. What the check says
is written down as one condition for each section, and `checked_settings_run` draws from these what
the parts need.

The check does not look at how many clients the live tail may have. For none at all the tail has one
permit and its hub has no place, so the first client is let in and then refused
(`unchecked_limit_refuses_first_client`).
-/

namespace SyslogCollector

namespace Settings

variable {s : Settings}

/-! ## What the check says -/

theorem require_eq_ok_iff {condition : Bool} {complaint : SettingsError} :
    require condition complaint = .ok () ↔ condition = true := by
  unfold require
  split <;> simp_all

/-- Two checks pass if both do. -/
theorem checks_eq_ok_iff {first next : Except SettingsError Unit} :
    (first >>= fun _ => next) = .ok () ↔ first = .ok () ∧ next = .ok () := by
  cases first with
  | error e => exact ⟨nofun, fun h => nomatch h.1⟩
  | ok u => exact (and_iff_right rfl).symm

theorem check_eq_ok_iff : s.check = .ok () ↔
    s.checkSyslog = .ok () ∧ s.checkDatastore = .ok () ∧ s.checkTail = .ok () ∧
      s.checkLog = .ok () := by
  unfold check
  rw [checks_eq_ok_iff, checks_eq_ok_iff, checks_eq_ok_iff]

theorem checkSyslog_eq_ok_iff : s.checkSyslog = .ok () ↔
    (s.syslog.tcp.enabled = true ∨ s.syslog.udp.enabled = true) ∧
      1 ≤ s.syslog.maxMessageSize ∧ s.syslog.maxMessageSize ≤ greatestMessageSize := by
  unfold checkSyslog
  rw [checks_eq_ok_iff, require_eq_ok_iff, require_eq_ok_iff, Bool.or_eq_true, Bool.and_eq_true,
    decide_eq_true_iff, decide_eq_true_iff]

theorem checkInfluxDb_eq_ok_iff {i : InfluxDbSettings} : checkInfluxDb i = .ok () ↔
    i.url.isEmpty = false ∧
      (i.url.startsWith "http://" = true ∨ i.url.startsWith "https://" = true) ∧
        i.database.isEmpty = false ∧ i.username.isEmpty = i.password.isEmpty := by
  unfold checkInfluxDb
  simp only [checks_eq_ok_iff, require_eq_ok_iff, Bool.not_eq_true', Bool.or_eq_true, beq_iff_eq]

theorem checkDatastore_eq_ok_iff : s.checkDatastore = .ok () ↔
    s.datastore.writeInterval.isZero = false ∧
      (s.datastore.backend = .influxDb → checkInfluxDb s.datastore.influxDb = .ok ()) := by
  unfold checkDatastore
  rw [checks_eq_ok_iff, require_eq_ok_iff, Bool.not_eq_true']
  refine and_congr_right fun _ => ?_
  split
  · rename_i hbackend
    exact ⟨fun h _ => h, fun h => h hbackend⟩
  · rename_i hbackend
    exact ⟨fun _ h => absurd h hbackend, fun _ => rfl⟩

theorem checkTail_eq_ok_iff : s.checkTail = .ok () ↔ (s.tail.enabled = true →
    s.tail.subscriberBuffer ≠ 0 ∧
      (s.syslog.tcp.enabled = true → s.syslog.tcp.bindAddress ≠ s.tail.address)) := by
  unfold checkTail
  split
  · rename_i henabled
    simp only [checks_eq_ok_iff, require_eq_ok_iff, bne_iff_ne, Bool.not_eq_true', henabled,
      forall_const]
    refine and_congr_right fun _ => ?_
    cases s.syslog.tcp.enabled <;> simp
  · rename_i henabled
    exact ⟨fun _ h => absurd h henabled, fun _ => rfl⟩

/-! ## The listener and the writer -/

/-- A listener with an address is not refused for want of one. -/
theorem start_ne_noEndpoints {σ : Type} {l : Listener.Session σ}
    (h : l.state.options.tcp.isSome = true ∨ l.state.options.udp.isSome = true) :
    l.start.1 ≠ .error .noEndpoints := by
  have hsome : (l.state.options.tcp.isNone && l.state.options.udp.isNone) = false := by
    rcases h with h | h
    · simp [Option.isNone_eq_false_iff.2 h]
    · simp [Option.isNone_eq_false_iff.2 h]
  unfold Listener.Session.start
  rw [hsome]
  simp only [Bool.false_eq_true, if_false]
  split <;> nofun

/-- Every endpoint that is enabled has an address. -/
theorem listenerOptions_isSome (h : s.syslog.tcp.enabled = true ∨ s.syslog.udp.enabled = true) :
    s.listenerOptions.tcp.isSome = true ∨ s.listenerOptions.udp.isSome = true := by
  refine h.imp (fun htcp => ?_) (fun hudp => ?_)
  · rw [listenerOptions, if_pos htcp]
    rfl
  · rw [listenerOptions, if_pos hudp]
    rfl

/-- An interval that is not empty is kept. -/
theorem writerTuning_writeInterval (h : s.datastore.writeInterval.isZero = false) :
    s.writerTuning.writeInterval = s.datastore.writeInterval := by
  simp only [writerTuning, Store.Writer.Tuning.withWriteInterval, h]
  exact if_neg Bool.false_ne_true

end Settings

/-! ## The requests of the store -/

namespace Store.Influx

variable {o : Options}

/-- The requests to an InfluxDB. -/
inductive Sent (o : Options) : Request → Prop
  /-- A batch is handed over. -/
  | batch (points : List Point) : Sent o (writeRequest o points)
  /-- Something is asked. -/
  | statement (text : String) : Sent o (queryRequest o text)

theorem Sent.credentials_eq {r : Request} (h : Sent o r) : r.credentials = o.credentials := by
  cases h <;> rfl

/-- The store sends no other requests: it does not tell transports apart that do the same with
these. -/
theorem backend_congr {σ : Type} {t t' : Transport σ}
    (h : ∀ outside r, Sent o r → t.send outside r = t'.send outside r) :
    backend o t = backend o t' := by
  have hsubmit : submit o t = submit o t' := by
    funext outside points
    rw [submit, submit, h _ _ (.batch points)]
  have hask : ask o t = ask o t' := by
    funext outside text
    rw [ask, ask, h _ _ (.statement text)]
  rw [backend, backend, hsubmit, hask]

/-- A header says who asks just where there is somebody. -/
theorem Request.isSome_authorization (r : Request) :
    r.authorization.isSome = r.credentials.isSome :=
  Option.isSome_map

end Store.Influx

namespace Settings

open Store.Influx (Credentials Sent Transport)

variable {s : Settings}

/-- Who asks InfluxDB: the user, if there is a password. -/
def asker (s : Settings) : Option Credentials :=
  if s.datastore.influxDb.password = "" then none
  else some ⟨s.datastore.influxDb.username, some s.datastore.influxDb.password⟩

theorem isSome_asker_iff : s.asker.isSome = true ↔ s.datastore.influxDb.password ≠ "" := by
  unfold asker
  split <;> simp_all

/-- With a user name goes a password, so InfluxDB is told who asks just where there is a
password. -/
theorem influxOptions_credentials
    (h : s.datastore.influxDb.username.isEmpty = s.datastore.influxDb.password.isEmpty) :
    s.influxOptions.credentials = s.asker := by
  simp only [influxOptions, asker, h, String.isEmpty_iff]

/-! ## The live tail -/

/-- Whether a live tail with these settings may come to a state. -/
def MayReach (s : Settings) (st : Tail.State) : Prop :=
  Tail.State.Reachable (.initial s.tailOptions s.hubLimits) st

/-- What the clients of a live tail can rely on. -/
structure ServesClients (s : Settings) : Prop where
  /-- The hub that they use is set up as the settings say. -/
  hub_eq : (Tail.State.initial s.tailOptions s.hubLimits).hub = { limits := s.hubLimits }
  /-- There is a permit. -/
  permits_pos : 1 ≤ s.tailOptions.permits
  /-- There are as many permits as places. -/
  permits_eq : s.tailOptions.permits = s.hubLimits.maxSubscribers
  /-- A client that connects while a permit is left gets it, so the first one does. -/
  admitted : ∀ {st n}, s.MayReach st → st.enabled (.connect n) = true →
    st.permitsHeld < s.tailOptions.permits → (st.next (.connect n)).phase? n = some .subscribing
  /-- As long as the hub has not left its loop it refuses no client with a permit. -/
  accepted : ∀ {st n outcome}, s.MayReach st → st.hub.isOpen = true →
    st.subscription? n = some outcome → outcome = .done
  /-- And as long, a client with a permit can come to be served. -/
  served : ∀ {st n}, s.MayReach st → st.hub.isOpen = true → st.phase? n = some .subscribing →
    ∃ st', Tail.State.Reachable st st' ∧ st'.phase? n = some .streaming

/-- Where somebody may connect at all, clients are served. -/
theorem servesClients (hmax : 1 ≤ s.tail.maxConnections) : s.ServesClients where
  hub_eq := rfl
  permits_pos := Nat.le_max_right _ _
  permits_eq := Nat.max_eq_left hmax
  admitted {st n} h henabled hroom := by
    have hsetup : st.options = s.tailOptions := (Tail.State.Reachable.service hmax h).setup
    rw [Tail.State.next, Tail.State.connect, hsetup, if_pos hroom]
    exact Numbered.lookup_assign_self n _ _
  accepted {st n outcome} h hopen houtcome :=
    ((Tail.State.Reachable.service hmax h).seated n).of_returned hopen
      (Tail.State.phase?_of_subscription? houtcome)
  served h hopen hphase := Tail.Service.exists_streaming hmax h hopen hphase

/-! ## All parts -/

/-- What the parts of a collector need of the settings that they are set up from. -/
structure Runnable (s : Settings) : Prop where
  /-- There is an address to listen on. -/
  endpoints : s.listenerOptions.tcp.isSome = true ∨ s.listenerOptions.udp.isSome = true
  /-- So a listener is never refused for want of one. -/
  starts : ∀ {σ : Type} (l : Listener.Session σ), l.state.options = s.listenerOptions →
    l.start.1 ≠ .error .noEndpoints
  /-- A datagram gets room for a message of one byte and for one of the greatest size, and for one
  byte more. -/
  room : 2 ≤ s.listenerOptions.datagramRoom ∧ s.listenerOptions.datagramRoom ≤ 65537
  /-- The writer flushes in the interval of the settings and does not fall back on its own. -/
  interval : s.datastore.writeInterval.isZero = false ∧
    s.writerTuning.writeInterval = s.datastore.writeInterval
  /-- Every request to InfluxDB says who asks, just if there is a password. -/
  credentials : s.datastore.backend = .influxDb → ∀ r, Sent s.influxOptions r →
    r.credentials = s.asker ∧
      (r.authorization.isSome = true ↔ s.datastore.influxDb.password ≠ "")
  /-- So a store over InfluxDB sends no request that says something else. -/
  requests : s.datastore.backend = .influxDb → ∀ {σ : Type} (t t' : Transport σ),
    (∀ outside r, r.credentials = s.asker → t.send outside r = t'.send outside r) →
      s.store t = s.store t'
  /-- The queue of a client of the live tail has the size of the settings. -/
  queues : s.tail.enabled = true → ∀ {st c q}, s.MayReach st → st.hub.subscriber? c = some q →
    q.capacity = s.tail.subscriberBuffer
  /-- The clients of the live tail are served if there may be any. -/
  clients : s.tail.enabled = true → 1 ≤ s.tail.maxConnections → s.ServesClients

/-- Settings that pass the check are such that every part can be run with what it gets out of
them. -/
theorem checked_settings_run (h : s.check = .ok ()) : s.Runnable := by
  obtain ⟨hsyslog, hdatastore, htail, -⟩ := check_eq_ok_iff.1 h
  obtain ⟨henabled, hleast, hgreatest⟩ := checkSyslog_eq_ok_iff.1 hsyslog
  obtain ⟨hinterval, hinflux⟩ := checkDatastore_eq_ok_iff.1 hdatastore
  have hendpoints := listenerOptions_isSome henabled
  have hcredentials (hbackend : s.datastore.backend = .influxDb) :
      s.influxOptions.credentials = s.asker := by
    obtain ⟨-, -, -, htogether⟩ := checkInfluxDb_eq_ok_iff.1 (hinflux hbackend)
    exact influxOptions_credentials htogether
  constructor
  case endpoints => exact hendpoints
  case starts => exact fun l hl => start_ne_noEndpoints (hl ▸ hendpoints)
  case room => exact ⟨Nat.succ_le_succ hleast, Nat.succ_le_succ hgreatest⟩
  case interval => exact ⟨hinterval, writerTuning_writeInterval hinterval⟩
  case credentials =>
    intro hbackend r hr
    have hsame : r.credentials = s.asker := hr.credentials_eq.trans (hcredentials hbackend)
    rw [r.isSome_authorization, hsame]
    exact ⟨rfl, isSome_asker_iff⟩
  case requests =>
    intro hbackend σ t t' hagree
    -- all that the store sends says who asks, and there the transports agree
    have hstore :
        Store.Influx.backend s.influxOptions t = Store.Influx.backend s.influxOptions t' :=
      Store.Influx.backend_congr fun outside r hr =>
        hagree outside r (hr.credentials_eq.trans (hcredentials hbackend))
    simp only [store, hbackend, hstore]
  case queues =>
    intro hon st c q hst hq
    obtain ⟨hbuffer, -⟩ := checkTail_eq_ok_iff.1 htail hon
    -- a size of at least one is kept where the hub and its queues are made
    have hcapacity : q.capacity = max (max s.tail.subscriberBuffer 1) 1 := hst.capacity_eq hq
    omega
  case clients => exact fun _ hmax => servesClients hmax

/-- The first client of a live tail with one permit comes to be served, and its queue has the size
of the settings. A batch for InfluxDB is handed over in the name of the user. -/
theorem checked_settings_run_one_client :
    let s : Settings :=
      { datastore := { influxDb := { username := "lumber", password := "secret" } }
        tail := { maxConnections := 1 } }
    s.check = .ok () ∧
      (∀ points, (Store.Influx.writeRequest s.influxOptions points).authorization.isSome = true) ∧
      ∃ st, s.MayReach st ∧ st.phase? 0 = some .streaming ∧
        ∀ q, st.hub.subscriber? (Tail.subscriberOf 0) = some q → q.capacity = 256 := by
  intro s
  have hurl : s.datastore.influxDb.url.startsWith "http://" = true :=
    String.startsWith_string_iff.2 (by decide)
  have hinflux : checkInfluxDb s.datastore.influxDb = .ok () :=
    checkInfluxDb_eq_ok_iff.2 ⟨by decide, .inl hurl, by decide, by decide⟩
  have htail : s.checkTail = .ok () :=
    checkTail_eq_ok_iff.2 fun _ => ⟨by decide, fun _ => by decide⟩
  have hcheck : s.check = .ok () := check_eq_ok_iff.2
    ⟨checkSyslog_eq_ok_iff.2 ⟨.inl rfl, by decide, by decide⟩,
      checkDatastore_eq_ok_iff.2 ⟨by decide, fun _ => hinflux⟩, htail, rfl⟩
  have hrunnable := checked_settings_run hcheck
  have hclients := hrunnable.clients rfl (by decide)
  -- the first client connects to a live tail that was just started
  have hsubscribing := hclients.admitted (n := 0) .refl rfl (by decide)
  have hconnected : s.MayReach ((Tail.State.initial s.tailOptions s.hubLimits).next (.connect 0)) :=
    .step .refl ⟨rfl, rfl⟩
  obtain ⟨st, hreach, hstreaming⟩ := hclients.served hconnected rfl hsubscribing
  have hst : s.MayReach st := hconnected.trans hreach
  refine ⟨hcheck, fun points => ?_, st, hst, hstreaming, fun q hq => hrunnable.queues rfl hst hq⟩
  exact (hrunnable.credentials rfl _ (.batch points)).2.2 (by decide)

/-- A limit of no clients passes the check. The tail has one permit for them and its hub no place,
so the first client gets the permit, is refused by a hub that runs, and comes to its end. -/
theorem unchecked_limit_refuses_first_client :
    let s : Settings := { datastore := { backend := .memory }, tail := { maxConnections := 0 } }
    s.check = .ok () ∧ s.tail.enabled = true ∧ s.tailOptions.permits = 1 ∧
      s.hubLimits.maxSubscribers = 0 ∧
      ∃ st, s.MayReach st ∧ st.phase? 0 = some .subscribing ∧ st.hub.task = .running ∧
        st.subscription? 0 = some (.failed (.maxSubscribers 0)) ∧
        (st.next (.subscribed 0)).phase? 0 = some .ended := by
  intro s
  obtain ⟨st, hplay, hphase, hrunning, hrefused, hended⟩ :
      ∃ st, Tail.State.play
          [.connect 0, .hub .start, .hub (.proceed (Tail.subscriberOf 0)),
            .hub (.proceed (Tail.subscriberOf 0)), .hub .handle]
          (.initial s.tailOptions s.hubLimits) = some st ∧
        st.phase? 0 = some .subscribing ∧ st.hub.task = .running ∧
        st.subscription? 0 = some (.failed (.maxSubscribers 0)) ∧
        (st.next (.subscribed 0)).phase? 0 = some .ended :=
    ⟨_, rfl, rfl, rfl, rfl, rfl⟩
  have hcheck : s.check = .ok () := by decide +kernel
  exact ⟨hcheck, rfl, rfl, rfl, st, Tail.State.reachable_of_play .refl hplay, hphase, hrunning,
    hrefused, hended⟩

end Settings

end SyslogCollector
