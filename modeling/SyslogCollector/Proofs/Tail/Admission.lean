import SyslogCollector.Proofs.Hub.Census
import SyslogCollector.Proofs.Hub.Stopping
import SyslogCollector.Proofs.Tail.Clientele
/-!
# Who gets a permit gets a place

The hub of a live tail has as many places as the tail has permits. They are given out and given back
by different tasks, but a connection gives its permit back only after the command to remove its
subscriber was posted. So when a registration is posted, all that have a place in prospect belong to
other connections with a permit, and there is one left for it when its turn comes
(`admitted_client_finds_place`).
-/

namespace SyslogCollector.Tail

open Hub (Run Command)

/-- What holds at every point of a run of a live tail whose hub has a place for every permit. -/
structure Service (options : Options) (limits : Hub.Limits) (s : State) : Prop where
  /-- The tail is set up as it was. -/
  setup : s.options = options
  /-- The hub is run, with as many places as there are to be connections. -/
  run : ∃ tr, Run { limits := limits.withMaxSubscribers options.maxConnections } tr s.hub
  /-- No number is that of two connections. -/
  keys : (s.connections.map Prod.fst).Nodup
  /-- No more permits are held than there are. -/
  permits : s.permitsHeld ≤ options.permits
  /-- Every connection stands where its calls of the hub allow. -/
  seated : ∀ n, Seating n s.hub.isOpen (s.phase? n) (s.hub.phase? (subscriberOf n))
    (s.hub.phase? (leaverOf n))
  /-- The hub is used by connections alone. -/
  clientele : Clientele s.hub

namespace Service

variable {options : Options} {limits : Hub.Limits} {s : State}

theorem initial (options : Options) (limits : Hub.Limits) :
    Service options limits (.initial options limits) where
  setup := rfl
  run := ⟨[], .refl⟩
  keys := .nil
  permits := Nat.zero_le _
  seated _ := .unknown
  clientele :=
    { queues := fun _ => ⟨nofun, nofun⟩
      asked := fun _ _ h => nomatch h
      prospects := fun _ _ h => nomatch h
      roomy := fun _ before id after h => by simp [State.initial] at h }

theorem maxSubscribers_eq (h : Service options limits s) :
    s.hub.limits.maxSubscribers = options.maxConnections := by
  obtain ⟨tr, hrun⟩ := h.run
  rw [hrun.census.limits]
  rfl

/-- Who has a place in prospect, and who asks for one, holds a permit; so there is a place left. -/
theorem prospects_length_lt (h : Service options limits s) (hmax : 1 ≤ options.maxConnections)
    {n : Nat} (hopen : s.hub.isOpen = true)
    (hpost : s.hub.unposted? (subscriberOf n) = some (.register (subscriberOf n))) :
    s.hub.prospects.length < s.hub.limits.maxSubscribers := by
  obtain ⟨tr, hrun⟩ := h.run
  obtain ⟨hmail, hregistrations, -⟩ := hrun.keeps
  -- the numbers with which the holders of permits subscribe
  have hholds {m : Nat} (hm : (s.phase? m).any Phase.holdsPermit = true) :
      subscriberOf m ∈ (s.connections.filter (·.2.holdsPermit)).map fun e => subscriberOf e.1 := by
    obtain ⟨p, hp, hpermit⟩ := (Option.any_eq_true _ _).1 hm
    exact List.mem_map.2
      ⟨(m, p), List.mem_filter.2 ⟨Numbered.mem_of_lookup_eq_some hp, hpermit⟩, rfl⟩
  -- who has a place in prospect has posted its registration, and this one has not
  have hfresh : subscriberOf n ∉ s.hub.prospects := by
    intro hmem
    obtain ⟨m, hm, -, hpast, -⟩ := h.clientele.prospects hopen _ hmem
    cases hpast.symm.trans hpost
  have hnodup : (subscriberOf n :: s.hub.prospects).Nodup :=
    List.nodup_cons.2 ⟨hfresh, Hub.State.nodup_prospects hregistrations hmail hopen⟩
  have hsub : subscriberOf n :: s.hub.prospects ⊆
      (s.connections.filter (·.2.holdsPermit)).map fun e => subscriberOf e.1 := by
    intro c hc
    rcases List.mem_cons.1 hc with rfl | hc
    · obtain ⟨-, hsubscribing, -⟩ := (h.seated n).of_unposted_register hpost
      exact hholds (by rw [hsubscribing]; rfl)
    · obtain ⟨m, rfl, hasked, -, hthere⟩ := h.clientele.prospects hopen c hc
      exact hholds ((h.seated m).holdsPermit hopen hasked hthere)
  -- so there are no more of them than permits that are held
  have hlength := (hnodup.subperm hsub).length_le
  have hpermits := h.permits
  rw [List.length_cons, List.length_map, ← List.countP_eq_length_filter] at hlength
  unfold State.permitsHeld Options.permits at hpermits
  rw [h.maxSubscribers_eq]
  omega

/-! ### Steps -/

section

variable {n : Nat}

/-- There is a queue for a connection just if it called. -/
theorem queue_iff (h : Service options limits s) (n : Nat) :
    (s.hub.subscriber? (subscriberOf n)).isSome = true ↔
      (s.hub.phase? (subscriberOf n)).isSome = true :=
  (h.clientele.queues _).trans (and_iff_right ⟨n, rfl⟩)

/-- A new connection can subscribe. -/
theorem enabled_subscribe (h : Service options limits s) (hphase : s.phase? n = none) (k : Nat) :
    s.hub.enabled (.call (subscriberOf n) (.subscribe k)) = true := by
  have hseat := h.seated n
  rw [hphase] at hseat
  have hnone := hseat.of_none.1
  have hqueue : s.hub.subscriber? (subscriberOf n) = none := by
    simpa [hnone] using h.queue_iff n
  simp [Hub.State.enabled, hnone, hqueue]

/-- A connection that is served can take leave. -/
theorem enabled_unsubscribe (h : Service options limits s)
    (hphase : s.phase? n = some .streaming ∨ ∃ m, s.phase? n = some (.sending m)) :
    s.hub.enabled (.call (leaverOf n) (.unsubscribe (subscriberOf n))) = true := by
  have hnone := ((h.seated n).of_served hphase).2
  have hqueue : s.hub.subscriber? (leaverOf n) = none := by
    by_contra hsome
    obtain ⟨⟨m, hm⟩, -⟩ := (h.clientele.queues _).1 (Option.isSome_iff_ne_none.2 hsome)
    exact subscriberOf_ne_leaverOf m n hm.symm
  simp [Hub.State.enabled, hnone, hqueue]

/-- A connection that takes leave has a queue to give up. -/
theorem enabled_drop (h : Service options limits s) (hphase : s.phase? n = some .leaving) :
    s.hub.enabled (.drop (subscriberOf n)) = true := by
  have hseat := h.seated n
  rw [hphase] at hseat
  exact (h.queue_iff n).2 (by rw [hseat.of_leaving]; rfl)

end

section

variable {hub' : Hub.State} {connections' : List (Nat × Phase)}

/-- The hub stays as it is, or goes on with what it or a connection does. -/
theorem hub_of_stride (h : Service options limits s) (hstride : State.Stride s hub' connections') :
    hub' = s.hub ∨ ∃ b, IsTails b ∧ s.hub.enabled b = true ∧ hub' = s.hub.next b := by
  cases hstride with
  | hub hown henabled => exact .inr ⟨_, .of_isHubsOwn hown, henabled, rfl⟩
  | rest | turnedAway | subscribed | refused | wrote => exact .inl rfl
  | admitted hphase => exact .inr ⟨_, .subscribe _ _, h.enabled_subscribe hphase _, rfl⟩
  | took _ hpresent => exact .inr ⟨_, .receive _, hpresent, rfl⟩
  | left hphase => exact .inr ⟨_, .unsubscribe _, h.enabled_unsubscribe hphase, rfl⟩
  | concluded hphase => exact .inr ⟨_, .drop _, h.enabled_drop hphase, rfl⟩

theorem keys_of_stride (h : Service options limits s)
    (hstride : State.Stride s hub' connections') : (connections'.map Prod.fst).Nodup := by
  cases hstride with
  | hub | rest => exact h.keys
  | _ => exact Numbered.nodup_keys_assign h.keys _

/-- A permit is taken only where there is one. -/
theorem permits_of_stride (h : Service options limits s)
    (hstride : State.Stride s hub' connections') :
    connections'.countP (·.2.holdsPermit) ≤ options.permits := by
  have hpermits : s.connections.countP (·.2.holdsPermit) ≤ options.permits := h.permits
  have hassign (n : Nat) (p : Phase) :=
    Numbered.countP_assign_le Phase.holdsPermit n p s.connections
  have hmove {n : Nat} {old : Phase} (hold : s.phase? n = some old)
      (hholds : old.holdsPermit = true) (p : Phase) :
      (Numbered.assign n p s.connections).countP (·.2.holdsPermit) ≤ options.permits :=
    Nat.le_trans (Numbered.countP_assign_le_of_lookup hold hholds p) hpermits
  cases hstride with
  | hub | rest => exact hpermits
  | @admitted n _ hroom =>
    rw [State.permitsHeld, h.setup] at hroom
    exact Nat.le_trans (hassign n .subscribing) hroom
  | @turnedAway n => exact Nat.le_trans (hassign n .turnedAway) hpermits
  | subscribed hphase | refused hphase => exact hmove hphase rfl _
  | took hphase | wrote hphase | concluded hphase => exact hmove hphase rfl _
  | left hphase =>
    rcases hphase with hphase | ⟨m, hphase⟩
    · exact hmove hphase rfl _
    · exact hmove hphase rfl _

/-- A connection that does not move keeps its seat. -/
theorem seated_next (h : Service options limits s) {b : Hub.Action} (hb : IsTails b)
    (henabled : s.hub.enabled b = true) {n : Nat}
    (hsubscribe : ∀ call, b ≠ .call (subscriberOf n) call)
    (hleave : ∀ call, b ≠ .call (leaverOf n) call) :
    Seating n (s.hub.next b).isOpen (s.phase? n) ((s.hub.next b).phase? (subscriberOf n))
      ((s.hub.next b).phase? (leaverOf n)) := by
  obtain ⟨tr, hrun⟩ := h.run
  refine (h.seated n).hubNext henabled (hrun.turn henabled) hb.abandon hsubscribe hleave ?_
  rintro command rest rfl hmailbox hasker
  exact (h.clientele.answer_eq_done henabled hmailbox hasker).2

/-- The seat of a connection whose phase is known. -/
theorem seated_of_phase? (h : Service options limits s) {n : Nat} {phase : Option Phase}
    (hphase : s.phase? n = phase) :
    Seating n s.hub.isOpen phase (s.hub.phase? (subscriberOf n)) (s.hub.phase? (leaverOf n)) :=
  hphase ▸ h.seated n

theorem seated_of_stride (h : Service options limits s)
    (hstride : State.Stride s hub' connections') (n : Nat) :
    Seating n hub'.isOpen (connections'.lookup n) (hub'.phase? (subscriberOf n))
      (hub'.phase? (leaverOf n)) := by
  obtain ⟨tr, hrun⟩ := h.run
  cases hstride with
  | hub hown henabled =>
    have hb := IsTails.of_isHubsOwn hown
    refine h.seated_next hb henabled ?_ ?_
    · rintro call rfl
      cases hown
    · rintro call rfl
      cases hown
  | rest => exact h.seated n
  | turnedAway hphase =>
    refine .assign ?_ fun _ => h.seated n
    obtain ⟨hp, hq⟩ := (h.seated_of_phase? hphase).of_none
    rw [hp, hq]
    exact .turnedAway
  | subscribed hphase hreturned =>
    refine .assign ?_ fun _ => h.seated n
    obtain ⟨hq, -⟩ := (h.seated_of_phase? hphase).of_subscribing hreturned
    rw [hreturned, hq]
    exact .streaming
  | refused hphase hreturned hfailed =>
    refine .assign ?_ fun _ => h.seated n
    obtain ⟨hq, houtcome⟩ := (h.seated_of_phase? hphase).of_subscribing hreturned
    rw [hreturned, hq]
    exact .refused (houtcome.resolve_left hfailed)
  | wrote hphase =>
    refine .assign ?_ fun _ => h.seated n
    obtain ⟨hp, hq⟩ := (h.seated _).of_served (.inr ⟨_, hphase⟩)
    rw [hp, hq]
    exact .streaming
  | @admitted m hphase hroom =>
    have henabled := h.enabled_subscribe hphase s.hub.limits.subscriberBuffer
    refine .assign ?_ fun hn => h.seated_next (.subscribe _ _) henabled ?_ ?_
    · have hcalls : (s.hub.next (.call (subscriberOf m)
          (.subscribe s.hub.limits.subscriberBuffer))).phase? (subscriberOf m) =
            some (.posting (.register (subscriberOf m))) :=
        s.hub.phase?_begin_self _ _
      rw [hcalls, eq_of_turn_of_none (hrun.turn henabled (leaverOf m))
        (h.seated_of_phase? hphase).of_none.2 (by simp [subscriberOf_ne_leaverOf])]
      exact .subscribing (.inl rfl)
    · simp [subscriberOf_inj, Ne.symm hn]
    · simp [subscriberOf_ne_leaverOf]
  | @took m message hphase hpresent =>
    have hseat (n : Nat) := h.seated_next (n := n) (.receive (subscriberOf m)) hpresent (by simp)
      (by simp)
    refine .assign ?_ fun _ => hseat n
    obtain ⟨hp, hq⟩ := (hseat m).of_served (.inl hphase)
    rw [hp, hq]
    exact .sending
  | @left m hphase =>
    have henabled := h.enabled_unsubscribe hphase
    refine .assign ?_ fun hn => h.seated_next (.unsubscribe _) henabled ?_ ?_
    · have hcalls : (s.hub.next (.call (leaverOf m) (.unsubscribe (subscriberOf m)))).phase?
          (leaverOf m) = some (.posting (.unregister (subscriberOf m))) :=
        s.hub.phase?_begin_self _ _
      rw [hcalls, eq_of_turn_of_returned (hrun.turn henabled (subscriberOf m))
        ((h.seated m).of_served hphase).1 (IsTails.unsubscribe m).abandon]
      exact .leaving (.inl rfl)
    · simp [(subscriberOf_ne_leaverOf _ _).symm]
    · simp [leaverOf_inj, Ne.symm hn]
  | @concluded m outcome hphase hreturned =>
    have henabled := h.enabled_drop hphase
    refine .assign ?_ fun _ => h.seated_next (.drop _) henabled (by simp) (by simp)
    rw [eq_of_turn_of_returned (hrun.turn henabled (subscriberOf m))
        (h.seated_of_phase? hphase).of_leaving (IsTails.drop _).abandon,
      eq_of_turn_of_returned (hrun.turn henabled (leaverOf m)) hreturned (IsTails.drop _).abandon]
    exact .ended

end

theorem next (h : Service options limits s) (hmax : 1 ≤ options.maxConnections) {a : Action}
    (henabled : s.enabled a = true) : Service options limits (s.next a) := by
  have hstride := State.stride_next henabled
  have hhub := h.hub_of_stride hstride
  obtain ⟨tr, hrun⟩ := h.run
  constructor
  case setup => rw [s.options_next a, h.setup]
  case keys => exact h.keys_of_stride hstride
  case permits => exact h.permits_of_stride hstride
  case seated => exact h.seated_of_stride hstride
  case run =>
    rcases hhub with hsame | ⟨b, -, hb, hnext⟩
    · exact ⟨tr, hsame ▸ hrun⟩
    · exact ⟨_, hnext ▸ hrun.step_next hb⟩
  case clientele =>
    rcases hhub with hsame | ⟨b, htails, hb, hnext⟩
    · exact hsame ▸ h.clientele
    · rw [hnext]
      exact h.clientele.next hrun htails hb (fun n => ⟨_, h.seated n⟩) fun n hopen hpost =>
        h.prospects_length_lt hmax hopen hpost

end Service

section

variable {options : Options} {limits : Hub.Limits} {s : State}

theorem State.Reachable.service (hmax : 1 ≤ options.maxConnections)
    (h : State.Reachable (.initial options limits) s) : Service options limits s := by
  induction h with
  | refl => exact .initial options limits
  | step _ hstep ih => exact hstep.2 ▸ ih.next hmax hstep.1

/-- Carries out a list of actions, if all of them are possible in their turn. -/
def State.play : List Action → State → Option State
  | [], s => some s
  | a :: rest, s => if s.enabled a then play rest (s.next a) else none

/-- What is carried out leads to a state of a run. -/
theorem State.reachable_of_play {start s' : State} {actions : List Action}
    (h : State.Reachable start s) (hplay : play actions s = some s') :
    State.Reachable start s' := by
  induction actions generalizing s with
  | nil =>
    cases hplay
    exact h
  | cons a rest ih =>
    unfold play at hplay
    split at hplay
    · rename_i henabled
      exact ih (h.step ⟨henabled, rfl⟩) hplay
    · cases hplay

/-- Who gets a permit gets a place, and nobody keeps one who has come to its end. In every run of a
new live tail whose hub has as many places as there are to be connections, at least one, whether or
not the tail or the hub is asked to stop:

* when the hub comes to a registration, it is that of a connection with a permit that subscribes,
  fewer places are taken than there are, and the connection gets one;
* so as long as the hub has not left its loop, it answers no connection that it has no place;
* a connection that has come to its end has no place any more once the command to remove its
  subscriber is handled;
* every connection counts once, no more permits are held than there are places, and those that are
  held belong to connections that have neither come to their end nor were turned away. -/
theorem admitted_client_finds_place (hmax : 1 ≤ options.maxConnections)
    (h : State.Reachable (.initial options limits) s) :
    s.hub.limits.maxSubscribers = options.maxConnections ∧
      (∀ c rest, s.hub.enabled .handle = true → s.hub.mailbox = .register c :: rest →
        ∃ n, c = subscriberOf n ∧ s.phase? n = some .subscribing ∧
          s.hub.registered.length < s.hub.limits.maxSubscribers ∧
          (s.next (.hub .handle)).hub.registered = s.hub.registered ++ [c] ∧
          (s.next (.hub .handle)).subscription? n = some .done) ∧
      (∀ n outcome, s.hub.isOpen = true → s.subscription? n = some outcome → outcome = .done) ∧
      (∀ n, s.phase? n = some .ended → .unregister (subscriberOf n) ∉ s.hub.mailbox →
        subscriberOf n ∉ s.hub.registered) ∧
      (s.connections.map Prod.fst).Nodup ∧ s.permitsHeld ≤ s.hub.limits.maxSubscribers ∧
      s.permitsHeld =
        (s.connections.map Prod.fst).countP fun n => (s.phase? n).any Phase.holdsPermit := by
  have hservice := h.service hmax
  obtain ⟨tr, hrun⟩ := hservice.run
  refine ⟨hservice.maxSubscribers_eq, ?_, ?_, ?_, hservice.keys, ?_, ?_⟩
  · intro c rest henabled hmailbox
    have hopen := Hub.State.isOpen_of_handle henabled
    obtain ⟨⟨n, rfl⟩, -, hawaits⟩ :=
      hservice.clientele.asked hopen (.register c) (hmailbox ▸ .head _) c rfl
    have hroom := (hservice.clientele.answer_eq_done henabled hmailbox rfl).1
    obtain ⟨hregistered, hreturned⟩ := hservice.clientele.accepts henabled hmailbox
    refine ⟨n, rfl, (hservice.seated n).of_awaiting hawaits, hroom, hregistered, ?_⟩
    simp only [State.subscription?, State.next, State.onHub, hreturned]
  · intro n outcome hopen houtcome
    exact (hservice.seated n).of_returned hopen (State.phase?_of_subscription? houtcome)
  · intro n hphase hhandled hmem
    cases hopen : s.hub.isOpen with
    | false => simp [hrun.registered_eq_nil hopen] at hmem
    | true =>
      have hseat := hservice.seated n
      rw [hphase] at hseat
      obtain ⟨outcome, hreturned⟩ := hseat.of_ended hopen
      -- its removal was posted and does not wait any more, so it would have a place for ever
      obtain ⟨m, hm, -, -, hthere⟩ :=
        hservice.clientele.prospects hopen _ (Hub.mem_outlook hmem hhandled)
      cases subscriberOf_inj.1 hm
      exact hthere outcome hreturned
  · have hpermits := hservice.permits
    rwa [Options.permits, Nat.max_eq_left hmax, ← hservice.maxSubscribers_eq] at hpermits
  · rw [State.permitsHeld, List.countP_map]
    refine List.countP_congr fun e he => ?_
    rw [Function.comp_apply, State.phase?, Numbered.lookup_eq_some_of_mem hservice.keys he]
    rfl

/-- There is one permit. The second client finds none. The first one leaves and its connection comes
to its end while the hub still has a place for it, so the third one gets a permit; and a place, when
its registration comes after the removal of the first. -/
theorem admitted_client_finds_place_one_permit :
    ∃ s, State.Reachable (.initial { maxConnections := 1 } {}) s ∧
      (s.phase? 0 = some .ended ∧ s.phase? 1 = some .turnedAway) ∧
      s.hub.registered = [subscriberOf 0] ∧
      s.hub.mailbox = [.unregister (subscriberOf 0), .register (subscriberOf 2)] ∧
      s.permitsHeld = 1 ∧
      (s.next (.hub .handle)).hub.registered = [] ∧
      ((s.next (.hub .handle)).next (.hub .handle)).subscription? 2 = some .done := by
  obtain ⟨s, hplay, hphases, hregistered, hmailbox, hheld, henabled, hremoved, hnext, hwaits⟩ :
      ∃ s, State.play
          [.connect 0, .hub .start, .hub (.proceed (subscriberOf 0)),
            .hub (.proceed (subscriberOf 0)), .hub .handle, .subscribed 0, .connect 1,
            .clientLeft 0, .hub (.proceed (leaverOf 0)), .hub (.proceed (leaverOf 0)), .conclude 0,
            .connect 2, .hub (.proceed (subscriberOf 2)), .hub (.proceed (subscriberOf 2))]
            (.initial { maxConnections := 1 } {}) = some s ∧
        (s.phase? 0 = some .ended ∧ s.phase? 1 = some .turnedAway) ∧
        s.hub.registered = [subscriberOf 0] ∧
        s.hub.mailbox = [.unregister (subscriberOf 0), .register (subscriberOf 2)] ∧
        s.permitsHeld = 1 ∧ s.enabled (.hub .handle) = true ∧
        (s.next (.hub .handle)).hub.registered = [] ∧
        (s.next (.hub .handle)).hub.enabled .handle = true ∧
        (s.next (.hub .handle)).hub.mailbox = [.register (subscriberOf 2)] :=
    ⟨_, rfl, ⟨rfl, rfl⟩, rfl, rfl, rfl, rfl, rfl, rfl, rfl⟩
  have hreachable : State.Reachable (.initial { maxConnections := 1 } {}) s :=
    State.reachable_of_play .refl hplay
  obtain ⟨-, hfinds, -⟩ :=
    admitted_client_finds_place (Nat.le_refl 1) (hreachable.step ⟨henabled, rfl⟩)
  obtain ⟨n, hn, -, -, -, hdone⟩ := hfinds _ _ hnext hwaits
  cases subscriberOf_inj.1 hn
  exact ⟨s, hreachable, hphases, hregistered, hmailbox, hheld, hremoved, hdone⟩

end

end SyslogCollector.Tail
