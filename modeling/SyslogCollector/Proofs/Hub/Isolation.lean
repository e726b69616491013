import SyslogCollector.Fanout.Ensemble
import SyslogCollector.Proofs.Hub.Story
/-!
# Subscribers do not affect each other

Two runs of a hub in which a subscriber has the same story come to the same for it, whatever other
subscribers there are, how fast they are, when they come and go, and in which order a broadcast goes
through them (`subscribers_isolated`). The end of the hub is no part of a story; all that it changes
for a subscriber is that a client with an empty queue sees the end.
-/

namespace SyslogCollector.Hub

section

variable {s s' : State} {a : Action} {c capacity : Nat} {q : Subscriber}

/-- Seats whose queues differ at most in whether the hub's end is there. -/
def Seat.Alike (k k' : Seat) : Prop :=
  k.queue.release = k'.queue.release

theorem Seat.Alike.of_eq {k k' : Seat} (h : k = k') : k.Alike k' := by
  rw [h]
  rfl

theorem Seat.Alike.queue_eq {k k' : Seat} (h : k.Alike k') : k.queue.queue = k'.queue.queue := by
  have hqueue : k.queue.release.queue = k'.queue.release.queue := by
    unfold Alike at h
    rw [h]
  exact hqueue

/-- What a client does comes to the same on both, but for the end of the stream. -/
theorem Seat.Alike.next {k k' : Seat} (h : k.Alike k') {o : Occurrence}
    (ho : o = .received ∨ ∃ client, o = .withdrew client) :
    (k.next o).Alike (k'.next o) ∧ (k.entry o).plain = (k'.entry o).plain := by
  -- all but whether the hub's end is there is the same
  obtain ⟨⟨capacity, queue, held, client⟩, registered⟩ := k
  obtain ⟨⟨capacity', queue', held', client'⟩, registered'⟩ := k'
  simp only [Alike, Subscriber.release, Subscriber.mk.injEq, true_and] at h
  obtain ⟨rfl, rfl, rfl⟩ := h
  rcases ho with rfl | ⟨client', rfl⟩
  · -- only at an empty queue does it matter whether the hub's end is there
    cases client <;> cases queue <;>
      cases registered <;> cases registered' <;> cases held <;> cases held' <;> exact ⟨rfl, rfl⟩
  · -- a client that goes away does not look at the hub's end
    cases client <;> cases client' <;>
      cases registered <;> cases registered' <;> exact ⟨rfl, rfl⟩

/-- What is shown of a subscriber is what its story comes to. -/
structure Followed (c capacity : Nat) (tr : Trace) (s : State) : Prop where
  /-- The story leads to its seat, but for the end of the hub, -/
  alike : ((Seat.new capacity).after (tr.story c)).Alike (s.seat c capacity)
  /-- and shows what the run shows, but for the end of the stream. -/
  plain : (tr.entries c).map Entry.plain =
    ((Seat.new capacity).entries (tr.story c)).map Entry.plain
  /-- Before the end of the hub both are exact. -/
  exact_of_isOpen : s.isOpen = true →
    (Seat.new capacity).after (tr.story c) = s.seat c capacity ∧
      tr.entries c = (Seat.new capacity).entries (tr.story c)
  /-- What was queued is told by the entries, -/
  queued : tr.queued c = (tr.entries c).flatMap Entry.queued
  /-- and so is what the client got. -/
  receipts : tr.receipts c = (tr.entries c).filterMap Entry.receipt

namespace Followed

variable {tr : Trace}

theorem initial (c capacity : Nat) (limits : Limits) : Followed c capacity [] { limits } where
  alike := rfl
  plain := rfl
  exact_of_isOpen _ := ⟨rfl, rfl⟩
  queued := rfl
  receipts := rfl

/-- A step that is nothing to the subscriber. -/
theorem rest (h : Followed c capacity tr s) (hnone : Transition.occurrence? ⟨s, a, s'⟩ c = none)
    (halike : (s.seat c capacity).Alike (s'.seat c capacity))
    (hexact : s'.isOpen = true → s.isOpen = true ∧ s'.seat c capacity = s.seat c capacity) :
    Followed c capacity (tr ++ [⟨s, a, s'⟩]) s' := by
  have hstory : Trace.story (tr ++ [⟨s, a, s'⟩]) c = tr.story c := by
    rw [Trace.story_concat, hnone, Option.toList_none, List.append_nil]
  have hentries : Trace.entries (tr ++ [⟨s, a, s'⟩]) c = tr.entries c := by
    rw [Trace.entries_concat, hnone, Option.map_none, Option.toList_none, List.append_nil]
  have hqueued : Transition.queued ⟨s, a, s'⟩ c = [] := by
    rw [Transition.queued, s.queueOf_eq c capacity, s'.queueOf_eq c capacity, halike.queue_eq,
      List.drop_length]
  constructor
  · rw [hstory]
    exact Eq.trans h.alike halike
  · rw [hstory, hentries, h.plain]
  · intro hopen
    obtain ⟨hbefore, hseat⟩ := hexact hopen
    rw [hstory, hentries, hseat]
    exact h.exact_of_isOpen hbefore
  · rw [Trace.queued_concat, hqueued, List.append_nil, hentries, h.queued]
  · rw [Trace.receipts_concat, Transition.receipts_of_none hnone, List.append_nil, hentries,
      h.receipts]

/-- A step that is an occurrence to the subscriber. -/
theorem occur (h : Followed c capacity tr s) {x : Transition} {o : Occurrence}
    (ho : x.occurrence? c = some o) (hseat : s'.seat c capacity = (s.seat c capacity).next o)
    (hentry : x.entry c o = (s.seat c capacity).entry o)
    (hopen : s'.isOpen = true → s.isOpen = true)
    (hclient : s.isOpen = false → o = .received ∨ ∃ client, o = .withdrew client) :
    Followed c capacity (tr ++ [x]) s' := by
  have hstory : Trace.story (tr ++ [x]) c = tr.story c ++ [o] := by
    rw [Trace.story_concat, ho, Option.toList_some]
  have hentries : Trace.entries (tr ++ [x]) c = tr.entries c ++ [(s.seat c capacity).entry o] := by
    rw [Trace.entries_concat, ho, Option.map_some, hentry, Option.toList_some]
  have hafter (k : Seat) (story : List Occurrence) :
      k.after (story ++ [o]) = (k.after story).next o := k.after_append story [o]
  have hlater (k : Seat) (story : List Occurrence) :
      k.entries (story ++ [o]) = k.entries story ++ [(k.after story).entry o] :=
    k.entries_append story [o]
  -- before the end of the hub the story leads to the seat itself
  have hboth : (((Seat.new capacity).after (tr.story c)).next o).Alike
        ((s.seat c capacity).next o) ∧
      (((Seat.new capacity).after (tr.story c)).entry o).plain =
        ((s.seat c capacity).entry o).plain := by
    cases hbefore : s.isOpen with
    | true =>
      rw [(h.exact_of_isOpen hbefore).1]
      exact ⟨rfl, rfl⟩
    | false => exact h.alike.next (hclient hbefore)
  constructor
  · rw [hstory, hafter, hseat]
    exact hboth.1
  · rw [hstory, hentries, hlater, List.map_append, List.map_append, h.plain, List.map_singleton,
      List.map_singleton, hboth.2]
  · intro hafterwards
    obtain ⟨hexact, hshown⟩ := h.exact_of_isOpen (hopen hafterwards)
    rw [hstory, hentries, hafter, hlater, hexact, hseat, hshown]
    exact ⟨rfl, rfl⟩
  · rw [Trace.queued_concat, hentries, ← hentry, List.flatMap_append, h.queued,
      List.flatMap_singleton]
    rfl
  · rw [Trace.receipts_concat, hentries, ← hentry, List.filterMap_append, h.receipts,
      x.receipts_eq c]
    show _ ++ (x.entry c o).receipt.toList = _
    cases hreceipt : (x.entry c o).receipt <;> simp [hreceipt]

end Followed

/-- Who asks for a place has a queue, and has no place yet. -/
theorem Registrations.asks {tr : Trace} {rest : List Command} (h : Registrations tr s)
    (hmail : Mail tr s) (hrunning : s.task = .running)
    (hmailbox : s.mailbox = .register c :: rest) :
    (s.subscriber? c).isSome = true ∧ c ∉ s.registered := by
  refine ⟨?_, fun hin => h.fresh hmail hrunning hmailbox (h.asked hin)⟩
  -- a subscriber that is not there has posted nothing
  by_contra hnone
  rw [Bool.not_eq_true, Option.isSome_eq_false_iff, Option.isNone_iff_eq_none] at hnone
  have hposted : .register c ∉ tr.posted := (h.known hnone).1
  rw [hmail.waiting (by simp [hrunning]), hmailbox] at hposted
  simp at hposted

/-- Whatever happens to a hub, what it shows of a subscriber is what the story of the subscriber
comes to. -/
theorem Run.followed {limits : Limits} {tr : Trace} (h : Run { limits } tr s) (c capacity : Nat)
    (hcapacity : ∀ q, s.subscriber? c = some q → q.capacity = capacity) :
    Followed c capacity tr s := by
  -- the induction is on the run; what else is needed of its states is known by `Run.keeps`
  induction h with
  | refl => exact .initial c capacity limits
  | @step tr s a order hrun horder henabled ih =>
    rw [State.nextIn_eq_next horder] at hcapacity ⊢
    obtain ⟨hmail, hregistrations, hsubscribers⟩ := hrun.keeps
    have hchange := State.change_next hregistrations.nodup henabled c
    have hfollowed : Followed c capacity tr s := by
      refine ih fun q hq => ?_
      obtain ⟨q', hq', hsame⟩ := hchange.capacity_eq hq
      rw [← hsame, hcapacity q' hq']
    have hopen (ho : (s.next a).isOpen = true) : s.isOpen = true :=
      (State.isOpen_of_next henabled ho).1
    by_cases hleave : a = .leave
    · subst hleave
      obtain ⟨hnone, halike⟩ := hchange.of_leave capacity
      refine hfollowed.rest hnone halike.symm fun ho => ?_
      exact absurd rfl (State.isOpen_of_next henabled ho).2
    · have hpresent : c ∈ s.registered → (s.subscriber? c).isSome = true :=
        hregistrations.present hmail
      have hempty (q : Subscriber) (hq : s.subscriber? c = some q) (hgone : q.client = .gone) :
          q.queue = [] :=
        ((hsubscribers c).1.carries hq).emptied hgone
      have hasks (rest : List Command) (ha : a = .handle)
          (hmailbox : s.mailbox = .register c :: rest) :
          (s.subscriber? c).isSome = true ∧ c ∉ s.registered := by
        subst ha
        exact hregistrations.asks hmail (State.task_of_handle henabled) hmailbox
      have hseat := hchange.seat_eq hleave hempty hpresent hasks hcapacity
      cases ho : Transition.occurrence? ⟨s, a, s.next a⟩ c with
      | none =>
        rw [ho] at hseat
        exact hfollowed.rest ho (.of_eq hseat.symm) fun h => ⟨hopen h, hseat⟩
      | some o =>
        rw [ho] at hseat
        have hreceives (ha : a = .receive c) : (s.subscriber? c).isSome = true := by
          subst ha
          exact henabled
        refine hfollowed.occur ho hseat (hchange.entry_eq hleave ho hseat hpresent hreceives) hopen
          fun hclosed => ?_
        -- a hub that has ended handles nothing
        have hhandle : a ≠ .handle := by
          rintro rfl
          cases hclosed.symm.trans (State.isOpen_of_handle henabled)
        exact Transition.client_of_occurrence? hhandle ho

end

/-! ## Two runs -/

section

variable {limits₁ limits₂ : Limits} {tr₁ tr₂ : Trace} {s₁ s₂ : State} {c₁ c₂ : Nat}
  {q₁ q₂ : Subscriber}

theorem Followed.taken_eq {c capacity : Nat} {tr : Trace} {s : State}
    (h : Followed c capacity tr s) : tr.taken c = (tr.entries c).filterMap Entry.read := by
  rw [Trace.taken, messagesOf, h.receipts, List.filterMap_filterMap]
  rfl

theorem Entry.read_plain (e : Entry) : e.plain.read = e.read := by
  show (e.read.map Receipt.message).bind Receipt.message? = e.read
  cases e.read <;> rfl

/-- Entries that are the same but for the end of the stream show the same messages. -/
theorem queued_and_read_of_plain {es es' : List Entry}
    (h : es.map Entry.plain = es'.map Entry.plain) :
    es.flatMap Entry.queued = es'.flatMap Entry.queued ∧
      es.filterMap Entry.read = es'.filterMap Entry.read := by
  have hread : Entry.read ∘ Entry.plain = Entry.read := funext Entry.read_plain
  constructor
  · have hqueued := congrArg (List.flatMap Entry.queued) h
    rwa [List.flatMap_map, List.flatMap_map] at hqueued
  · have htaken := congrArg (List.filterMap Entry.read) h
    rwa [List.filterMap_map, List.filterMap_map, hread] at htaken

/-- A hub takes a message at once: it can be written at any time, nobody waits for it, and the write
of the sink succeeds. -/
structure State.TakesAtOnce (s : State) (m : Message) : Prop where
  enabled : s.enabled (.write m) = true
  callers : (s.next (.write m)).callers = s.callers
  succeeds : ∀ (τ : Type) (e : Fanout.Ensemble τ) (i : Nat) (received : Instant) (h : Session),
    h.state = s → e.members[i]? = some (.hub h) → (e.write i received m).1 = some (.ok ())

theorem State.takesAtOnce (s : State) (m : Message) : s.TakesAtOnce m where
  enabled := rfl
  callers := by
    simp only [next, write]
    split <;> rfl
  succeeds τ e i received h _ hi := by
    simp only [Fanout.Ensemble.write, hi]

/-- Subscribers do not affect each other. In any two runs of hubs of any sizes, with any other
subscribers and callers, in which a subscriber has the same capacity and the same story, that is:
the same messages for everybody, its own registration and removal and what its client does stand in
the same order:

* the same messages are offered to it, with the same result, and are queued; it is removed with the
  same command, which is a command to remove it, a message for which its queue has no room, or one
  that its client does not take; and its client reads the same;
* all this is what its story comes to for one seat with that capacity and no others around;
* so the same messages are queued for it and taken by its client, in the same order;
* as long as neither hub has stopped, its client also sees the end of its stream at the same time,
  and both hubs have the same queue for it and have it registered or not;
* at every point of both runs a message can be written, nobody waits for it, and the write
  succeeds. -/
theorem subscribers_isolated (h₁ : Run { limits := limits₁ } tr₁ s₁)
    (h₂ : Run { limits := limits₂ } tr₂ s₂) (hq₁ : s₁.subscriber? c₁ = some q₁)
    (hq₂ : s₂.subscriber? c₂ = some q₂) (hcapacity : q₁.capacity = q₂.capacity)
    (hstory : tr₁.story c₁ = tr₂.story c₂) :
    (tr₁.entries c₁).map Entry.plain = (tr₂.entries c₂).map Entry.plain ∧
      (tr₁.entries c₁).map Entry.plain =
        ((Seat.new q₁.capacity).entries (tr₁.story c₁)).map Entry.plain ∧
      tr₁.queued c₁ = tr₂.queued c₂ ∧ tr₁.taken c₁ = tr₂.taken c₂ ∧
      (s₁.isOpen = true → s₂.isOpen = true →
        tr₁.entries c₁ = tr₂.entries c₂ ∧ tr₁.receipts c₁ = tr₂.receipts c₂ ∧ q₁ = q₂ ∧
          (c₁ ∈ s₁.registered ↔ c₂ ∈ s₂.registered)) ∧
      ∀ x ∈ tr₁ ++ tr₂, ∀ m, x.before.TakesAtOnce m ∧ x.after.TakesAtOnce m := by
  have hfollowed₁ : Followed c₁ q₁.capacity tr₁ s₁ := by
    refine h₁.followed c₁ q₁.capacity fun q hq => ?_
    rw [Option.some.inj (hq.symm.trans hq₁)]
  have hfollowed₂ : Followed c₂ q₁.capacity tr₂ s₂ := by
    refine h₂.followed c₂ q₁.capacity fun q hq => ?_
    rw [Option.some.inj (hq.symm.trans hq₂), hcapacity]
  have hplain : (tr₁.entries c₁).map Entry.plain = (tr₂.entries c₂).map Entry.plain := by
    rw [hfollowed₁.plain, hfollowed₂.plain, hstory]
  obtain ⟨hqueued, hread⟩ := queued_and_read_of_plain hplain
  refine ⟨hplain, hfollowed₁.plain, ?_, ?_, fun hopen₁ hopen₂ => ?_, ?_⟩
  · rw [hfollowed₁.queued, hfollowed₂.queued, hqueued]
  · rw [hfollowed₁.taken_eq, hfollowed₂.taken_eq, hread]
  · obtain ⟨hseat₁, hentries₁⟩ := hfollowed₁.exact_of_isOpen hopen₁
    obtain ⟨hseat₂, hentries₂⟩ := hfollowed₂.exact_of_isOpen hopen₂
    have hentries : tr₁.entries c₁ = tr₂.entries c₂ := by rw [hentries₁, hentries₂, hstory]
    have hseat : (⟨q₁, c₁ ∈ s₁.registered⟩ : Seat) = ⟨q₂, c₂ ∈ s₂.registered⟩ := by
      rw [← State.seat_of_some hq₁ q₁.capacity, ← State.seat_of_some hq₂ q₁.capacity, ← hseat₁,
        ← hseat₂, hstory]
    rw [Seat.mk.injEq, decide_eq_decide] at hseat
    refine ⟨hentries, ?_, hseat⟩
    rw [hfollowed₁.receipts, hfollowed₂.receipts, hentries]
  · exact fun x _ m => ⟨x.before.takesAtOnce m, x.after.takesAtOnce m⟩

/-- A client with room for two messages is alone at one hub. At the other one it came after a client
with room for one message, which is given up, and while somebody counts the subscribers. Its own
queue gets full with the same message at both. -/
theorem subscribers_isolated_slow_peer :
    ∃ tr₁ s₁ tr₂ s₂, Run {} tr₁ s₁ ∧ Run { limits := { mailboxSize := 3 } } tr₂ s₂ ∧
      tr₁.story 0 = tr₂.story 1 ∧
      tr₂.queued 0 = [noticeOf "first"] ∧ s₂.metrics.subscribersDropped = 2 ∧
      tr₁.queued 0 = ["first", "second", "third"].map noticeOf ∧
      tr₂.queued 1 = tr₁.queued 0 ∧ tr₂.entries 1 = tr₁.entries 0 ∧
      tr₁.receipts 0 = ["first", "second", "third"].map (.message ∘ noticeOf) ++ [.closed] ∧
      tr₂.receipts 1 = tr₁.receipts 0 := by
  obtain ⟨tr₁, s₁, hplay₁, hqueued, hreceipts, ⟨q₁, hq₁, hroom₁⟩, hopen₁, hstory₁⟩ :
      ∃ tr s, Run.play
          [.start, .call 0 (.subscribe 2), .proceed 0, .proceed 0, .handle,
            .write (noticeOf "first"), .handle, .write (noticeOf "second"), .handle, .receive 0,
            .write (noticeOf "third"), .handle, .write (noticeOf "fourth"), .handle, .receive 0,
            .receive 0, .receive 0] [] {} = some (tr, s) ∧
        tr.queued 0 = ["first", "second", "third"].map noticeOf ∧
        tr.receipts 0 = ["first", "second", "third"].map (.message ∘ noticeOf) ++ [.closed] ∧
        (∃ q, s.subscriber? 0 = some q ∧ q.capacity = 2) ∧ s.isOpen = true ∧
        tr.story 0 = [.registered true, .broadcast (noticeOf "first"),
          .broadcast (noticeOf "second"), .received, .broadcast (noticeOf "third"),
          .broadcast (noticeOf "fourth"), .received, .received, .received] :=
    ⟨_, _, rfl, rfl, rfl, ⟨_, rfl, rfl⟩, rfl, rfl⟩
  obtain ⟨tr₂, s₂, hplay₂, hpeer, hdropped, ⟨q₂, hq₂, hroom₂⟩, hopen₂, hstory₂⟩ :
      ∃ tr s, Run.play
          [.start, .call 0 (.subscribe 1), .proceed 0, .call 1 (.subscribe 2), .proceed 1,
            .proceed 0, .proceed 1, .handle, .handle, .write (noticeOf "first"),
            .write (noticeOf "second"), .handle, .handle, .receive 1, .call 2 .count, .proceed 2,
            .write (noticeOf "third"), .drop 0, .proceed 2, .handle, .write (noticeOf "fourth"),
            .handle, .handle, .receive 1, .receive 1, .receive 1] []
            { limits := { mailboxSize := 3 } } = some (tr, s) ∧
        tr.queued 0 = [noticeOf "first"] ∧ s.metrics.subscribersDropped = 2 ∧
        (∃ q, s.subscriber? 1 = some q ∧ q.capacity = 2) ∧ s.isOpen = true ∧
        tr.story 1 = [.registered true, .broadcast (noticeOf "first"),
          .broadcast (noticeOf "second"), .received, .broadcast (noticeOf "third"),
          .broadcast (noticeOf "fourth"), .received, .received, .received] :=
    ⟨_, _, rfl, rfl, rfl, ⟨_, rfl, rfl⟩, rfl, rfl⟩
  have hrun₁ := Run.refl.of_play hplay₁
  have hrun₂ := Run.refl.of_play hplay₂
  have hstory : tr₁.story 0 = tr₂.story 1 := by rw [hstory₁, hstory₂]
  obtain ⟨-, -, hsame, -, hexact, -⟩ :=
    subscribers_isolated hrun₁ hrun₂ hq₁ hq₂ (by rw [hroom₁, hroom₂]) hstory
  obtain ⟨hentries, hread, -⟩ := hexact hopen₁ hopen₂
  exact ⟨tr₁, s₁, tr₂, s₂, hrun₁, hrun₂, hstory, hpeer, hdropped, hqueued, hsame.symm,
    hentries.symm, hreceipts, hread.symm⟩

end

end SyslogCollector.Hub
