import SyslogCollector.Proofs.Hub.Stream
/-!
# The story of one subscriber

Of all that happens to a hub, little concerns one subscriber: its own commands, the messages for
everybody, and what its client does. These occurrences, in their order, are its story. A `Seat` is
what a hub knows of a subscriber, and the story decides what becomes of it (`Run.followed`); the
other subscribers have no part in that, and neither has the order in which a broadcast goes through
them.
-/

namespace SyslogCollector.Hub

/-! ## What concerns a subscriber -/

/-- Something that concerns one subscriber. -/
inductive Occurrence where
  /-- Its registration is handled: there is a place for it, or there is none. -/
  | registered (accepted : Bool)
  /-- A command to remove it is handled. -/
  | unregistered
  /-- A message for everybody is handled. -/
  | broadcast (m : Message)
  /-- Its client asks for a message. -/
  | received
  /-- Its client takes no more, or gives up its end. -/
  | withdrew (client : ClientEnd)
  deriving DecidableEq, Repr

/-- What a handled command is to a subscriber. The commands of others are nothing to it. -/
def Handling.occurrence? (c : Nat) (h : Handling) : Option Occurrence :=
  match h.command with
  | .register id =>
    if id = c then some (.registered (h.hub.registered.length < h.hub.limits.maxSubscribers))
    else none
  | .unregister id => if id = c then some .unregistered else none
  | .broadcast m => some (.broadcast m)
  | .count _ => none

/-- What comes of an occurrence. -/
structure Entry where
  /-- What it was. -/
  occurrence : Occurrence
  /-- What became of the message, if it was offered to the subscriber. -/
  offered : Option Delivery
  /-- What its queue gained. -/
  queued : List Message
  /-- Whether it was removed. -/
  removed : Bool
  /-- What its client got, if it asked. -/
  receipt : Option Receipt
  deriving DecidableEq, Repr

/-- The message that the client got. -/
def Entry.read (e : Entry) : Option Message :=
  e.receipt.bind Receipt.message?

/-- An entry that does not tell an empty queue from the end of the stream. -/
def Entry.plain (e : Entry) : Entry :=
  { e with receipt := e.read.map .message }

namespace Transition

variable (x : Transition) (c : Nat)

/-- How far the client of a subscriber went away, if it did. -/
def withdrawal? : Option Occurrence :=
  match x.before.subscriber? c, x.after.subscriber? c with
  | some q, some q' => if q'.client = q.client then none else some (.withdrew q'.client)
  | _, _ => none

/-- What a step is to a subscriber. -/
def occurrence? : Option Occurrence :=
  match x.handled with
  | h :: _ => h.occurrence? c
  | [] => if x.action = .receive c then some .received else x.withdrawal? c

/-- What becomes of a message that is offered to a subscriber. -/
def offered? : Option Delivery :=
  match x.handled with
  | ⟨hub, .broadcast m⟩ :: _ =>
    if c ∈ hub.registered then (hub.subscriber? c).map fun q => (q.offer m).1 else none
  | _ => none

/-- What comes of a step that is an occurrence to a subscriber. -/
def entry (o : Occurrence) : Entry where
  occurrence := o
  offered := x.offered? c
  queued := x.queued c
  removed := c ∈ x.before.registered && c ∉ x.after.registered
  receipt := (x.receipts c).head?

end Transition

namespace Trace

variable (tr : Trace) (c : Nat) (x : Transition)

/-- All that happened to a subscriber, in its order. -/
def story : List Occurrence := tr.filterMap (·.occurrence? c)

/-- What came of it. -/
def entries : List Entry := tr.filterMap fun x => (x.occurrence? c).map (x.entry c)

theorem story_concat : story (tr ++ [x]) c = tr.story c ++ (x.occurrence? c).toList := by
  cases hx : x.occurrence? c <;> simp [story, hx]

theorem entries_concat :
    entries (tr ++ [x]) c = tr.entries c ++ ((x.occurrence? c).map (x.entry c)).toList := by
  cases hx : x.occurrence? c <;> simp [entries, hx]

end Trace

/-! ## What a hub knows of a subscriber -/

/-- The queue of a subscriber after its client's end has become this. -/
def Subscriber.withdrawn (q : Subscriber) : ClientEnd → Subscriber
  | .open => q
  | .closed => q.close
  | .gone => q.leave

/-- What a hub knows of a subscriber. -/
structure Seat where
  /-- Its queue. -/
  queue : Subscriber
  /-- Whether messages are handed to it. -/
  registered : Bool
  deriving DecidableEq, Repr

namespace Seat

/-- A seat of a subscriber that is not registered yet. -/
def new (capacity : Nat) : Seat :=
  ⟨{ capacity }, false⟩

/-- What an occurrence changes. -/
def next (k : Seat) : Occurrence → Seat
  | .registered accepted =>
    if accepted then { k with registered := true }
    else { k with queue := k.queue.release.leave }
  | .unregistered => if k.registered then ⟨k.queue.release, false⟩ else k
  | .broadcast m => if k.registered then ⟨k.queue.handed m, k.queue.takes⟩ else k
  | .received => { k with queue := k.queue.receive.2 }
  | .withdrew client => { k with queue := k.queue.withdrawn client }

/-- What becomes of a message, if one is offered. -/
def offered? (k : Seat) : Occurrence → Option Delivery
  | .broadcast m => if k.registered then some (k.queue.offer m).1 else none
  | _ => none

/-- What the client gets, if it asks. -/
def receipt? (k : Seat) : Occurrence → Option Receipt
  | .received => some k.queue.receive.1
  | _ => none

/-- What comes of an occurrence. -/
def entry (k : Seat) (o : Occurrence) : Entry where
  occurrence := o
  offered := k.offered? o
  queued := (k.next o).queue.queue.drop k.queue.queue.length
  removed := k.registered && !(k.next o).registered
  receipt := k.receipt? o

/-- What becomes of a seat in a story. -/
def after (k : Seat) (story : List Occurrence) : Seat :=
  story.foldl next k

/-- What comes of a story. -/
def entries (k : Seat) : List Occurrence → List Entry
  | [] => []
  | o :: story => k.entry o :: (k.next o).entries story

theorem after_append (k : Seat) (story more : List Occurrence) :
    k.after (story ++ more) = (k.after story).after more :=
  List.foldl_append

theorem entries_append (k : Seat) (story more : List Occurrence) :
    k.entries (story ++ more) = k.entries story ++ (k.after story).entries more := by
  induction story generalizing k with
  | nil => rfl
  | cons o story ih =>
    have hrest := ih (k.next o)
    simp only [List.cons_append, entries, after, List.foldl_cons] at hrest ⊢
    rw [hrest]

end Seat

/-- The seat of a subscriber. Before the subscriber comes into being its queue has the capacity that
it will get. -/
def State.seat (s : State) (c capacity : Nat) : Seat :=
  ⟨(s.subscriber? c).getD { capacity }, c ∈ s.registered⟩

section

variable {s s' : State} {a : Action} {c capacity : Nat} {q : Subscriber}

theorem State.seat_of_none (h : s.subscriber? c = none) (capacity : Nat) :
    s.seat c capacity = ⟨{ capacity }, c ∈ s.registered⟩ := by
  rw [seat, h, Option.getD_none]

theorem State.seat_of_some (h : s.subscriber? c = some q) (capacity : Nat) :
    s.seat c capacity = ⟨q, c ∈ s.registered⟩ := by
  rw [seat, h, Option.getD_some]

theorem State.queueOf_eq (s : State) (c capacity : Nat) :
    s.queueOf c = (s.seat c capacity).queue.queue := by
  unfold queueOf seat
  cases s.subscriber? c <;> rfl

/-! ## Steps -/

/-- A client that went away as far as it did is where it was, or has withdrawn. -/
theorem Subscriber.withdraws_eq {f : Subscriber → Subscriber} (hf : State.Withdraws f)
    (hempty : q.client = .gone → q.queue = []) :
    f q = if (f q).client = q.client then q else q.withdrawn (f q).client := by
  obtain ⟨capacity, queue, held, client⟩ := q
  rcases hf with rfl | rfl | rfl
  · exact (if_pos rfl).symm
  · cases client <;> rfl
  · cases client
    · rfl
    · rfl
    · have hqueue : queue = [] := hempty rfl
      subst hqueue
      rfl

/-- A client's own move changes the seat by what the move is to the subscriber. -/
theorem State.seat_of_spared (hspared : s.Spared c s') (hregistered : s'.registered = s.registered)
    (hempty : ∀ q, s.subscriber? c = some q → q.client = .gone → q.queue = []) :
    s'.seat c capacity =
      match Transition.withdrawal? ⟨s, a, s'⟩ c with
      | none => s.seat c capacity
      | some o => (s.seat c capacity).next o := by
  obtain ⟨f, hf, heq⟩ := hspared
  cases hq : s.subscriber? c with
  | none =>
    rw [hq, Option.map_none] at heq
    simp [Transition.withdrawal?, hq, seat_of_none hq, seat_of_none heq, hregistered]
  | some q =>
    rw [hq, Option.map_some] at heq
    have hf' := Subscriber.withdraws_eq hf (hempty q hq)
    rw [seat_of_some hq, seat_of_some heq, hregistered]
    by_cases hsame : (f q).client = q.client
    · rw [if_pos hsame] at hf'
      simp [Transition.withdrawal?, hq, heq, hf']
    · rw [if_neg hsame] at hf'
      simp only [Transition.withdrawal?, hq, heq, if_neg hsame, Seat.next]
      rw [← hf']

/-- A handled command changes the seat of a subscriber by what it is to the subscriber. -/
theorem State.seat_of_handled {command : Command} {rest : List Command}
    (hmailbox : s.mailbox = command :: rest)
    (heq : s'.subscriber? c = (s.subscriber? c).map (s.treat c command))
    (hkeeps : c ∈ s'.registered ↔ s.Keeps c command)
    (hpresent : c ∈ s.registered → (s.subscriber? c).isSome = true)
    (hasks : command = .register c → (s.subscriber? c).isSome = true ∧ c ∉ s.registered) :
    s'.seat c capacity =
      match Handling.occurrence? c ⟨s, command⟩ with
      | none => s.seat c capacity
      | some o => (s.seat c capacity).next o := by
  cases hq : s.subscriber? c with
  | none =>
    -- nothing happens to a subscriber that is not there yet
    have hin : c ∉ s.registered := fun hmem => by simpa [hq] using hpresent hmem
    have hcommand : command ≠ .register c := fun h => by simpa [hq] using (hasks h).1
    have hstays : c ∉ s'.registered := by
      rw [hkeeps]
      exact not_keeps_of_not_mem hin hcommand
    rw [hq, Option.map_none] at heq
    rw [seat_of_none hq, seat_of_none heq]
    cases command with
    | register id =>
      have hother : id ≠ c := fun h => hcommand (by rw [h])
      simp [Handling.occurrence?, hother, hin, hstays]
    | unregister id =>
      by_cases hown : id = c <;> simp [Handling.occurrence?, Seat.next, hown, hin, hstays]
    | broadcast m => simp [Handling.occurrence?, Seat.next, hin, hstays]
    | count id => simp [Handling.occurrence?, hin, hstays]
  | some q =>
    -- of all commands its own ones and the messages for everybody do something to it
    rw [hq, Option.map_some] at heq
    rw [seat_of_some hq, seat_of_some heq]
    cases command with
    | register id =>
      by_cases hown : id = c
      · subst hown
        have hin := (hasks rfl).2
        by_cases hroom : s.registered.length < s.limits.maxSubscribers
        · simp [Handling.occurrence?, Seat.next, treat, Keeps, hkeeps, hroom, Nat.not_le.2 hroom]
        · simp [Handling.occurrence?, Seat.next, treat, Keeps, hkeeps, hroom, hin]
      · simp [Handling.occurrence?, treat, Keeps, hkeeps, hown, Ne.symm hown]
    | unregister id =>
      by_cases hown : id = c
      · subst hown
        by_cases hin : id ∈ s.registered <;>
          simp [Handling.occurrence?, Seat.next, treat, Keeps, hkeeps, hin]
      · simp [Handling.occurrence?, treat, Keeps, hkeeps, hown, Ne.symm hown]
    | broadcast m =>
      by_cases hin : c ∈ s.registered <;>
        simp [Handling.occurrence?, Seat.next, treat, Keeps, hkeeps, hin, hq]
    | count id => simp [Handling.occurrence?, treat, Keeps, hkeeps]

/-- A step changes the seat of a subscriber by what the step is to it, unless it is the end of the
dispatch task. -/
theorem State.Change.seat_eq (h : Change c s a s') (hleave : a ≠ .leave)
    (hempty : ∀ q, s.subscriber? c = some q → q.client = .gone → q.queue = [])
    (hpresent : c ∈ s.registered → (s.subscriber? c).isSome = true)
    (hasks : ∀ rest, a = .handle → s.mailbox = .register c :: rest →
      (s.subscriber? c).isSome = true ∧ c ∉ s.registered)
    (hcapacity : ∀ q, s'.subscriber? c = some q → q.capacity = capacity) :
    s'.seat c capacity =
      match Transition.occurrence? ⟨s, a, s'⟩ c with
      | none => s.seat c capacity
      | some o => (s.seat c capacity).next o := by
  cases h with
  | spared hquiet hspared hregistered =>
    simp only [Transition.occurrence?, Transition.handled_of_ne (x := ⟨s, a, s'⟩) hquiet.1,
      if_neg hquiet.2.1]
    exact seat_of_spared hspared hregistered hempty
  | @opened k _ hnone hsome hregistered =>
    -- it comes into being with the capacity that its seat has had from the beginning
    have hmax : max k 1 = capacity := hcapacity _ hsome
    simp only [Transition.occurrence?,
      Transition.handled_of_ne (x := ⟨s, .call c (.subscribe k), s'⟩) (by simp)]
    rw [if_neg (by simp), Transition.withdrawal?]
    simp only [hnone]
    rw [seat_of_none hnone, seat_of_some hsome, hregistered, Subscriber.withCapacity, hmax]
  | received heq hregistered =>
    simp only [Transition.occurrence?,
      Transition.handled_of_ne (x := ⟨s, .receive c, s'⟩) (by simp), if_pos, Seat.next]
    rw [seat, seat, heq, hregistered]
    cases s.subscriber? c <;> rfl
  | handled hmailbox heq hkeeps =>
    simp only [Transition.occurrence?, Transition.handled_of_mailbox hmailbox]
    exact seat_of_handled hmailbox heq hkeeps hpresent fun h => hasks _ rfl (h ▸ hmailbox)
  | left => exact absurd rfl hleave

/-- A client that went away has withdrawn. -/
theorem Transition.exists_withdrew {x : Transition} {o : Occurrence}
    (h : x.withdrawal? c = some o) : ∃ client, o = .withdrew client := by
  unfold withdrawal? at h
  split at h
  · split at h
    · cases h
    · exact ⟨_, (Option.some.inj h).symm⟩
  · cases h

/-- What becomes of an offer, and what the client gets, can be read off the seat. -/
theorem State.Change.offered_eq (h : Change c s a s') (hleave : a ≠ .leave) {o : Occurrence}
    (ho : Transition.occurrence? ⟨s, a, s'⟩ c = some o)
    (hpresent : c ∈ s.registered → (s.subscriber? c).isSome = true)
    (hreceives : a = .receive c → (s.subscriber? c).isSome = true) (capacity : Nat) :
    Transition.offered? ⟨s, a, s'⟩ c = (s.seat c capacity).offered? o ∧
      (Transition.receipts ⟨s, a, s'⟩ c).head? = (s.seat c capacity).receipt? o := by
  cases h with
  | spared hquiet =>
    have hhandled := Transition.handled_of_ne (x := ⟨s, a, s'⟩) hquiet.1
    simp only [Transition.occurrence?, hhandled, if_neg hquiet.2.1] at ho
    obtain ⟨client, rfl⟩ := Transition.exists_withdrew ho
    simp only [Transition.offered?, hhandled, Transition.receipts_of_ne hquiet.2.1]
    exact ⟨rfl, rfl⟩
  | @opened k _ hnone =>
    have hhandled := Transition.handled_of_ne (x := ⟨s, .call c (.subscribe k), s'⟩) (by simp)
    simp [Transition.occurrence?, hhandled, Transition.withdrawal?, hnone] at ho
  | received =>
    have hhandled := Transition.handled_of_ne (x := ⟨s, .receive c, s'⟩) (by simp)
    simp only [Transition.occurrence?, hhandled, if_pos, Option.some.injEq] at ho
    subst ho
    obtain ⟨q, hq⟩ := Option.isSome_iff_exists.1 (hreceives rfl)
    simp [Transition.offered?, hhandled, Transition.receipts, State.seat, hq, Seat.offered?,
      Seat.receipt?]
  | @handled command _ _ hmailbox =>
    have hhandled : Transition.handled ⟨s, .handle, s'⟩ = [⟨s, command⟩] :=
      Transition.handled_of_mailbox hmailbox
    rw [Transition.receipts_of_ne (by simp)]
    simp only [Transition.occurrence?, hhandled, Handling.occurrence?] at ho
    simp only [Transition.offered?, hhandled]
    cases command with
    | register id | unregister id =>
      dsimp only at ho
      split at ho <;> cases ho
      exact ⟨rfl, rfl⟩
    | broadcast m =>
      cases ho
      by_cases hin : c ∈ s.registered
      · obtain ⟨q, hq⟩ := Option.isSome_iff_exists.1 (hpresent hin)
        simp [Seat.offered?, Seat.receipt?, State.seat, hin, hq]
      · simp [Seat.offered?, Seat.receipt?, State.seat, hin]
    | count id => cases ho
  | left => exact absurd rfl hleave

/-- What comes of a step is what comes of it for the seat. -/
theorem State.Change.entry_eq (h : Change c s a s') (hleave : a ≠ .leave) {o : Occurrence}
    (ho : Transition.occurrence? ⟨s, a, s'⟩ c = some o)
    (hseat : s'.seat c capacity = (s.seat c capacity).next o)
    (hpresent : c ∈ s.registered → (s.subscriber? c).isSome = true)
    (hreceives : a = .receive c → (s.subscriber? c).isSome = true) :
    Transition.entry ⟨s, a, s'⟩ c o = (s.seat c capacity).entry o := by
  have hqueued : Transition.queued ⟨s, a, s'⟩ c =
      ((s.seat c capacity).next o).queue.queue.drop (s.seat c capacity).queue.queue.length := by
    rw [Transition.queued, queueOf_eq s c capacity, queueOf_eq s' c capacity, hseat]
  have hremoved : (decide (c ∈ s.registered) && decide (c ∉ s'.registered)) =
      ((s.seat c capacity).registered && !((s.seat c capacity).next o).registered) := by
    rw [← hseat]
    simp [seat]
  obtain ⟨hoffered, hreceipt⟩ := h.offered_eq hleave ho hpresent hreceives capacity
  rw [Transition.entry, Seat.entry, hqueued, hremoved, hoffered, hreceipt]

/-- A step does not change the capacity of a queue. -/
theorem State.Change.capacity_eq (h : Change c s a s') (hq : s.subscriber? c = some q) :
    ∃ q', s'.subscriber? c = some q' ∧ q'.capacity = q.capacity := by
  cases h with
  | spared _ hspared =>
    obtain ⟨f, hf, heq⟩ := hspared
    refine ⟨f q, by rw [heq, hq, Option.map_some], ?_⟩
    rcases hf with rfl | rfl | rfl
    · rfl
    · unfold Subscriber.close
      split <;> rfl
    · rfl
  | opened hnone => cases hnone.symm.trans hq
  | received heq =>
    refine ⟨q.receive.2, by rw [heq, hq, Option.map_some], ?_⟩
    unfold Subscriber.receive
    split
    · rfl
    · split <;> rfl
  | @handled command _ _ _ heq =>
    refine ⟨s.treat c command q, by rw [heq, hq, Option.map_some], ?_⟩
    cases command with
    | register id | unregister id =>
      simp only [treat]
      split <;> rfl
    | broadcast m =>
      simp only [treat, Subscriber.handed]
      split
      · split <;> rfl
      · rfl
    | count id => rfl
  | left heq =>
    refine ⟨_, by rw [heq, hq, Option.map_some], ?_⟩
    split <;> rfl

/-- The end of the dispatch task is nothing to a subscriber but that it is released. -/
theorem State.Change.of_leave (h : Change c s .leave s') (capacity : Nat) :
    Transition.occurrence? ⟨s, .leave, s'⟩ c = none ∧
      (s'.seat c capacity).queue.release = (s.seat c capacity).queue.release := by
  have hhandled := Transition.handled_of_ne (x := ⟨s, .leave, s'⟩) (by simp)
  cases h with
  | spared hquiet => exact absurd rfl hquiet.2.2.1
  | left heq =>
    simp only [Transition.occurrence?, hhandled, Transition.withdrawal?]
    rw [if_neg (by simp)]
    cases hq : s.subscriber? c with
    | none =>
      rw [hq, Option.map_none] at heq
      rw [seat_of_none hq, seat_of_none heq]
      exact ⟨rfl, rfl⟩
    | some q =>
      rw [hq, Option.map_some] at heq
      rw [seat_of_some hq, seat_of_some heq, heq]
      by_cases hin : c ∈ s.registered
      · rw [if_pos hin]
        exact ⟨if_pos rfl, rfl⟩
      · rw [if_neg hin]
        exact ⟨if_pos rfl, rfl⟩

/-- Without a command it is the client that does something. -/
theorem Transition.client_of_occurrence? {o : Occurrence} (ha : a ≠ .handle)
    (h : Transition.occurrence? ⟨s, a, s'⟩ c = some o) :
    o = .received ∨ ∃ client, o = .withdrew client := by
  simp only [occurrence?, handled_of_ne (x := ⟨s, a, s'⟩) ha] at h
  split at h
  · exact .inl (Option.some.inj h).symm
  · exact .inr (exists_withdrew h)

/-- A step that is nothing to a subscriber asks for nothing. -/
theorem Transition.receipts_of_none {x : Transition} (h : x.occurrence? c = none) :
    x.receipts c = [] := by
  refine if_neg fun ha => ?_
  have hhandled : x.handled = [] := handled_of_ne (by simp [ha])
  simp [occurrence?, hhandled, ha] at h

/-- A client gets at most one receipt at a time. -/
theorem Transition.receipts_eq (x : Transition) (c : Nat) :
    x.receipts c = (x.receipts c).head?.toList := by
  unfold receipts
  split
  · cases x.before.subscriber? c <;> rfl
  · rfl

end

end SyslogCollector.Hub
