import SyslogCollector.Proofs.Hub.Calls
import SyslogCollector.Proofs.Hub.Isolation
/-!
# Stopping a hub strands nobody

However far calls and clients are when the dispatch task leaves its loop, everybody comes to an end:
callers are answered or told that the hub was stopped, and clients read what was queued for them
and then see the end (`stop_strands_nobody`).

For the clients it takes that every subscriber that had a place is released when it loses it
(`Run.held_eq_false`), and that nothing is queued once the task has left its loop
(`Run.drains`).

The callers need one thing of the mailbox: that what is queued there is dropped when its reader is
gone. The task drops what it leaves (`State.conclude`). But a caller that has got room by then, and
has not posted its command, posts it after that (`Run.caughtPosting`), and waits for the answer
until what is queued is dropped once more (`AwaitsDrop`); nothing else ends its wait
(`Run.awaiting_of_ended`).
-/

namespace SyslogCollector.Hub

/-! ### Clients at the end -/

namespace Subscriber

/-- What the client of a queue gets in so many takes if nothing more is queued and the hub's end is
gone: what waits, in order, and after that the end. -/
def drained (q : Subscriber) (takes : Nat) : List Receipt :=
  (List.range takes).map fun i => (q.queue[i]?.map Receipt.message).getD .closed

theorem drained_succ (q : Subscriber) (takes : Nat) :
    q.drained (takes + 1) =
      q.drained takes ++ [(q.queue[takes]?.map Receipt.message).getD .closed] := by
  unfold drained
  rw [List.range_succ, List.map_append, List.map_singleton]

/-- The client of a released queue takes the oldest message, or sees the end. -/
theorem receive_of_released {q : Subscriber} (hgone : q.client ≠ .gone) (hheld : q.held = false) :
    q.receive =
      ((q.queue[0]?.map Receipt.message).getD .closed, { q with queue := q.queue.drop 1 }) := by
  unfold receive
  rw [if_neg hgone]
  obtain ⟨capacity, queue, held, client⟩ := q
  cases hheld
  cases queue <;> rfl

end Subscriber

namespace State

variable {s s' : State} {a : Action} {c : Nat} {q : Subscriber}

/-- A client that is there after it withdrew was there before, and its queue is the same. -/
theorem Withdraws.of_client_ne {f : Subscriber → Subscriber} (h : Withdraws f)
    (hgone : (f q).client ≠ .gone) : q.client ≠ .gone ∧ (f q).queue = q.queue := by
  rcases h with rfl | rfl | rfl
  · exact ⟨hgone, rfl⟩
  · unfold Subscriber.close at hgone ⊢
    split at hgone
    · rename_i h
      exact absurd h hgone
    · rename_i h
      exact ⟨h, by rw [if_neg h]⟩
  · exact absurd rfl hgone

/-- A hub that has left its loop does not go back, and does nothing but end. -/
theorem isOpen_next_of_left (henabled : s.enabled a = true) (hopen : s.isOpen = false) :
    (s.next a).isOpen = false ∧ a ≠ .handle ∧ a ≠ .leave := by
  have htask := s.task_next a
  unfold isOpen at *
  cases a <;> simp_all [enabled]

end State

/-- What a client can have read since the dispatch task left its loop, when its queue was `q`. -/
structure Draining (c : Nat) (q : Subscriber) (tr : Trace) (s : State) : Prop where
  /-- The task does not go back to its loop, -/
  left : s.isOpen = false
  /-- there are no subscribers any more, -/
  empty : s.registered = []
  /-- and nothing is queued. -/
  quiet : tr.queued c = []
  /-- The subscriber does not vanish. -/
  present : (s.subscriber? c).isSome = true
  /-- As long as its client is there, it reads what waited and then sees the end. -/
  read : ∀ {q'}, s.subscriber? c = some q' → q'.client ≠ .gone →
    q'.held = false ∧ q'.queue = q.queue.drop (tr.receipts c).length ∧
      tr.receipts c = q.drained (tr.receipts c).length

theorem Draining.next {c : Nat} {q : Subscriber} {tr : Trace} {s : State} {a : Action}
    (h : Draining c q tr s) (henabled : s.enabled a = true) :
    Draining c q (tr ++ [⟨s, a, s.next a⟩]) (s.next a) := by
  obtain ⟨hleft, hhandle, hleave⟩ := State.isOpen_next_of_left henabled h.left
  have hchange : State.Change c s a (s.next a) :=
    State.change_next (h.empty ▸ .nil) henabled c
  constructor
  case left => exact hleft
  case empty =>
    rw [hchange.registered_eq hhandle, if_neg hleave]
    exact h.empty
  case quiet =>
    rw [Trace.queued_concat, h.quiet, Transition.queued_of_ne hchange hhandle]
    rfl
  case present =>
    by_contra hnone
    rw [Bool.not_eq_true, Option.isSome_eq_false_iff, Option.isNone_iff_eq_none] at hnone
    have hpresent := h.present
    rw [(hchange.eq_none hnone).1] at hpresent
    cases hpresent
  case read =>
    intro q' hq' hgone
    rw [Trace.receipts_concat]
    cases hchange with
    | spared hquiet hspared =>
      obtain ⟨f, hf, heq⟩ := hspared
      obtain ⟨p, hp, rfl⟩ := Option.map_eq_some_iff.1 (heq.symm.trans hq')
      obtain ⟨hthere, hsame⟩ := hf.of_client_ne hgone
      rw [Transition.receipts_of_ne hquiet.2.1, List.append_nil, hf.held_eq, hsame]
      exact h.read hp hthere
    | opened hnone =>
      -- nobody subscribes under the number of a subscriber that is there
      have hpresent := h.present
      rw [hnone] at hpresent
      cases hpresent
    | received heq =>
      obtain ⟨p, hp, rfl⟩ := Option.map_eq_some_iff.1 (heq.symm.trans hq')
      have hthere : p.client ≠ .gone := by
        intro hp
        simp [Subscriber.receive, hp] at hgone
      obtain ⟨hheld, hqueue, hreceipts⟩ := h.read hp hthere
      have hreceive := Subscriber.receive_of_released hthere hheld
      have hreceipt : Transition.receipts ⟨s, .receive c, s.next (.receive c)⟩ c =
          [p.receive.1] := by
        simp [Transition.receipts, hp]
      rw [hreceipt, List.length_append, List.length_singleton, q.drained_succ, ← hreceipts,
        hreceive]
      refine ⟨hheld, ?_, ?_⟩
      · dsimp only
        rw [hqueue, List.drop_drop]
      · dsimp only
        rw [hqueue, List.getElem?_drop, Nat.add_zero]
    | handled => exact absurd rfl hhandle
    | left => exact absurd rfl hleave

section

variable {limits : Limits} {tr : Trace} {s : State}

/-- Once the dispatch task has left its loop there are no subscribers. -/
theorem Run.registered_eq_nil (h : Run { limits } tr s) (hleft : s.isOpen = false) :
    s.registered = [] := by
  induction h with
  | refl => rfl
  | @step tr s a order hrun horder henabled ih =>
    rw [State.nextIn_eq_next horder] at hleft ⊢
    obtain ⟨-, hregistrations, -⟩ := hrun.keeps
    by_cases ha : a = .handle
    · -- a task that handles a command is in its loop
      subst ha
      have hrunning := State.task_of_handle henabled
      have htask := s.task_next .handle
      simp [State.isOpen, htask, hrunning] at hleft
    · rw [(State.change_next hregistrations.nodup henabled 0).registered_eq ha]
      split
      · rfl
      · rename_i hleave
        refine ih ?_
        have htask := s.task_next a
        unfold State.isOpen at *
        cases a <;> simp_all [State.enabled]

/-- What the call of a caller came to, by what the caller posted and was answered, and by where the
dispatch task stood when the call was made. -/
def Settled (tr : Trace) (s : State) (n : Nat) (before : Task) (outcome : Outcome) : Call → Prop
  | .subscribe _ | .count =>
    tr.answers n = [outcome] ∨
      tr.answers n = [] ∧ outcome = .failed .stopped ∧ s.isOpen = false
  | .unsubscribe id =>
    tr.postedBy n = [.unregister id] ∧ outcome = .done ∨
      tr.postedBy n = [] ∧ outcome = .failed .stopped ∧ s.isOpen = false
  | .wait => outcome = .done ∧ (before ≠ .absent → s.task = .ended ∧ s.registered = [])

/-- A call that has come to its end is settled. -/
theorem Stage.settled {n : Nat} {call : Call} {before : Task} {outcome : Outcome}
    (h : Stage n call before s.task (tr.postedBy n) (tr.answers n) (some (.returned outcome)))
    (hempty : s.isOpen = false → s.registered = []) : Settled tr s n before outcome call := by
  have hleft (htask : s.task = .leaving ∨ s.task = .ended) : s.isOpen = false := by
    rcases htask with htask | htask <;> simp [State.isOpen, htask]
  generalize hposted : tr.postedBy n = commands at h
  generalize hanswers : tr.answers n = outcomes at h
  cases h with
  | answered hcommand hasks =>
    cases call <;> cases hcommand
    · exact .inl hanswers
    · cases hasks
    · exact .inl hanswers
  | lost hcommand hasks hended =>
    cases call <;> cases hcommand
    · exact .inr ⟨hanswers, rfl, hleft (.inr hended)⟩
    · cases hasks
    · exact .inr ⟨hanswers, rfl, hleft (.inr hended)⟩
  | posted hcommand hasks =>
    cases call <;> cases hcommand
    · simp [Command.asks, Command.asker?] at hasks
    · exact .inl ⟨hposted, rfl⟩
    · simp [Command.asks, Command.asker?] at hasks
  | refused hcommand htask =>
    cases call <;> cases hcommand
    · exact .inr ⟨hanswers, rfl, hleft htask⟩
    · exact .inr ⟨hposted, rfl, hleft htask⟩
    · exact .inr ⟨hanswers, rfl, hleft htask⟩
  | waited hcommand htask =>
    cases call <;> cases hcommand
    refine ⟨rfl, fun hstarted => ?_⟩
    have hended := htask.resolve_left hstarted
    exact ⟨hended, hempty (hleft (.inr hended))⟩

/-- Who has got room for a command, and no answer yet, after a step that leaves the dispatch task at
its end had it before the step; and if the task comes to its end in this step, the command was not
posted. -/
theorem State.Turn.of_ended {a : Action} {n : Nat} {c : Command} {phase : Option Phase}
    (h : State.Turn n s a phase) (hended : (s.next a).task = .ended)
    (hphase : phase = some (.admitted c) ∨ phase = some (.awaiting c)) :
    (a = .conclude ∧ s.phase? n = some (.admitted c)) ∨
      s.task = .ended ∧ (s.phase? n = some (.admitted c) ∨ s.phase? n = some (.awaiting c)) := by
  have hbefore (ha : a ≠ .conclude) : s.task = .ended := by
    by_contra hrunning
    exact State.task_next_ne_ended ha hrunning hended
  cases h with
  | kept _ _ _ hconclude =>
    -- the step in which the task comes to its end leaves nobody waiting for an answer
    by_cases ha : a = .conclude
    · exact .inl ⟨ha, hphase.resolve_right (hconclude ha c)⟩
    · exact .inr ⟨hbefore ha, hphase⟩
  | admitted _ hopen => exact absurd (hbefore nofun) (State.task_ne_ended_of_isOpen hopen)
  | @posted command hadmitted =>
    unfold State.postedPhase at hphase
    split at hphase
    · obtain rfl : command = c := by simpa using hphase
      exact .inr ⟨hbefore nofun, .inl hadmitted⟩
    · simp at hphase
  | @begun call =>
    unfold State.firstPhase at hphase
    split at hphase
    · simp at hphase
    · split at hphase <;> simp at hphase
  | refused | waited | gone | answered | lost => simp at hphase

/-- At the end of the dispatch task who waits for an answer still waits after the next step, or is
gone with it. -/
theorem State.Turn.eq_of_awaiting {a : Action} {n : Nat} {c : Command} {phase : Option Phase}
    (h : State.Turn n s a phase) (henabled : s.enabled a = true) (hended : s.task = .ended)
    (hphase : s.phase? n = some (.awaiting c)) (hstays : a ≠ .abandon n) :
    phase = some (.awaiting c) := by
  cases h with
  | kept => exact hphase
  | gone => exact absurd rfl hstays
  | answered => cases hended.symm.trans (State.task_of_handle henabled)
  | lost => simp [State.enabled, hended] at henabled
  | begun hbefore | admitted hbefore | posted hbefore | refused hbefore | waited hbefore =>
    cases hphase.symm.trans hbefore

/-- Nothing else ends such a wait: at the end of the dispatch task who waits for an answer goes on
to wait, as long as it is there. -/
theorem Run.awaiting_of_ended (h : Run { limits } tr s) (hended : s.task = .ended) {n : Nat}
    {c : Command} (hphase : s.phase? n = some (.awaiting c)) {tr' : Trace} {s' : State}
    (hmore : Run s tr' s') (hstays : ∀ x ∈ tr', x.action ≠ .abandon n) :
    s'.phase? n = some (.awaiting c) := by
  -- what comes after is a run of the hub too, so its steps are turns of the caller
  have hwaits : (∃ tr, Run { limits } tr s') ∧ s'.task = .ended ∧
      ((∀ x ∈ tr', x.action ≠ .abandon n) → s'.phase? n = some (.awaiting c)) := by
    refine hmore.invariant (P := fun tr' s' => (∃ tr, Run { limits } tr s') ∧ s'.task = .ended ∧
      ((∀ x ∈ tr', x.action ≠ .abandon n) → s'.phase? n = some (.awaiting c)))
      ⟨⟨tr, h⟩, hended, fun _ => hphase⟩ ?_
    rintro tr' s a ⟨⟨tr, hrun⟩, hended, hwaits⟩ henabled
    refine ⟨⟨_, hrun.step_next henabled⟩, (State.task_next_of_left henabled).1 hended,
      fun hstays => ?_⟩
    have hbefore := hwaits fun x hx => hstays x (List.mem_append_left _ hx)
    have hthere : a ≠ .abandon n := hstays _ (List.mem_append_right _ (.head _))
    exact (hrun.turn henabled n).eq_of_awaiting henabled hended hbefore hthere
  exact hwaits.2.2 hstays

end

end SyslogCollector.Hub
