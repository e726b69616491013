import SyslogCollector.Proofs.Hub.Trace
/-!
# The mailbox

Commands leave the mailbox in the order in which they came, one after the other, until the dispatch
task comes to its end (`Mail`). A subscriber asks to be registered once: its caller posts the
command at most once, and nobody else does (`Registrations`).
-/

namespace SyslogCollector.Hub

namespace State

/-! ### What the steps leave alone -/

section

variable (s : State) (id : Nat)

theorem begin_frame (c : Call) :
    ∃ subscribers callers, s.begin id c = { s with subscribers, callers } := by
  cases c with
  | wait =>
    simp only [begin]
    split <;> exact ⟨_, _, rfl⟩
  | _ => exact ⟨_, _, rfl⟩

theorem afterPost_frame (c : Command) : ∃ callers, s.afterPost id c = { s with callers } := by
  cases c <;> exact ⟨_, rfl⟩

/-- A caller that goes on posts its command, if it has got room, or nothing. -/
theorem proceed_frame (phase : Phase) :
    ∃ mailbox subscribers callers,
      s.proceed id phase = { s with mailbox, subscribers, callers } ∧
        (mailbox = s.mailbox ∨ ∃ c, phase = .admitted c ∧ mailbox = s.mailbox ++ [c]) := by
  cases phase with
  | posting c =>
    simp only [proceed]
    split <;> exact ⟨_, _, _, rfl, .inl rfl⟩
  | admitted c =>
    obtain ⟨_, h⟩ := afterPost_frame { s with mailbox := s.mailbox ++ [c] } id c
    exact ⟨_, _, _, h, .inr ⟨c, rfl, rfl⟩⟩
  | _ => exact ⟨_, _, _, rfl, .inl rfl⟩

theorem mailbox_next_of_admitted {s : State} {n : Nat} {c : Command}
    (hphase : s.phase? n = some (.admitted c)) :
    (s.next (.proceed n)).mailbox = s.mailbox ++ [c] := by
  obtain ⟨_, hframe⟩ := afterPost_frame { s with mailbox := s.mailbox ++ [c] } n c
  simp only [next, hphase, proceed, hframe]

theorem abandon_frame :
    ∃ subscribers callers, s.abandon id = { s with subscribers, callers } := by
  simp only [abandon]
  split <;> exact ⟨_, _, rfl⟩

theorem acknowledge_frame (outcome : Outcome) :
    ∃ callers, s.acknowledge id outcome = { s with callers } := by
  unfold acknowledge
  split <;> exact ⟨_, rfl⟩

@[simp]
theorem subscriber?_acknowledge (outcome : Outcome) (c : Nat) :
    (s.acknowledge id outcome).subscriber? c = s.subscriber? c := by
  unfold acknowledge
  split <;> rfl

@[simp]
theorem registered_acknowledge (outcome : Outcome) :
    (s.acknowledge id outcome).registered = s.registered := by
  unfold acknowledge
  split <;> rfl

/-- A handled command changes neither the mailbox nor the task. -/
theorem perform_frame (c : Command) :
    ∃ subscribers registered callers metrics,
      s.perform c = { s with subscribers, registered, callers, metrics } := by
  cases c with
  | register id =>
    simp only [perform]
    split
    · exact ⟨_, _, _, _, (acknowledge_frame _ id _).choose_spec⟩
    · exact ⟨_, _, _, _, (acknowledge_frame _ id _).choose_spec⟩
  | unregister id =>
    simp only [perform]
    split <;> exact ⟨_, _, _, _, rfl⟩
  | broadcast m =>
    obtain ⟨_, _, _, h, _⟩ := s.broadcast_frame s.registered m
    exact ⟨_, _, _, _, h⟩
  | count id => exact ⟨_, _, _, _, (acknowledge_frame s id _).choose_spec⟩

theorem discard_frame :
    ∃ subscribers callers, s.discard = { s with mailbox := [], subscribers, callers } := by
  have hfold : ∀ (ids : List Nat) (s : State), ∃ subscribers callers,
      ids.foldl (fun s id => s.fail id .stopped) s = { s with subscribers, callers } := by
    intro ids
    induction ids with
    | nil => exact fun s => ⟨_, _, rfl⟩
    | cons id rest ih =>
      intro s
      obtain ⟨subscribers, callers, h⟩ := ih (s.fail id .stopped)
      exact ⟨subscribers, callers, h⟩
  exact hfold _ _

theorem conclude_frame :
    ∃ subscribers callers,
      s.conclude = { s with task := .ended, mailbox := [], subscribers, callers } :=
  discard_frame { s with task := .ended }

end

variable {s : State} {a : Action}

/-- Where the dispatch task stands after an action. -/
theorem task_next (s : State) (a : Action) :
    (s.next a).task = match a with
      | .start => .running
      | .leave => .leaving
      | .conclude => .ended
      | _ => s.task := by
  cases a with
  | write m =>
    simp only [next, write]
    split <;> rfl
  | call id c =>
    obtain ⟨_, _, h⟩ := s.begin_frame id c
    simp only [next, h]
  | proceed id =>
    simp only [next]
    split
    · obtain ⟨_, _, _, h, -⟩ := s.proceed_frame id _
      rw [h]
    · rfl
  | abandon id =>
    obtain ⟨_, _, h⟩ := s.abandon_frame id
    simp only [next, h]
  | handle =>
    simp only [next]
    split
    · rename_i c rest _
      obtain ⟨_, _, _, _, h⟩ := perform_frame { s with mailbox := rest } c
      rw [h]
    · rfl
  | conclude =>
    obtain ⟨_, _, h⟩ := s.conclude_frame
    simp only [next, h]
  | _ => rfl

/-- What a step does to the mailbox. -/
inductive MailFlow (s : State) : Action → State → Prop
  /-- Nothing. -/
  | kept {a : Action} {s' : State} : a ≠ .handle → s'.mailbox = s.mailbox → MailFlow s a s'
  /-- A message is posted. -/
  | written {m : Message} {s' : State} :
      s.isOpen = true → s'.mailbox = s.mailbox ++ [.broadcast m] → MailFlow s (.write m) s'
  /-- The command of a caller is posted. -/
  | posted {id : Nat} {c : Command} {s' : State} :
      s.phase? id = some (.admitted c) → s'.mailbox = s.mailbox ++ [c] →
        MailFlow s (.proceed id) s'
  /-- The oldest command is handled. -/
  | handled {c : Command} {s' : State} : s.mailbox = c :: s'.mailbox → MailFlow s .handle s'
  /-- What is left is lost. -/
  | cleared {s' : State} : s'.mailbox = [] → MailFlow s .conclude s'

/-- A task that handles a command is in its loop. -/
theorem task_of_handle (henabled : s.enabled .handle = true) : s.task = .running := by
  simp only [enabled, Bool.and_eq_true, beq_iff_eq] at henabled
  exact henabled.1

theorem isOpen_of_handle (henabled : s.enabled .handle = true) : s.isOpen = true := by
  rw [isOpen, task_of_handle henabled]
  rfl

theorem task_ne_ended_of_isOpen (hopen : s.isOpen = true) : s.task ≠ .ended := by
  intro hended
  simp [isOpen, hended] at hopen

theorem isOpen_next_conclude (s : State) : (s.next .conclude).isOpen = false := by
  rw [isOpen, s.task_next .conclude]
  rfl

/-- The command that is handled comes out of the mailbox. -/
theorem exists_next_handle (henabled : s.enabled .handle = true) :
    ∃ command rest, s.mailbox = command :: rest ∧
      s.next .handle = { s with mailbox := rest }.perform command := by
  cases hmailbox : s.mailbox with
  | nil => simp [enabled, hmailbox] at henabled
  | cons command rest => exact ⟨command, rest, rfl, by simp only [next, hmailbox]⟩

theorem mailFlow_next (henabled : s.enabled a = true) : MailFlow s a (s.next a) := by
  cases a with
  | write m =>
    by_cases hroom : (s.isOpen && !s.isFull) = true
    · refine .written (by simp_all) ?_
      simp only [next, write, hroom, if_true]
    · refine .kept (by simp) ?_
      simp only [next, write, hroom]
      rfl
  | call id c =>
    obtain ⟨_, _, h⟩ := s.begin_frame id c
    refine .kept (by simp) ?_
    simp only [next, h]
  | proceed id =>
    obtain ⟨phase, hphase, -⟩ := (Option.any_eq_true _ _).1 henabled
    have hnext : s.next (.proceed id) = s.proceed id phase := by simp only [next, hphase]
    obtain ⟨mailbox, _, _, h, hmailbox | ⟨c, rfl, hmailbox⟩⟩ := s.proceed_frame id phase
    · refine .kept (by simp) ?_
      rw [hnext, h]
      exact hmailbox
    · refine .posted hphase ?_
      rw [hnext, h]
      exact hmailbox
  | abandon id =>
    obtain ⟨_, _, h⟩ := s.abandon_frame id
    refine .kept (by simp) ?_
    simp only [next, h]
  | handle =>
    obtain ⟨c, rest, hmailbox, hnext⟩ := exists_next_handle henabled
    obtain ⟨_, _, _, _, h⟩ := perform_frame { s with mailbox := rest } c
    rw [hnext, h]
    exact .handled hmailbox
  | conclude =>
    obtain ⟨_, _, h⟩ := s.conclude_frame
    refine .cleared ?_
    simp only [next, h]
  | _ => exact .kept (by simp) rfl

end State

/-- A step that handles a command posts nothing. -/
theorem Transition.posted_of_handled {s s' : State} {c : Command}
    (h : s.mailbox = c :: s'.mailbox) : posted ⟨s, .handle, s'⟩ = [] :=
  List.drop_eq_nil_of_le (by simp [h])

/-! ### What is posted and handled -/

/-- Commands are handled in the order in which they are posted, and none after the dispatch task has
left its loop. -/
structure Mail (tr : Trace) (s : State) : Prop where
  /-- What was posted was handled or waits in the mailbox. -/
  waiting : s.task ≠ .ended → tr.posted = tr.handled.map Handling.command ++ s.mailbox
  /-- What was handled was posted first. -/
  inOrder : tr.handled.map Handling.command <+: tr.posted
  /-- A task that has left its loop does not go back. -/
  stopped : tr.sinceLeft ≠ [] → s.task = .leaving ∨ s.task = .ended
  /-- Since then nothing was handled. -/
  silent : tr.sinceLeft.handled = []

namespace Mail

variable {tr : Trace} {s : State} {a : Action}

theorem initial (limits : Limits) : Mail [] { limits } where
  waiting _ := rfl
  inOrder := List.nil_prefix
  stopped h := absurd rfl h
  silent := rfl

theorem next (h : Mail tr s) (henabled : s.enabled a = true) :
    Mail (tr ++ [⟨s, a, s.next a⟩]) (s.next a) := by
  have hflow := State.mailFlow_next henabled
  have htask := State.task_next s a
  generalize s.next a = s' at hflow htask ⊢
  have hhandles : a = .handle → s.task = .running := by
    rintro rfl
    simp_all [State.enabled]
  have hleaves : a = .leave → s.task = .running := by
    rintro rfl
    simp_all [State.enabled]
  have hstarts : a = .start → s.task = .absent := by
    rintro rfl
    simp_all [State.enabled]
  constructor
  case waiting =>
    intro hended
    -- the task has not ended before either: no step leads back from its end
    have hbefore : s.task ≠ .ended := by
      intro hs
      cases a <;> simp_all
    rw [Trace.posted_concat, Trace.handled_concat, List.map_append, h.waiting hbefore]
    cases hflow with
    -- what is posted is what the mailbox gains, and what is handled is what it loses
    | kept ha hmailbox => simp [Transition.posted, Transition.handled, ha, hmailbox]
    | written _ hmailbox => simp [Transition.posted, Transition.handled, hmailbox]
    | posted _ hmailbox => simp [Transition.posted, Transition.handled, hmailbox]
    | handled hmailbox => simp [Transition.posted, Transition.handled_of_mailbox hmailbox, hmailbox]
    | cleared => exact absurd htask hended
  case inOrder =>
    rw [Trace.posted_concat, Trace.handled_concat, List.map_append]
    -- only a step that handles a command makes the list longer, by the head of the mailbox
    by_cases ha : a = .handle
    · subst ha
      have hwaiting := h.waiting (by simp [hhandles rfl])
      cases hflow with
      | kept ha => exact absurd rfl ha
      | handled hmailbox =>
        rw [hwaiting, Transition.handled_of_mailbox hmailbox, hmailbox]
        simp [Transition.posted, hmailbox]
    · rw [Transition.handled_of_ne ha, List.map_nil, List.append_nil]
      exact h.inOrder.trans (List.prefix_append _ _)
  case stopped =>
    rw [Trace.sinceLeft_concat]
    intro hleft
    -- the task leaves its loop in this step, or it did so before
    by_cases hempty : tr.sinceLeft = []
    · by_cases hleave : a = .leave
      · subst hleave
        exact .inl htask
      · simp [hempty, hleave] at hleft
    · have hs := h.stopped hempty
      cases a <;> simp_all
  case silent =>
    rw [Trace.sinceLeft_concat]
    by_cases hempty : tr.sinceLeft = []
    · by_cases hleave : a = .leave <;> simp [hempty, hleave, Trace.handled, Transition.handled]
    · -- the task is past its loop, so this step handles nothing
      have hs := h.stopped hempty
      have ha : a ≠ .handle := by
        intro ha
        simp [hhandles ha] at hs
      rw [if_neg hempty, Trace.handled_concat, h.silent, Transition.handled_of_ne ha]
      rfl

end Mail

end SyslogCollector.Hub
