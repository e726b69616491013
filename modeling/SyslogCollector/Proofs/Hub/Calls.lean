import SyslogCollector.Proofs.Hub.Callers
/-!
# What becomes of a call

A trace shows which calls were made, what their callers posted and what the dispatch task answered.
`Stage` says how far a call can be by that (`Run.calls`). A caller that waits for an answer has
posted its command, which waits in the mailbox as long (`Run.mem_mailbox_of_awaiting`).
-/

namespace SyslogCollector.Hub

/-! ### What a trace shows -/

/-- Whether the answer to a command is for a caller. -/
def Command.asks (n : Nat) (c : Command) : Bool := c.asker? == some n

namespace Transition

variable (x : Transition) (n : Nat)

/-- The call that is made, with the number of its caller and where the dispatch task stands. -/
def call? : Option (Nat × Call × Task) :=
  match x.action with
  | .call n c => some (n, c, x.before.task)
  | _ => none

/-- What a caller posts. -/
def postedBy : List Command :=
  if x.action = .proceed n then x.posted else []

/-- What the dispatch task answers to a caller. -/
def answers : List Outcome :=
  (x.handled.filter (·.command.asks n)).map fun h => h.hub.answer h.command

end Transition

namespace Trace

variable (tr : Trace) (n : Nat)

/-- The calls that were made, in their order. -/
def calls : List (Nat × Call × Task) := tr.filterMap Transition.call?

/-- What a caller posted, in its order. -/
def postedBy : List Command := tr.flatMap (·.postedBy n)

/-- What the dispatch task answered to a caller, in its order. -/
def answers : List Outcome := tr.flatMap (·.answers n)

variable (x : Transition)

theorem calls_concat : calls (tr ++ [x]) = tr.calls ++ x.call?.toList := by
  cases hx : x.call? <;> simp [calls, hx]

theorem postedBy_concat : postedBy (tr ++ [x]) n = tr.postedBy n ++ x.postedBy n := by
  simp [postedBy]

theorem answers_concat : answers (tr ++ [x]) n = tr.answers n ++ x.answers n := by
  simp [answers]

/-- The answers are those to the commands that were handled. -/
theorem answers_eq : tr.answers n =
    (tr.handled.filter (·.command.asks n)).map fun h => h.hub.answer h.command := by
  rw [answers, handled, List.filter_flatMap, List.map_flatMap]
  rfl

end Trace

namespace Transition

variable {s s' : State} {a : Action} {n : Nat}

theorem postedBy_of_ne (h : a ≠ .proceed n) : postedBy ⟨s, a, s'⟩ n = [] :=
  if_neg h

theorem answers_of_ne (h : a ≠ .handle) (n : Nat) : answers ⟨s, a, s'⟩ n = [] := by
  rw [answers, handled_of_ne (x := ⟨s, a, s'⟩) h]
  rfl

theorem answers_of_mailbox {command : Command} {rest : List Command}
    (h : s.mailbox = command :: rest) (n : Nat) :
    answers ⟨s, .handle, s'⟩ n = if command.asks n then [s.answer command] else [] := by
  rw [answers, handled_of_mailbox h]
  cases hasks : command.asks n <;> simp [hasks]

/-- Who has got room posts its command. -/
theorem postedBy_of_admitted {command : Command}
    (hphase : s.phase? n = some (.admitted command)) :
    postedBy ⟨s, .proceed n, s.next (.proceed n)⟩ n = [command] := by
  rw [postedBy, if_pos rfl, posted, State.mailbox_next_of_admitted hphase]
  exact List.drop_left

/-- Nobody else posts anything. -/
theorem postedBy_of_not_admitted (hphase : ∀ c, s.phase? n ≠ some (.admitted c)) :
    postedBy ⟨s, .proceed n, s.next (.proceed n)⟩ n = [] := by
  have hmailbox : (s.next (.proceed n)).mailbox = s.mailbox := by
    simp only [State.next]
    split
    · rename_i phase hsome
      obtain ⟨_, _, _, hframe, hsame | ⟨c, rfl, -⟩⟩ := s.proceed_frame n phase
      · rw [hframe]
        exact hsame
      · exact absurd hsome (hphase c)
    · rfl
  rw [postedBy, if_pos rfl, posted, hmailbox]
  exact List.drop_length

end Transition

/-! ### How far a call is -/

/-- How far a call can be, by what its caller posted and was answered. The call was made when the
dispatch task stood at `before`, and now the task stands at `task`. -/
inductive Stage (n : Nat) (call : Call) (before task : Task) :
    List Command → List Outcome → Option Phase → Prop
  /-- There was no room for its command yet. -/
  | posting {command : Command} :
      call.command? n = some command → Stage n call before task [] [] (some (.posting command))
  /-- There is room for its command. -/
  | admitted {command : Command} :
      call.command? n = some command → Stage n call before task [] [] (some (.admitted command))
  /-- Its command was not answered yet. -/
  | awaiting {command : Command} :
      call.command? n = some command → command.asks n = true →
        Stage n call before task [command] [] (some (.awaiting command))
  /-- Its command was answered. -/
  | answered {command : Command} {outcome : Outcome} :
      call.command? n = some command → command.asks n = true →
        Stage n call before task [command] [outcome] (some (.returned outcome))
  /-- The task came to its end before it came to the command. -/
  | lost {command : Command} :
      call.command? n = some command → command.asks n = true → task = .ended →
        Stage n call before task [command] [] (some (.returned (.failed .stopped)))
  /-- Its command was posted, and there is no answer to wait for. -/
  | posted {command : Command} :
      call.command? n = some command → command.asks n = false →
        Stage n call before task [command] [] (some (.returned .done))
  /-- Its command was not posted before the task left its loop. -/
  | refused {command : Command} :
      call.command? n = some command → task = .leaving ∨ task = .ended →
        Stage n call before task [] [] (some (.returned (.failed .stopped)))
  /-- It waits for the end of the task. -/
  | waiting :
      call.command? n = none → before ≠ .absent → Stage n call before task [] [] (some .waiting)
  /-- The task has come to its end, or there was none. -/
  | waited :
      call.command? n = none → before = .absent ∨ task = .ended →
        Stage n call before task [] [] (some (.returned .done))
  /-- Its caller is gone. -/
  | gone {commands : List Command} {outcomes : List Outcome} :
      Stage n call before task commands outcomes none

/-- A caller posts the command of its call, whose answer is for the caller if it is for anybody. -/
theorem Call.asks_of_command? {call : Call} {m n : Nat} {c : Command}
    (hcommand : call.command? m = some c) (h : c.asks n = true) : n = m := by
  cases call <;> cases hcommand <;> simp_all [Command.asks, Command.asker?]

theorem Call.asker?_of_command? {call : Call} {n : Nat} {c : Command}
    (hcommand : call.command? n = some c) : c.asker?.isSome = c.asks n := by
  cases call <;> cases hcommand <;> simp [Command.asks, Command.asker?]

namespace State

variable {s s' : State} {a : Action} {n : Nat}

/-- How far a call is when it begins. -/
theorem stage_begin (s : State) (n : Nat) (call : Call) :
    Stage n call s.task s.task [] [] (some (s.firstPhase n call)) := by
  unfold firstPhase
  cases hcommand : call.command? n with
  | some command => exact .posting hcommand
  | none =>
    dsimp only
    split
    · rename_i habsent
      exact .waited hcommand (.inl habsent)
    · rename_i hstarted
      exact .waiting hcommand hstarted

/-- The end of the task stays the end, and a task that has left its loop does not go back. -/
theorem task_next_of_left (henabled : s.enabled a = true) :
    (s.task = .ended → (s.next a).task = .ended) ∧
      (s.task = .leaving ∨ s.task = .ended →
        (s.next a).task = .leaving ∨ (s.next a).task = .ended) := by
  have htask := s.task_next a
  cases a <;> simp_all [enabled]

/-- Only its last step leads the task to its end. -/
theorem task_next_ne_ended (ha : a ≠ .conclude) (h : s.task ≠ .ended) :
    (s.next a).task ≠ .ended := by
  have htask := s.task_next a
  cases a <;> simp_all

end State

namespace Stage

variable {n : Nat} {call : Call} {before : Task} {s : State} {a : Action}
  {commands : List Command} {outcomes : List Outcome}

/-- A call whose caller is left alone stays as far as it is. -/
theorem rest (h : Stage n call before s.task commands outcomes (s.phase? n))
    (henabled : s.enabled a = true) :
    Stage n call before (s.next a).task commands outcomes (s.phase? n) := by
  obtain ⟨hended, hleft⟩ := State.task_next_of_left henabled
  generalize s.phase? n = phase at h ⊢
  cases h with
  | posting hcommand => exact .posting hcommand
  | admitted hcommand => exact .admitted hcommand
  | awaiting hcommand hasks => exact .awaiting hcommand hasks
  | answered hcommand hasks => exact .answered hcommand hasks
  | lost hcommand hasks htask => exact .lost hcommand hasks (hended htask)
  | posted hcommand hasks => exact .posted hcommand hasks
  | refused hcommand htask => exact .refused hcommand (hleft htask)
  | waiting hcommand hstarted => exact .waiting hcommand hstarted
  | waited hcommand htask => exact .waited hcommand (htask.imp_right hended)
  | gone => exact .gone

/-- Who neither waits for an answer nor is gone has got as many as it asked for. -/
theorem length_le (h : Stage n call before s.task commands outcomes (s.phase? n))
    (hrunning : s.task = .running) (hawaits : ∀ c, s.phase? n ≠ some (.awaiting c))
    (hphase : s.phase? n ≠ none) :
    (commands.filter (Command.asks n)).length ≤ outcomes.length := by
  generalize s.phase? n = phase at h hawaits hphase
  cases h with
  | @awaiting command => exact absurd rfl (hawaits command)
  | answered => exact List.length_filter_le _ _
  | lost _ _ htask => cases hrunning.symm.trans htask
  | posted _ hasks => simp [hasks]
  | gone => exact absurd rfl hphase
  | _ => exact Nat.le_refl _

/-- Nothing is answered to a caller that stays where it is. -/
theorem answers_of_kept (h : Stage n call before s.task commands outcomes (s.phase? n))
    (henabled : s.enabled a = true) (hphase : s.phase? n ≠ none)
    (hhandle : a = .handle → ∀ command rest, s.mailbox = command :: rest →
      ¬ (command.asker? = some n ∧ ∃ c, s.phase? n = some (.awaiting c)))
    (hanswers : (commands.filter (Command.asks n)).length ≤ outcomes.length →
      Transition.answers ⟨s, a, s.next a⟩ n = []) :
    Transition.answers ⟨s, a, s.next a⟩ n = [] := by
  by_cases ha : a = .handle
  · subst ha
    have hrunning := State.task_of_handle henabled
    by_cases hawaits : ∃ c, s.phase? n = some (.awaiting c)
    · -- the command that is handled would have been its own
      obtain ⟨command, rest, hmailbox, -⟩ := State.exists_next_handle henabled
      have hother : command.asks n = false := by
        have hnot := hhandle rfl command rest hmailbox
        simpa [Command.asks] using fun hasker => hnot ⟨hasker, hawaits⟩
      rw [Transition.answers_of_mailbox hmailbox, hother]
      rfl
    · exact hanswers (h.length_le hrunning (fun c hc => hawaits ⟨c, hc⟩) hphase)
  · exact Transition.answers_of_ne ha n

/-- How far a call is after one more step. What comes out of the mailbox is for its caller only if
the caller asked more than it was answered. -/
theorem next (h : Stage n call before s.task commands outcomes (s.phase? n))
    (henabled : s.enabled a = true) (hturn : State.Turn n s a ((s.next a).phase? n))
    (hcall : ∀ c, a ≠ .call n c)
    (hanswers : (commands.filter (Command.asks n)).length ≤ outcomes.length →
      Transition.answers ⟨s, a, s.next a⟩ n = []) :
    Stage n call before (s.next a).task
      (commands ++ Transition.postedBy ⟨s, a, s.next a⟩ n)
      (outcomes ++ Transition.answers ⟨s, a, s.next a⟩ n) ((s.next a).phase? n) := by
  have hrest := h.rest henabled
  generalize hafter : (s.next a).phase? n = after at hturn ⊢
  cases hturn with
  | kept _ hproceed _ _ hhandle =>
    rw [Transition.postedBy_of_ne hproceed, List.append_nil]
    by_cases hnone : s.phase? n = none
    · rw [hnone]
      exact .gone
    · have hnothing := h.answers_of_kept henabled hnone hhandle hanswers
      rw [hnothing, List.append_nil]
      exact hrest
  | begun => exact absurd rfl (hcall _)
  | admitted hphase hopen =>
    rw [Transition.postedBy_of_not_admitted (by simp [hphase]),
      Transition.answers_of_ne (by simp)]
    rw [hphase] at h
    cases h with
    | posting hcommand => exact .admitted hcommand
  | @posted command hphase =>
    rw [Transition.postedBy_of_admitted hphase, Transition.answers_of_ne (by simp)]
    rw [hphase] at h
    cases h with
    | admitted hcommand =>
      unfold State.postedPhase
      rw [Call.asker?_of_command? hcommand]
      cases hasks : command.asks n with
      | true => exact .awaiting hcommand hasks
      | false => exact .posted hcommand hasks
  | refused hphase hopen =>
    rw [Transition.postedBy_of_not_admitted (by simp [hphase]),
      Transition.answers_of_ne (by simp)]
    have hleft : s.task = .leaving ∨ s.task = .ended := by
      cases htask : s.task <;> simp_all [State.isOpen]
    rw [hphase] at h
    cases h with
    | posting hcommand => exact .refused hcommand ((State.task_next_of_left henabled).2 hleft)
  | waited hphase hended =>
    rw [Transition.postedBy_of_not_admitted (by simp [hphase]),
      Transition.answers_of_ne (by simp)]
    rw [hphase] at h
    cases h with
    | waiting hcommand =>
      exact .waited hcommand (.inr ((State.task_next_of_left henabled).1 hended))
  | gone => exact .gone
  | @answered command c rest hmailbox hasker hphase =>
    have hasks : command.asks n = true := by simpa [Command.asks] using hasker
    rw [Transition.postedBy_of_ne (by simp), Transition.answers_of_mailbox hmailbox, if_pos hasks]
    rw [hphase] at h
    cases h with
    | awaiting hcommand hmine => exact .answered hcommand hmine
  | lost hphase =>
    rw [Transition.postedBy_of_ne (by simp), Transition.answers_of_ne (by simp)]
    rw [hphase] at h
    cases h with
    | awaiting hcommand hasks => exact .lost hcommand hasks (s.task_next .conclude)

end Stage

/-! ### Runs -/

/-- The calls that were made, and how far they are. -/
structure Calls (tr : Trace) (s : State) : Prop where
  /-- A caller posts the command of a call. -/
  own : ∀ {n c}, s.unposted? n = some c → ∃ call : Call, call.command? n = some c
  /-- What is asked for a caller is what the caller asks. -/
  asked : ∀ n, tr.posted.filter (Command.asks n) = (tr.postedBy n).filter (Command.asks n)
  /-- Who made no call posted nothing. -/
  unknown : ∀ {n}, n ∉ tr.calls.map Prod.fst → s.phase? n = none ∧ tr.postedBy n = []
  /-- A call whose caller made no other one is as far as it can be. -/
  stage : (tr.calls.map Prod.fst).Nodup → ∀ {n call before}, (n, call, before) ∈ tr.calls →
    Stage n call before s.task (tr.postedBy n) (tr.answers n) (s.phase? n)

namespace Calls

variable {tr : Trace} {s : State} {a : Action} {n : Nat}

theorem initial (limits : Limits) : Calls [] { limits } where
  own h := nomatch h
  asked _ := rfl
  unknown _ := ⟨rfl, rfl⟩
  stage _ _ _ _ h := nomatch h

/-- A caller was answered no more often than it asked. -/
theorem length_answers_le (h : Calls tr s) (hmail : Mail tr s) (n : Nat) :
    (tr.answers n).length ≤ ((tr.postedBy n).filter (Command.asks n)).length := by
  rw [← h.asked, tr.answers_eq, List.length_map]
  have hhandled := (hmail.inOrder.filter (Command.asks n)).length_le
  rwa [List.filter_map, List.length_map] at hhandled

/-- Who got as many answers as it asked for gets no more. -/
theorem answers_eq_nil (h : Calls tr s) (hmail : Mail tr s) (henabled : s.enabled a = true)
    (hlength : ((tr.postedBy n).filter (Command.asks n)).length ≤ (tr.answers n).length) :
    Transition.answers ⟨s, a, s.next a⟩ n = [] := by
  by_cases ha : a = .handle
  · subst ha
    have hrunning := State.task_of_handle henabled
    obtain ⟨command, rest, hmailbox, -⟩ := State.exists_next_handle henabled
    rw [Transition.answers_of_mailbox hmailbox]
    -- all that it asked for was handled, so the next command is not for it
    cases hasks : command.asks n with
    | false => rfl
    | true =>
      have hwaiting := hmail.waiting (by simp [hrunning])
      rw [← h.asked, hwaiting, hmailbox, tr.answers_eq, List.length_map, List.filter_append,
        List.length_append, List.filter_cons_of_pos hasks, List.length_cons, List.filter_map,
        List.length_map] at hlength
      exact absurd hlength (by simp [Function.comp_def])
  · exact Transition.answers_of_ne ha n

/-- What others post is not asked for a caller. -/
theorem asked_step (h : Calls tr s) (henabled : s.enabled a = true) (n : Nat) :
    (Transition.posted ⟨s, a, s.next a⟩).filter (Command.asks n) =
      (Transition.postedBy ⟨s, a, s.next a⟩ n).filter (Command.asks n) := by
  by_cases ha : a = .proceed n
  · rw [Transition.postedBy, if_pos ha]
  · rw [Transition.postedBy_of_ne ha]
    have hflow := State.mailFlow_next henabled
    generalize s.next a = s' at hflow
    cases hflow with
    | kept _ hmailbox => simp [Transition.posted, hmailbox]
    | written _ hmailbox => simp [Transition.posted, hmailbox, Command.asks, Command.asker?]
    | @posted id c _ hphase hmailbox =>
      obtain ⟨call, hcommand⟩ := h.own (State.unposted?_eq hphase)
      have hother : c.asks n = false := by
        by_contra hasks
        rw [Bool.not_eq_false] at hasks
        exact ha (by rw [Call.asks_of_command? hcommand hasks])
      simp [Transition.posted, hmailbox, hother]
    | handled hmailbox => rw [Transition.posted_of_handled hmailbox]
    | cleared hmailbox => simp [Transition.posted, hmailbox]

theorem next (h : Calls tr s) (hmail : Mail tr s) (henabled : s.enabled a = true)
    (hturn : ∀ n, State.Turn n s a ((s.next a).phase? n)) :
    Calls (tr ++ [⟨s, a, s.next a⟩]) (s.next a) := by
  constructor
  case own =>
    intro n c hpost
    rcases State.unposted_next henabled hpost with ⟨hold, -⟩ | ⟨call, -, hnew⟩
    · exact h.own hold
    · exact ⟨call, State.command?_of_begin_unposted hnew⟩
  case asked =>
    intro n
    rw [Trace.posted_concat, Trace.postedBy_concat, List.filter_append, List.filter_append,
      h.asked, h.asked_step henabled]
  case unknown =>
    intro n hn
    rw [Trace.calls_concat, List.map_append, List.mem_append, not_or] at hn
    obtain ⟨hnone, hposted⟩ := h.unknown hn.1
    have hafter := hturn n
    generalize hphase : (s.next a).phase? n = after at hafter
    rw [Trace.postedBy_concat, hposted, List.nil_append]
    cases hafter with
    | kept _ hproceed => exact ⟨hnone, Transition.postedBy_of_ne hproceed⟩
    | begun => simp [Transition.call?] at hn
    | gone => exact ⟨rfl, Transition.postedBy_of_ne (by simp)⟩
    | admitted hbefore | posted hbefore | refused hbefore | waited hbefore
    | answered _ _ hbefore | lost hbefore => cases hnone.symm.trans hbefore
  case stage =>
    intro hnodup n call before hmem
    rw [Trace.calls_concat, List.map_append] at hnodup
    rw [Trace.calls_concat, List.mem_append] at hmem
    rw [Trace.postedBy_concat, Trace.answers_concat]
    rcases hmem with hold | hnew
    · -- its caller makes no second call
      have hcall (c : Call) : a ≠ .call n c := by
        rintro rfl
        exact (List.nodup_append.1 hnodup).2.2 n (List.mem_map_of_mem hold) n
          (by simp [Transition.call?]) rfl
      exact (h.stage (List.nodup_append.1 hnodup).1 hold).next henabled (hturn n) hcall
        (h.answers_eq_nil hmail henabled)
    · obtain ⟨rfl, rfl⟩ : a = .call n call ∧ before = s.task := by
        cases a <;> simp_all [Transition.call?]
      have hfirst : n ∉ tr.calls.map Prod.fst := by
        intro hn
        exact (List.nodup_append.1 hnodup).2.2 n hn n (by simp [Transition.call?]) rfl
      obtain ⟨-, hposted⟩ := h.unknown hfirst
      have hanswers : tr.answers n = [] := by
        have hlength := h.length_answers_le hmail n
        rw [hposted] at hlength
        exact List.eq_nil_of_length_eq_zero (Nat.le_zero.1 hlength)
      have htask : (s.next (.call n call)).task = s.task := s.task_next _
      have hphase : (s.next (.call n call)).phase? n = some (s.firstPhase n call) :=
        s.phase?_begin_self n call
      rw [hposted, hanswers, Transition.postedBy_of_ne (by simp),
        Transition.answers_of_ne (by simp), htask, hphase]
      exact s.stage_begin n call

end Calls

section

variable {limits : Limits} {tr : Trace} {s : State}

theorem Run.calls (h : Run { limits } tr s) : Calls tr s := by
  -- the induction is on the run; what else is needed of its states is known by `Run.keeps`
  induction h with
  | refl => exact .initial limits
  | @step tr s a order hrun horder henabled ih =>
    rw [State.nextIn_eq_next horder]
    exact ih.next hrun.keeps.1 henabled (hrun.turn henabled)

/-- Who waits for an answer has asked for it, and the command is not handled yet. -/
theorem Run.mem_mailbox_of_awaiting (h : Run { limits } tr s) {n : Nat} {c : Command}
    (hphase : s.phase? n = some (.awaiting c)) : c.asker? = some n ∧ c ∈ s.mailbox := by
  -- a step keeps somebody waiting or is the one in which the command was posted
  induction h with
  | refl => cases hphase
  | @step tr s a order hrun horder henabled ih =>
    rw [State.nextIn_eq_next horder] at hphase ⊢
    have hturn := hrun.turn henabled n
    rw [hphase] at hturn
    generalize hafter : some (Phase.awaiting c) = phase at hturn
    cases hturn with
    | kept _ _ _ hconclude hhandle =>
      obtain ⟨hasker, hmem⟩ := ih hafter.symm
      refine ⟨hasker, ?_⟩
      have hflow := State.mailFlow_next henabled
      generalize s.next a = s' at hflow
      cases hflow with
      | kept _ hmailbox => rwa [hmailbox]
      | written _ hmailbox | posted _ hmailbox =>
        rw [hmailbox]
        exact List.mem_append_left _ hmem
      | handled hmailbox =>
        -- the command that is handled is that of somebody else
        rw [hmailbox, List.mem_cons] at hmem
        refine hmem.resolve_left ?_
        rintro rfl
        exact hhandle rfl _ _ hmailbox ⟨hasker, _, hafter.symm⟩
      | cleared => exact absurd hafter.symm (hconclude rfl c)
    | @posted command hadmitted =>
      obtain ⟨call, hcommand⟩ := hrun.calls.own (State.unposted?_eq hadmitted)
      unfold State.postedPhase at hafter
      split at hafter
      · cases hafter
        rename_i hasks
        rw [Call.asker?_of_command? hcommand] at hasks
        rw [State.mailbox_next_of_admitted hadmitted]
        exact ⟨by simpa [Command.asks] using hasks, List.mem_append_right _ (.head _)⟩
      · cases hafter
    | @begun call =>
      unfold State.firstPhase at hafter
      split at hafter
      · cases hafter
      · split at hafter <;> cases hafter
    | admitted | refused | waited | gone | answered | lost => cases hafter

end

end SyslogCollector.Hub
