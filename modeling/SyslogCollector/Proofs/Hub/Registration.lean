import Mathlib.Data.List.Nodup
import SyslogCollector.Proofs.Hub.Subscription
/-!
# Who is registered

A caller that subscribes posts the registration of its own subscriber, once. So the command is
handled at most once, and a subscriber that was given up does not come back (`Registrations`).
-/

namespace SyslogCollector.Hub

/-! ### Callers that post -/

/-- The command that a caller in a phase has still to post, whether it has got room for it or
not. -/
def Phase.unposted? : Phase → Option Command
  | .posting c | .admitted c => some c
  | _ => none

namespace State

/-- The command that a caller has still to post. -/
def unposted? (s : State) (n : Nat) : Option Command := (s.phase? n).bind Phase.unposted?

theorem unposted?_eq {s : State} {n : Nat} {phase : Phase} (h : s.phase? n = some phase) :
    s.unposted? n = phase.unposted? := by
  rw [unposted?, h]
  rfl

theorem unposted?_of_phase? {s s' : State} {n : Nat} (h : s'.phase? n = s.phase? n) :
    s'.unposted? n = s.unposted? n := by
  rw [unposted?, h, unposted?]

/-- Whether every caller that has a command to post had to post it before. -/
def PostsNoMore (s s' : State) : Prop :=
  ∀ n c, s'.unposted? n = some c → s.unposted? n = some c

theorem phase?_move_self (s : State) (id : Nat) (phase : Phase) :
    (s.move id phase).phase? id = some phase :=
  Numbered.lookup_assign_self id phase s.callers

theorem phase?_move_of_ne {id n : Nat} (h : n ≠ id) (s : State) (phase : Phase) :
    (s.move id phase).phase? n = s.phase? n :=
  Numbered.lookup_assign_of_ne h phase s.callers

namespace PostsNoMore

variable {s t : State}

theorem finish (h : s.PostsNoMore t) (id : Nat) (outcome : Outcome) :
    s.PostsNoMore (t.finish id outcome) := by
  intro n c hn
  by_cases hid : n = id
  · rw [hid, State.finish, unposted?, phase?_move_self] at hn
    cases hn
  · rw [State.finish, unposted?_of_phase? (phase?_move_of_ne hid t _)] at hn
    exact h n c hn

theorem acknowledge (h : s.PostsNoMore t) (id : Nat) (outcome : Outcome) :
    s.PostsNoMore (t.acknowledge id outcome) := by
  unfold State.acknowledge
  split
  · exact h.finish id outcome
  · exact h

theorem perform (h : s.PostsNoMore t) (c : Command) : s.PostsNoMore (t.perform c) := by
  cases c with
  | register id =>
    simp only [State.perform]
    split
    · exact acknowledge (t := t.modify id _) h id _
    · exact acknowledge (t := { t with
        registered := t.registered ++ [id]
        metrics := { t.metrics with registered := t.metrics.registered + 1 } }) h id _
  | unregister id =>
    simp only [State.perform]
    split <;> exact h
  | broadcast m =>
    obtain ⟨_, _, _, heq, -⟩ := t.broadcast_frame t.registered m
    have hperform : t.perform (.broadcast m) = _ := heq
    rw [hperform]
    exact h
  | count id => exact h.acknowledge id _

theorem foldl_fail (h : s.PostsNoMore t) (ids : List Nat) :
    s.PostsNoMore (ids.foldl (fun s id => s.fail id .stopped) t) := by
  induction ids generalizing t with
  | nil => exact h
  | cons id rest ih => exact ih (finish (t := t.modify id _) h id _)

end PostsNoMore

theorem phase?_begin_of_ne {id n : Nat} (h : n ≠ id) (s : State) (call : Call) :
    (s.begin id call).phase? n = s.phase? n := by
  cases call with
  | subscribe k => exact phase?_move_of_ne h { s with
      subscribers := Numbered.assign id (.withCapacity k) s.subscribers } _
  | wait =>
    simp only [begin]
    split <;> exact phase?_move_of_ne h s _
  | _ => exact phase?_move_of_ne h s _

theorem unposted?_move_self (s : State) (id : Nat) (phase : Phase) :
    (s.move id phase).unposted? id =
      match phase with
      | .posting c | .admitted c => some c
      | _ => none := by
  rw [unposted?, phase?_move_self]
  cases phase <;> rfl

/-- Only a subscription is posted as a registration, and under the number of its caller. -/
theorem eq_of_begin_unposted {s : State} {id n : Nat} {call : Call}
    (h : (s.begin n call).unposted? n = some (.register id)) :
    id = n ∧ ∃ k, call = .subscribe k := by
  cases call with
  | subscribe k =>
    have hregister := unposted?_move_self { s with
      subscribers := Numbered.assign n (.withCapacity k) s.subscribers } n (.posting (.register n))
    cases hregister.symm.trans h
    exact ⟨rfl, k, rfl⟩
  | wait =>
    simp only [begin] at h
    split at h
    · cases (unposted?_move_self s n _).symm.trans h
    · cases (unposted?_move_self s n _).symm.trans h
  | _ => cases (unposted?_move_self s n _).symm.trans h

theorem phase?_proceed_of_ne {id n : Nat} (h : n ≠ id) (s : State) (phase : Phase) :
    (s.proceed id phase).phase? n = s.phase? n := by
  cases phase with
  | posting c =>
    simp only [proceed]
    split
    · exact phase?_move_of_ne h s _
    · exact phase?_move_of_ne h (s.modify id _) _
  | admitted c => cases c <;> exact phase?_move_of_ne h { s with mailbox := s.mailbox ++ [_] } _
  | waiting => exact phase?_move_of_ne h s _
  | _ => rfl

/-- A caller that goes on and has still to post its command waited for room. -/
theorem posting_of_unposted_proceed {s : State} {id : Nat} {phase : Phase} {c : Command}
    (hcan : s.canProceed phase = true) (h : (s.proceed id phase).unposted? id = some c) :
    phase = .posting c := by
  cases phase with
  | posting c' =>
    simp only [proceed] at h
    split at h
    · cases (unposted?_move_self s id _).symm.trans h
      rfl
    · cases (unposted?_move_self (s.modify id _) id _).symm.trans h
  | admitted c' =>
    cases c' <;>
      cases (unposted?_move_self { s with mailbox := s.mailbox ++ [_] } id _).symm.trans h
  | waiting => cases (unposted?_move_self s id _).symm.trans h
  | _ => cases hcan

theorem postsNoMore_abandon (s : State) (id : Nat) : s.PostsNoMore (s.abandon id) := by
  intro n c hn
  have hcallers : (s.abandon id).callers = Numbered.erase id s.callers := by
    simp only [abandon]
    split <;> rfl
  rw [unposted?, phase?, hcallers] at hn
  by_cases hid : n = id
  · simp [hid] at hn
  · rwa [Numbered.lookup_erase_of_ne hid] at hn

/-- Who has a command to post had it before and did not post it, or has just made its call. -/
theorem unposted_next {s : State} {a : Action} {n : Nat} {c : Command}
    (henabled : s.enabled a = true) (h : (s.next a).unposted? n = some c) :
    (s.unposted? n = some c ∧ (a = .proceed n → s.phase? n = some (.posting c))) ∨
      ∃ call, a = .call n call ∧ (s.begin n call).unposted? n = some c := by
  have keeps (hkeeps : s.PostsNoMore (s.next a)) (ha : ∀ id, a ≠ .proceed id) :
      s.unposted? n = some c ∧ (a = .proceed n → s.phase? n = some (.posting c)) :=
    ⟨hkeeps n c h, fun hproceed => absurd hproceed (ha n)⟩
  cases a with
  | call id call =>
    by_cases hid : n = id
    · subst hid
      exact .inr ⟨call, rfl, h⟩
    · exact .inl ⟨(unposted?_of_phase? (phase?_begin_of_ne hid s call)).symm.trans h, by simp⟩
  | proceed id =>
    obtain ⟨phase, hphase, hcan⟩ := (Option.any_eq_true _ _).1 henabled
    have hnext : s.next (.proceed id) = s.proceed id phase := by simp only [next, hphase]
    rw [hnext] at h
    by_cases hid : n = id
    · subst hid
      cases posting_of_unposted_proceed hcan h
      exact .inl ⟨unposted?_eq hphase, fun _ => hphase⟩
    · refine .inl ⟨(unposted?_of_phase? (phase?_proceed_of_ne hid s phase)).symm.trans h, ?_⟩
      rintro ⟨⟩
      exact absurd rfl hid
  | abandon id => exact .inl (keeps (s.postsNoMore_abandon id) (by simp))
  | handle =>
    refine .inl (keeps ?_ (by simp))
    simp only [next]
    split
    · exact PostsNoMore.perform (t := { s with mailbox := _ }) (fun _ _ h => h) _
    · exact fun _ _ h => h
  | conclude =>
    exact .inl (keeps (PostsNoMore.foldl_fail
      (t := { s with task := .ended, mailbox := [] }) (fun _ _ h => h) _) (by simp))
  | write m =>
    refine .inl (keeps ?_ (by simp))
    simp only [next, write]
    split <;> exact fun _ _ h => h
  | _ => exact .inl (keeps (fun _ _ h => h) (by simp))

/-! ### Steps -/

variable {s s' : State} {a : Action} {c : Nat}

/-- A subscriber does not vanish, and only its own call brings it into being. -/
theorem Change.eq_none (h : Change c s a s') (hnone : s'.subscriber? c = none) :
    s.subscriber? c = none ∧ ∀ k, a ≠ .call c (.subscribe k) := by
  cases h with
  | spared hquiet hspared =>
    obtain ⟨f, -, heq⟩ := hspared
    exact ⟨Option.map_eq_none_iff.1 (heq.symm.trans hnone), hquiet.2.2.2⟩
  | opened _ hsome => cases hsome.symm.trans hnone
  | received heq => exact ⟨Option.map_eq_none_iff.1 (heq.symm.trans hnone), nofun⟩
  | handled _ heq => exact ⟨Option.map_eq_none_iff.1 (heq.symm.trans hnone), nofun⟩
  | left heq => exact ⟨Option.map_eq_none_iff.1 (heq.symm.trans hnone), nofun⟩

/-- Registrations come and go by commands, until they go all at once. -/
theorem Change.registered_eq (h : Change c s a s') (ha : a ≠ .handle) :
    s'.registered = if a = .leave then [] else s.registered := by
  cases h with
  | spared hquiet _ hregistered =>
    rw [if_neg hquiet.2.2.1]
    exact hregistered
  | opened _ _ hregistered => exact hregistered
  | received _ hregistered => exact hregistered
  | handled => exact absurd rfl ha
  | left _ hregistered => exact hregistered

/-- A registration is posted by a caller. -/
theorem MailFlow.of_register_mem (h : MailFlow s a s')
    (hc : .register c ∈ Transition.posted ⟨s, a, s'⟩) :
    ∃ n, a = .proceed n ∧ s.phase? n = some (.admitted (.register c)) := by
  cases h with
  | kept _ hmailbox => simp [Transition.posted, hmailbox] at hc
  | written _ hmailbox => simp [Transition.posted, hmailbox] at hc
  | @posted id command _ hphase hmailbox =>
    have hcommand : .register c = command := by simpa [Transition.posted, hmailbox] using hc
    exact ⟨id, rfl, hcommand ▸ hphase⟩
  | handled hmailbox =>
    have hposted : Transition.posted ⟨s, .handle, s'⟩ = [] :=
      List.drop_eq_nil_of_le (by simp [hmailbox])
    simp [hposted] at hc
  | cleared hmailbox => simp [Transition.posted, hmailbox] at hc

/-- A step posts one command at the most. -/
theorem MailFlow.length_posted_le (h : MailFlow s a s') :
    (Transition.posted ⟨s, a, s'⟩).length ≤ 1 := by
  cases h with
  | kept _ hmailbox => simp [Transition.posted, hmailbox]
  | written _ hmailbox => simp [Transition.posted, hmailbox]
  | posted _ hmailbox => simp [Transition.posted, hmailbox]
  | handled hmailbox => simp [Transition.posted, hmailbox]
  | cleared hmailbox => simp [Transition.posted, hmailbox]

theorem nodup_perform {command : Command} (h : s.registered.Nodup)
    (hfresh : ∀ id, command = .register id → id ∉ s.registered) :
    (s.perform command).registered.Nodup := by
  cases command with
  | register id =>
    simp only [perform]
    split
    · rw [registered_acknowledge]
      exact h
    · rw [registered_acknowledge]
      have hconcat := List.Nodup.concat (hfresh id rfl) h
      rwa [List.concat_eq_append] at hconcat
  | unregister id =>
    simp only [perform]
    split
    · exact h.filter _
    · exact h
  | broadcast m =>
    obtain ⟨_, _, _, heq, hsub⟩ := s.broadcast_frame s.registered m
    have hperform : s.perform (.broadcast m) = _ := heq
    rw [hperform]
    exact h.sublist hsub
  | count id =>
    rw [perform, registered_acknowledge]
    exact h

end State

/-! ### Registrations -/

/-- The registrations that were posted, and those that are in force. -/
structure Registrations (tr : Trace) (s : State) : Prop where
  /-- A caller posts its own registration, -/
  own : ∀ {n c}, s.unposted? n = some (.register c) → c = n
  /-- for a subscriber that exists, -/
  known : ∀ {c}, s.subscriber? c = none →
    .register c ∉ tr.posted ∧ s.unposted? c ≠ some (.register c)
  /-- and has not posted it before. -/
  unposted : ∀ {c}, s.unposted? c = some (.register c) → .register c ∉ tr.posted
  /-- So it is posted once at the most. -/
  once : ∀ c, tr.posted.count (.register c) ≤ 1
  /-- No subscriber is registered twice, -/
  nodup : s.registered.Nodup
  /-- and each asked for it. -/
  asked : ∀ {c}, c ∈ s.registered → .register c ∈ tr.handled.map Handling.command
  /-- One that was given up is not registered and cannot ask again. -/
  released : ∀ {c q}, s.subscriber? c = some q → q.held = false →
    c ∉ s.registered ∧ .register c ∈ tr.handled.map Handling.command

namespace Registrations

variable {tr : Trace} {s : State} {a : Action}

theorem initial (limits : Limits) : Registrations [] { limits } where
  own h := nomatch h
  known _ := ⟨List.not_mem_nil, nofun⟩
  unposted h := nomatch h
  once _ := Nat.zero_le _
  nodup := .nil
  asked h := nomatch h
  released h := nomatch h

/-- Who is registered has a queue. -/
theorem present (h : Registrations tr s) (hmail : Mail tr s) {c : Nat} (hmem : c ∈ s.registered) :
    (s.subscriber? c).isSome = true := by
  by_contra hnone
  rw [Bool.not_eq_true, Option.isSome_eq_false_iff, Option.isNone_iff_eq_none] at hnone
  exact (h.known hnone).1 (hmail.inOrder.subset (h.asked hmem))

/-- A registration that comes out of the mailbox is the first of its subscriber. -/
theorem fresh (h : Registrations tr s) (hmail : Mail tr s) {c : Nat} {rest : List Command}
    (hrunning : s.task = .running) (hmailbox : s.mailbox = .register c :: rest) :
    .register c ∉ tr.handled.map Handling.command := by
  have hwaiting := hmail.waiting (by rw [hrunning]; exact nofun)
  have honce := h.once c
  rw [hwaiting, hmailbox, List.count_append, List.count_cons_self] at honce
  exact List.count_eq_zero.1 (by omega)

/-- Whom a command leaves registered asked for it before, or asks with the command. -/
theorem asked_of_keeps (h : Registrations tr s) {command : Command} {c : Nat}
    (hkeeps : s.Keeps c command) :
    .register c ∈ tr.handled.map Handling.command ∨ command = .register c := by
  cases command with
  | register id =>
    rcases hkeeps with hmem | ⟨rfl, -⟩
    · exact .inl (h.asked hmem)
    · exact .inr rfl
  | count => exact .inl (h.asked hkeeps)
  | _ => exact .inl (h.asked hkeeps.1)

/-- One that a command gives up, or that was given up before, is not registered after it. -/
theorem not_keeps_of_released (h : Registrations tr s) {command : Command} {c : Nat}
    {q : Subscriber}
    (hfresh : ∀ id, command = .register id → .register id ∉ tr.handled.map Handling.command)
    (hq : s.subscriber? c = some q) (hheld : (s.treat c command q).held = false) :
    ¬ s.Keeps c command ∧
      (.register c ∈ tr.handled.map Handling.command ∨ command = .register c) := by
  cases command with
  | register id =>
    by_cases hrefused : c = id ∧ s.limits.maxSubscribers ≤ s.registered.length
    · -- the registration is refused, and there was none before
      obtain ⟨rfl, hfull⟩ := hrefused
      refine ⟨?_, .inr rfl⟩
      rintro (hmem | ⟨-, hroom⟩)
      · exact hfresh c rfl (h.asked hmem)
      · omega
    · obtain ⟨hout, hasked⟩ := h.released hq (by simpa [State.treat, hrefused] using hheld)
      refine ⟨?_, .inl hasked⟩
      rintro (hmem | ⟨rfl, -⟩)
      · exact hout hmem
      · exact hfresh c rfl hasked
  | unregister id =>
    by_cases hremoved : c = id ∧ c ∈ s.registered
    · exact ⟨fun hkeeps => hkeeps.2 hremoved.1, .inl (h.asked hremoved.2)⟩
    · obtain ⟨hout, hasked⟩ := h.released hq (by simpa [State.treat, hremoved] using hheld)
      exact ⟨fun hkeeps => hout hkeeps.1, .inl hasked⟩
  | broadcast m =>
    by_cases hmem : c ∈ s.registered
    · refine ⟨fun hkeeps => ?_, .inl (h.asked hmem)⟩
      -- one that takes the message stays held
      have htakes := hkeeps.2 q hq
      refine (h.released hq ?_).1 hmem
      simpa [State.treat, hmem, Subscriber.handed, htakes] using hheld
    · obtain ⟨hout, hasked⟩ := h.released hq (by simpa [State.treat, hmem] using hheld)
      exact ⟨fun hkeeps => hout hkeeps.1, .inl hasked⟩
  | count id =>
    obtain ⟨hout, hasked⟩ := h.released hq hheld
    exact ⟨hout, .inl hasked⟩

theorem next (h : Registrations tr s) (hmail : Mail tr s) (henabled : s.enabled a = true) :
    Registrations (tr ++ [⟨s, a, s.next a⟩]) (s.next a) := by
  have hflow := State.mailFlow_next henabled
  have hchange := State.change_next h.nodup henabled
  have hfresh {id rest} (ha : a = .handle) (hmailbox : s.mailbox = .register id :: rest) :
      .register id ∉ tr.handled.map Handling.command := by
    refine h.fresh hmail ?_ hmailbox
    simp_all [State.enabled]
  -- what is posted now as a registration was not posted before
  have hposts {c} (hc : .register c ∈ Transition.posted ⟨s, a, s.next a⟩) :
      a = .proceed c ∧ s.phase? c = some (.admitted (.register c)) := by
    obtain ⟨n, ha, hphase⟩ := hflow.of_register_mem hc
    cases h.own (State.unposted?_eq hphase)
    exact ⟨ha, hphase⟩
  have hunposted {c} (hc : .register c ∈ Transition.posted ⟨s, a, s.next a⟩) :
      s.unposted? c = some (.register c) :=
    State.unposted?_eq (hposts hc).2
  constructor
  case own =>
    intro n c hpost
    rcases State.unposted_next henabled hpost with ⟨hold, -⟩ | ⟨call, -, hnew⟩
    · exact h.own hold
    · exact (State.eq_of_begin_unposted hnew).1
  case known =>
    intro c hnone
    -- a subscriber that does not exist now did not exist before
    obtain ⟨hbefore, hcall⟩ := (hchange c).eq_none hnone
    obtain ⟨hposted, hnothing⟩ := h.known hbefore
    rw [Trace.posted_concat, List.mem_append, not_or]
    refine ⟨⟨hposted, fun hc => hnothing (hunposted hc)⟩, fun hpost => ?_⟩
    rcases State.unposted_next henabled hpost with ⟨hold, -⟩ | ⟨call, rfl, hnew⟩
    · exact hnothing hold
    · obtain ⟨-, k, rfl⟩ := State.eq_of_begin_unposted hnew
      exact hcall k rfl
  case unposted =>
    intro c hpost
    rw [Trace.posted_concat, List.mem_append, not_or]
    rcases State.unposted_next henabled hpost with ⟨hold, hwaited⟩ | ⟨call, rfl, -⟩
    · -- who posts its command has got room before
      refine ⟨h.unposted hold, fun hc => ?_⟩
      obtain ⟨hproceed, hphase⟩ := hposts hc
      cases (hwaited hproceed).symm.trans hphase
    · have hnone : s.subscriber? c = none := by simp_all [State.enabled]
      refine ⟨(h.known hnone).1, fun hc => ?_⟩
      cases (hposts hc).1
  case once =>
    intro c
    rw [Trace.posted_concat, List.count_append]
    -- a registration that is posted now was not posted before, and a step posts one at the most
    by_cases hc : .register c ∈ Transition.posted ⟨s, a, s.next a⟩
    · have hbefore := List.count_eq_zero.2 (h.unposted (hunposted hc))
      have hnow := List.count_le_length (a := Command.register c)
        (l := Transition.posted ⟨s, a, s.next a⟩)
      have hlength := hflow.length_posted_le
      omega
    · rw [List.count_eq_zero.2 hc]
      exact h.once c
  case nodup =>
    by_cases ha : a = .handle
    · subst ha
      obtain ⟨command, rest, hmailbox, hnext⟩ := State.exists_next_handle henabled
      rw [hnext]
      refine State.nodup_perform h.nodup ?_
      rintro id rfl hmem
      exact hfresh rfl hmailbox (h.asked hmem)
    · rw [(hchange 0).registered_eq ha]
      split
      · exact .nil
      · exact h.nodup
  case asked =>
    intro c hmem
    rw [Trace.handled_concat, List.map_append, List.mem_append]
    cases hchange c with
    | @handled command rest _ hmailbox _ hregistered =>
      rw [Transition.handled_of_mailbox hmailbox]
      refine (h.asked_of_keeps (hregistered.1 hmem)).imp_right ?_
      rintro rfl
      exact List.mem_singleton.2 rfl
    | left _ hregistered => simp [hregistered] at hmem
    | spared _ _ hregistered => exact .inl (h.asked (hregistered ▸ hmem))
    | opened _ _ hregistered => exact .inl (h.asked (hregistered ▸ hmem))
    | received _ hregistered => exact .inl (h.asked (hregistered ▸ hmem))
  case released =>
    intro c q' hsome hheld
    rw [Trace.handled_concat, List.map_append, List.mem_append]
    cases hchange c with
    | spared _ hspared hregistered =>
      -- what the client does alone does not touch the end of the hub
      obtain ⟨f, hf, heq⟩ := hspared
      obtain ⟨q, hq, rfl⟩ := Option.map_eq_some_iff.1 (heq.symm.trans hsome)
      obtain ⟨hout, hasked⟩ := h.released hq (hf.held_eq q ▸ hheld)
      exact ⟨hregistered ▸ hout, .inl hasked⟩
    | opened _ heq =>
      cases heq.symm.trans hsome
      cases hheld
    | received heq hregistered =>
      obtain ⟨q, hq, rfl⟩ := Option.map_eq_some_iff.1 (heq.symm.trans hsome)
      obtain ⟨hout, hasked⟩ := h.released hq (q.held_receive ▸ hheld)
      exact ⟨hregistered ▸ hout, .inl hasked⟩
    | left heq hregistered =>
      -- nobody stays registered, and who was given up only now was registered
      obtain ⟨q, hq, rfl⟩ := Option.map_eq_some_iff.1 (heq.symm.trans hsome)
      refine ⟨by simp [hregistered], .inl ?_⟩
      by_cases hc : c ∈ s.registered
      · exact h.asked hc
      · exact (h.released hq (by simpa [hc] using hheld)).2
    | @handled command rest _ hmailbox heq hregistered =>
      obtain ⟨q, hq, rfl⟩ := Option.map_eq_some_iff.1 (heq.symm.trans hsome)
      have hcommand : ∀ id, command = .register id →
          .register id ∉ tr.handled.map Handling.command := by
        rintro id rfl
        exact hfresh rfl hmailbox
      obtain ⟨hout, hasked⟩ := h.not_keeps_of_released hcommand hq hheld
      rw [hregistered, Transition.handled_of_mailbox hmailbox]
      refine ⟨hout, hasked.imp_right ?_⟩
      rintro rfl
      exact List.mem_singleton.2 rfl

end Registrations

end SyslogCollector.Hub
