import SyslogCollector.Proofs.Writer.Clock
import SyslogCollector.Proofs.Writer.Producers
import SyslogCollector.Store.Writer.Session
/-!
# How long a write can take

In virtual time a write whose point is in the buffer has come to its end when the time limit of a
forced flush is over, unless it flushes the buffer itself because it found no flush task. Before
that it waits for the buffer. A write that waits for the buffer, or flushes it itself, while nobody
can go on waits for a batch that the store never answers (`write_waits_only_for_hung_store`); such a
batch can keep it longer than the limit (`write_outlasts_timeout`).
-/

namespace SyslogCollector.Store.Writer

/-- The phases of a caller that relies on the flush task and gives up at a deadline. -/
inductive Phase.Forced (deadline : Moment) : Phase → Prop
  | requesting : Forced deadline (.requesting deadline)
  | admitted : Forced deadline (.admitted deadline)
  | awaiting : Forced deadline (.awaiting deadline)
  | flushing : Forced deadline (.flushing (some deadline) .result)

theorem Phase.Forced.deadline?_eq {deadline : Moment} {phase : Phase} (h : phase.Forced deadline) :
    phase.deadline? = some deadline := by
  cases h <;> rfl

/-- Where a write that was called at a moment can stand, by when it put its point into the buffer
and whether it found no flush task then. -/
inductive Punctual (t : Tuning) (now called : Moment) (alone : Prop) :
    Option Moment → Phase → Prop
  | pushing (p : Point) (hcalled : called ≤ now) : Punctual t now called alone none (.pushing p)
  | pushed (size : Nat) (hcalled : called ≤ now) :
      Punctual t now called alone (some now) (.pushed size)
  | forced {stored : Moment} {phase : Phase} (hcalled : called ≤ stored)
      (hforced : phase.Forced (stored + t.flushTimeout.nanos))
      (hnow : now ≤ stored + t.flushTimeout.nanos) :
      Punctual t now called alone (some stored) phase
  | flushing {stored : Moment} (hcalled : called ≤ stored) (halone : alone) :
      Punctual t now called alone (some stored) (.flushing none .result)
  | returned (stored? : Option Moment) (outcome : Outcome) :
      Punctual t now called alone stored? (.returned outcome)

/-- Whom the flush task releases stays within its time. -/
theorem Punctual.released {t : Tuning} {now called : Moment} {alone : Prop}
    {stored? : Option Moment} {phase after : Phase} (h : Punctual t now called alone stored? phase)
    (hreleased : phase.Released after) : Punctual t now called alone stored? after := by
  cases hreleased with
  | kept => exact h
  | answered deadline result => exact .returned _ _
  | dismissed deadline =>
    cases h with
    | forced hcalled hforced hnow =>
      cases hforced with
      | awaiting => exact .forced hcalled .flushing hnow

namespace State

variable {σ : Type} {B : Backend σ} {t : Tuning} {s : State σ}

/-- A producer that requests a flush gives up when the time limit is over. -/
theorem deadline_of_requesting {id size : Nat} {deadline : Moment}
    (hphase : s.phase? id = some (.pushed size))
    (hafter : (s.next B t (.proceed id)).phase? id = some (.requesting deadline)) :
    deadline = s.now + t.flushTimeout.nanos := by
  simp only [next, hphase, proceed, afterPush] at hafter
  split at hafter
  · cases (phase?_finish_self _ id _).symm.trans hafter
  · split at hafter
    · cases (phase?_move_self _ id _).symm.trans hafter
      rfl
    · cases (phase?_move_self _ id _).symm.trans hafter

/-- A producer flushes the buffer itself if no flush task runs. -/
theorem not_running_of_flushing {id size : Nat} (hphase : s.phase? id = some (.pushed size))
    (hafter : (s.next B t (.proceed id)).phase? id = some (.flushing none .result)) :
    s.running = false := by
  simp only [next, hphase, proceed, afterPush] at hafter
  split at hafter
  · cases (phase?_finish_self _ id _).symm.trans hafter
  · split at hafter
    · cases (phase?_move_self _ id _).symm.trans hafter
    · rename_i hrunning
      exact eq_false_of_ne_true hrunning

end State

/-! ### One step -/

section

variable {σ : Type} {B : Backend σ} {t : Tuning} {g : Timing} {s : State σ} {a : Action}
  {called : Moment} {alone : Prop} {stored? : Option Moment} {id : Nat} {phase : Phase}

/-- Time does not pass a deadline, nor while a producer has yet to count its point. -/
theorem Punctual.pass {nanos : Nat} (h : Punctual t s.now called alone stored? phase)
    (hphase : s.phase? id = some phase) (hprompt : s.Prompt (.pass nanos)) :
    Punctual t (s.now + nanos) called alone stored? phase := by
  cases h with
  | pushing p hcalled => exact .pushing p (Nat.le_trans hcalled (Nat.le_add_right _ _))
  | pushed size hcalled =>
    cases nanos with
    | zero => exact .pushed size hcalled
    | succ n =>
      -- it could go on at once
      have hrests := hprompt 0 (Nat.succ_pos n) (.proceed id) rfl
      have hcan : (s.phase? id).any (s.canProceed id) = false := hrests
      simp [hphase, State.canProceed] at hcan
  | @forced stored phase hcalled hforced hnow =>
    refine .forced hcalled hforced (Nat.not_lt.1 fun hlate => ?_)
    -- it could give up at its deadline, which is before the end of the pass
    have hbefore := Nat.sub_lt_left_of_lt_add hnow hlate
    have hrests := hprompt (stored + t.flushTimeout.nanos - s.now) hbefore (.expire id) rfl
    have hexpire : ((s.phase? id).bind Phase.deadline?).any
        (· ≤ s.now + (stored + t.flushTimeout.nanos - s.now)) = false := hrests
    rw [hphase, Option.bind_some, hforced.deadline?_eq, Option.any_some,
      Nat.add_sub_cancel' hnow] at hexpire
    simp at hexpire
  | flushing hcalled halone => exact .flushing hcalled halone
  | returned stored? outcome => exact .returned _ _

/-- Only the steps of a producer with its point are noted. -/
theorem Timing.record_proceed (hphase : s.phase? id = some phase)
    (hpoint : phase.point? = none) (hpushed : phase.isPushed = false) :
    g.record s (.proceed id) = g := by
  cases phase with
  | pushing p => cases hpoint
  | pushed size => cases hpushed
  | _ => simp [Timing.record, hphase]

/-- The own next step of a write. -/
theorem Punctual.proceed
    (h : Punctual t s.now called (id ∈ g.alone) (g.stored.lookup id) phase)
    (hphase : s.phase? id = some phase) (henabled : s.enabled (.proceed id) = true)
    {after : Phase} (hafter : (s.next B t (.proceed id)).phase? id = some after)
    (hnext : phase.Next after) :
    Punctual t s.now called (id ∈ (g.record s (.proceed id)).alone)
      ((g.record s (.proceed id)).stored.lookup id) after := by
  have hcan : s.canProceed id phase = true := by
    simpa [State.enabled, hphase] using henabled
  generalize hstored : g.stored.lookup id = stored? at h
  cases h with
  | pushing p hcalled =>
    -- the point comes into the buffer now
    have hrecord : (g.record s (.proceed id)).stored.lookup id = some s.now := by
      simp [Timing.record, hphase]
    rw [hrecord]
    cases hnext with
    | pushed _ size => exact .pushed size hcalled
  | pushed size hcalled =>
    have hrecord : (g.record s (.proceed id)).stored.lookup id = some s.now := by
      simp only [Timing.record, hphase]
      split <;> exact hstored
    rw [hrecord]
    cases hnext with
    | stored => exact .returned _ _
    | requesting _ deadline =>
      -- the time limit starts at the moment at which the point came into the buffer
      obtain rfl := State.deadline_of_requesting hphase hafter
      exact .forced hcalled .requesting (Nat.le_add_right _ _)
    | flushing =>
      refine .flushing hcalled ?_
      simp [Timing.record, hphase, State.not_running_of_flushing hphase hafter]
  | forced hcalled hforced hnow =>
    -- the deadline goes with the caller from phase to phase
    cases hforced with
    | requesting =>
      rw [Timing.record_proceed hphase rfl rfl, hstored]
      cases hnext with
      | admitted => exact .forced hcalled .admitted hnow
      | refused => exact .forced hcalled .flushing hnow
    | admitted =>
      rw [Timing.record_proceed hphase rfl rfl, hstored]
      cases hnext with
      | awaiting => exact .forced hcalled .awaiting hnow
    | awaiting => cases hcan
    | flushing =>
      rw [Timing.record_proceed hphase rfl rfl, hstored]
      cases hnext with
      | submitted => exact .forced hcalled .flushing hnow
      | flushed => exact .returned _ _
  | flushing hcalled halone =>
    rw [Timing.record_proceed hphase rfl rfl, hstored]
    cases hnext with
    | submitted => exact .flushing hcalled halone
    | flushed => exact .returned _ _
  | returned => cases hcan

/-- What is noted of one write is not touched by the actions of others. -/
theorem Timing.record_of_ne (hown : a.caller? ≠ some id) :
    (g.record s a).called.lookup id = g.called.lookup id ∧
      (g.record s a).stored.lookup id = g.stored.lookup id ∧
      (id ∈ (g.record s a).alone ↔ id ∈ g.alone) := by
  cases a with
  | call c call =>
    have hne : id ≠ c := fun h => hown (congrArg some h.symm)
    refine ⟨?_, Numbered.lookup_erase_of_ne hne _, by simp [Timing.record, hne]⟩
    cases call with
    | write => exact Numbered.lookup_assign_of_ne hne _ _
    | flush | count | read | wait => exact Numbered.lookup_erase_of_ne hne _
  | proceed c =>
    have hne : id ≠ c := fun h => hown (congrArg some h.symm)
    simp only [Timing.record]
    split
    · exact ⟨rfl, Numbered.lookup_assign_of_ne hne _ _, Iff.rfl⟩
    · split
      · exact ⟨rfl, rfl, Iff.rfl⟩
      · exact ⟨rfl, rfl, by simp [hne]⟩
    · exact ⟨rfl, rfl, Iff.rfl⟩
  | expire | abandon | openReader | start | stop | leave | serve | tick | work | pass =>
    exact ⟨rfl, rfl, Iff.rfl⟩

/-- Every write stands where its times allow. -/
def Timely (t : Tuning) (g : Timing) (s : State σ) : Prop :=
  ∀ id phase called, g.called.lookup id = some called → s.phase? id = some phase →
    Punctual t s.now called (id ∈ g.alone) (g.stored.lookup id) phase

/-- A step of a write itself. -/
theorem Timely.next_own (h : Timely t g s) (henabled : s.enabled a = true)
    (hown : a.caller? = some id) (hcalled : (g.record s a).called.lookup id = some called)
    (hphase : (s.next B t a).phase? id = some phase) :
    Punctual t s.now called (id ∈ (g.record s a).alone) ((g.record s a).stored.lookup id)
      phase := by
  cases a with
  | call c call =>
    obtain rfl : c = id := Option.some.inj hown
    obtain ⟨first, hfirst, hcall⟩ := s.first_begin c call
    obtain rfl : first = phase := Option.some.inj (hfirst.symm.trans hphase)
    cases hcall with
    | pushing received =>
      obtain rfl : s.now = called := by simpa [Timing.record] using hcalled
      simp only [Timing.record, Numbered.lookup_erase_self]
      exact .pushing _ (Nat.le_refl _)
    | rejected => exact .returned _ _
    | flushing | counting | querying | read | waiting | waited =>
      -- the call is no write
      simp [Timing.record] at hcalled
  | proceed c =>
    obtain rfl : c = id := Option.some.inj hown
    obtain ⟨before, after, hbefore, hafter, hnext⟩ := State.exists_next_proceed B t henabled
    obtain rfl : after = phase := Option.some.inj (hafter.symm.trans hphase)
    have hcalled' : g.called.lookup c = some called := by
      simp only [Timing.record] at hcalled
      split at hcalled
      · exact hcalled
      · split at hcalled <;> exact hcalled
      · exact hcalled
    exact (h c before called hcalled' hbefore).proceed hbefore henabled hafter hnext
  | expire c =>
    obtain rfl : c = id := Option.some.inj hown
    obtain rfl : _ = phase := Option.some.inj ((State.phase?_expire_self t s c).symm.trans hphase)
    exact .returned _ _
  | abandon c =>
    obtain rfl : c = id := Option.some.inj hown
    cases (State.phase?_abandon_self s c).symm.trans hphase
  | openReader | start | stop | leave | serve | tick | work | pass => cases hown

theorem Timely.next (h : Timely t g s) (henabled : s.enabled a = true) (hprompt : s.Prompt a) :
    Timely t (g.record s a) (s.next B t a) := by
  intro id phase called hcalled hphase
  by_cases hown : a.caller? = some id
  · have hnow : (s.next B t a).now = s.now := by
      refine State.now_next B t s ?_
      rintro nanos rfl
      cases hown
    rw [hnow]
    exact h.next_own henabled hown hcalled hphase
  · -- the others and the flush task can only release it, and the clock can only let time pass
    obtain ⟨hsamecalled, hsamestored, hsamealone⟩ := Timing.record_of_ne (g := g) (s := s) hown
    rw [hsamecalled] at hcalled
    rw [hsamestored, propext hsamealone]
    obtain ⟨before, hbefore, hreleased⟩ := State.exists_released_of_next hown hphase
    have hpunctual := h id before called hcalled hbefore
    by_cases hpass : ∃ nanos, a = .pass nanos
    · obtain ⟨nanos, rfl⟩ := hpass
      have hsame : before = phase := Option.some.inj (hbefore.symm.trans hphase)
      exact hsame ▸ hpunctual.pass hbefore hprompt
    · rw [State.now_next B t s fun nanos ha => hpass ⟨nanos, ha⟩]
      exact hpunctual.released hreleased

/-- Whether the store never answers the batch under way. -/
def State.Hung (s : State σ) : Prop :=
  ∃ f, s.flight = some f ∧ f.answer = .never

/-- When nobody can go on, a batch under way is one that is never answered. -/
theorem State.Rests.hung (hrests : s.Rests) (hheld : s.Held) (hflight : s.flight ≠ none) :
    s.Hung := by
  obtain ⟨f, hf⟩ := Option.ne_none_iff_exists'.1 hflight
  refine ⟨f, hf, Decidable.byContradiction fun hanswer => ?_⟩
  -- its party could go on
  obtain ⟨b, hturn⟩ := hheld f hf
  have henabled := hturn.enabled hf hanswer
  have hprogress : b.isProgress = true := by
    generalize f.holder = party at hturn
    cases hturn <;> rfl
  cases (hrests b hprogress).symm.trans henabled

theorem TimedRun.timely {store : σ} (h : TimedRun B t { store } g s) : Timely t g s := by
  induction h with
  | refl => exact fun _ _ _ hcalled => nomatch hcalled
  | step _ hstep hprompt ih =>
    obtain ⟨henabled, rfl⟩ := hstep
    exact ih.next henabled hprompt

/-- Whatever the store does, in virtual time a write that has not come to its end

* waits for the buffer,
* or put its point into it and is within the time limit of a forced flush, counted from then,
* or found no flush task to rely on and flushes the buffer itself.

If it waits for the buffer or flushes it itself while nobody can go on, the store never answers the
batch under way. -/
theorem write_waits_only_for_hung_store {store : σ} (h : TimedRun B t { store } g s)
    (hcalled : g.called.lookup id = some called) (hphase : s.phase? id = some phase)
    (hunfinished : ∀ outcome, phase ≠ .returned outcome) :
    ((∃ p, phase = .pushing p) ∧ (s.Rests → s.Hung)) ∨
      ∃ stored, g.stored.lookup id = some stored ∧ called ≤ stored ∧
        (s.now ≤ stored + t.flushTimeout.nanos ∨
          id ∈ g.alone ∧ phase = .flushing none .result ∧ (s.Rests → s.Hung)) := by
  have hpunctual := h.timely id phase called hcalled hphase
  generalize g.stored.lookup id = stored? at hpunctual ⊢
  -- who cannot take the buffer, or cannot flush it, finds a batch under way
  have hwaits (hfree : s.flight = none → s.canProceed id phase = true) : s.Rests → s.Hung := by
    intro hrests
    refine hrests.hung h.held fun hnone => ?_
    have hcan : (s.phase? id).any (s.canProceed id) = false := hrests (.proceed id) rfl
    rw [hphase, Option.any_some, hfree hnone] at hcan
    cases hcan
  cases hpunctual with
  | pushing p =>
    refine .inl ⟨⟨p, rfl⟩, hwaits fun hnone => ?_⟩
    simp [State.canProceed, State.isFree, hnone]
  | pushed size hle => exact .inr ⟨_, rfl, hle, .inl (Nat.le_add_right _ _)⟩
  | forced hle _ hnow => exact .inr ⟨_, rfl, hle, .inl hnow⟩
  | flushing hle halone =>
    refine .inr ⟨_, rfl, hle, .inr ⟨halone, rfl, hwaits fun hnone => ?_⟩⟩
    simp [State.canProceed, State.canFlush, hnone]
  | returned _ outcome => exact absurd rfl (hunfinished outcome)

/-- A time limit of 50 milliseconds, and every point forces a flush. -/
def hasty : Tuning :=
  { highWaterMark := 1, flushTimeout := .ofMillis 50 }

/-- A store that never answers the first batch. -/
def hungStore : PlannedStore :=
  { answers := [.never] }

/-- The first of two writes relies on the flush task, whose batch the store never answers, and has
come to its time limit. -/
theorem write_waits_only_for_hung_store_at_limit :
    ∃ g s deadline stored, TimedRun PlannedStore.backend hasty { store := hungStore } g s ∧
      s.phase? 0 = some (.awaiting deadline) ∧ s.now = hasty.flushTimeout.nanos ∧
      g.stored.lookup 0 = some stored ∧ s.now ≤ stored + hasty.flushTimeout.nanos := by
  obtain ⟨g, s, deadline, hplay, hcalled, hphase, hnow⟩ : ∃ g s deadline,
      TimedRun.play PlannedStore.backend hasty
        [.start, .call 0 (.writeOf "a" "first"), .proceed 0, .proceed 0, .proceed 0, .proceed 0,
          .serve, .work, .call 1 (.writeOf "a" "second"), .pass (.ofMillis 50 : Duration).nanos]
        {} { store := hungStore } = some (g, s) ∧
      g.called.lookup 0 = some 0 ∧ s.phase? 0 = some (.awaiting deadline) ∧
      s.now = hasty.flushTimeout.nanos := ⟨_, _, _, rfl, rfl, rfl, rfl⟩
  have hrun := TimedRun.refl.of_play hplay
  rcases write_waits_only_for_hung_store hrun hcalled hphase nofun with
    ⟨⟨p, hpushing⟩, -⟩ | ⟨stored, hstored, -, hlimit | ⟨-, hflushing, -⟩⟩
  · cases hpushing
  · exact ⟨g, s, deadline, stored, hrun, hphase, hnow, hstored, hlimit⟩
  · cases hflushing

/-- A write can take longer than the time limit of a forced flush: one that flushes the buffer
itself because the writer was never started, and one that waits for the buffer behind the batch of
the flush task. With one call after the other the first of these never comes to its end. -/
theorem write_outlasts_timeout :
    (∃ g s, TimedRun PlannedStore.backend hasty { store := hungStore } g s ∧
      g.called.lookup 0 = some 0 ∧ s.phase? 0 = some (.flushing none .result) ∧
      hasty.flushTimeout.nanos < s.now) ∧
    (∃ g s p, TimedRun PlannedStore.backend hasty { store := hungStore } g s ∧
      s.running = true ∧ g.called.lookup 1 = some 0 ∧ s.phase? 1 = some (.pushing p) ∧
      hasty.flushTimeout.nanos < s.now) ∧
    ((Session.call ⟨PlannedStore.backend, hasty, { store := hungStore }, 0⟩
      (.writeOf "a" "first")).1 = none) := by
  refine ⟨?_, ?_, rfl⟩
  · obtain ⟨g, s, hplay, hcalled, hphase, hlate⟩ : ∃ g s,
        TimedRun.play PlannedStore.backend hasty
          [.call 0 (.writeOf "a" "first"), .proceed 0, .proceed 0, .proceed 0,
            .pass ((.ofMillis 50 : Duration).nanos + 1)]
          {} { store := hungStore } = some (g, s) ∧
        g.called.lookup 0 = some 0 ∧ s.phase? 0 = some (.flushing none .result) ∧
        hasty.flushTimeout.nanos < s.now := ⟨_, _, rfl, rfl, rfl, by decide⟩
    exact ⟨g, s, TimedRun.refl.of_play hplay, hcalled, hphase, hlate⟩
  · obtain ⟨g, s, p, hplay, hrunning, hcalled, hphase, hlate⟩ : ∃ g s p,
        TimedRun.play PlannedStore.backend hasty
          [.start, .call 0 (.writeOf "a" "first"), .proceed 0, .proceed 0, .proceed 0, .proceed 0,
            .serve, .work, .call 1 (.writeOf "a" "second"),
            .pass (.ofMillis 50 : Duration).nanos, .expire 0, .pass 1]
          {} { store := hungStore } = some (g, s) ∧
        s.running = true ∧ g.called.lookup 1 = some 0 ∧ s.phase? 1 = some (.pushing p) ∧
        hasty.flushTimeout.nanos < s.now := ⟨_, _, _, rfl, rfl, rfl, rfl, by decide⟩
    exact ⟨g, s, p, TimedRun.refl.of_play hplay, hrunning, hcalled, hphase, hlate⟩

end

end SyslogCollector.Store.Writer
