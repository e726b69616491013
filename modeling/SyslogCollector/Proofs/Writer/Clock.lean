import SyslogCollector.Proofs.Writer.Ledger
/-!
# Runs in virtual time

By themselves the steps of a writer let time pass at any moment, also while somebody could go on. In
virtual time it passes only while everybody waits, and not beyond the next moment at which somebody
can go on (`Prompt`). `TimedRun` is a run of this kind, with the moments at which writes were called
and at which their points came into the buffer.
-/

namespace SyslogCollector.Store.Writer

/-- Whether somebody goes on by an action. The others come from outside: calls and the ends of
callers, starting and stopping, and the time. -/
def Action.isProgress : Action → Bool
  | .proceed _ | .expire _ | .leave | .serve | .tick | .work => true
  | _ => false

namespace State

variable {σ : Type}

/-- Whether nobody can go on. -/
def Rests (s : State σ) : Prop :=
  ∀ a, a.isProgress = true → s.enabled a = false

/-- Whether an action keeps to virtual time. -/
def Prompt (s : State σ) : Action → Prop
  | .pass nanos => ∀ n < nanos, Rests { s with now := s.now + n }
  | _ => True

/-! ### A test -/

/-- Whether everybody waits, and nobody for a moment before the given one. -/
def restsUntil (s : State σ) (moment : Moment) : Bool :=
  (s.callers.all fun c =>
    !(s.phase? c.1).any (s.canProceed c.1) &&
      ((s.phase? c.1).bind Phase.deadline?).all (moment ≤ ·)) &&
    !(s.task == .idle && (s.stopping || !s.requests.isEmpty || s.nextTick < moment)) && !s.canWork

/-- Whether an action passes the test. -/
def isPrompt (s : State σ) : Action → Bool
  | .pass nanos => s.restsUntil (s.now + nanos)
  | _ => true

theorem canProceed_at (s : State σ) (moment : Moment) (id : Nat) (phase : Phase) :
    State.canProceed { s with now := moment } id phase = s.canProceed id phase := by
  cases phase <;> rfl

/-- A caller that passes the test cannot go on, and will not give up before the moment. -/
theorem canProceed_of_restsUntil {s : State σ} {moment : Moment} (h : s.restsUntil moment = true)
    {id : Nat} {phase : Phase} (hphase : s.phase? id = some phase) :
    s.canProceed id phase = false ∧
      ∀ deadline, phase.deadline? = some deadline → moment ≤ deadline := by
  simp only [restsUntil, Bool.and_eq_true, List.all_eq_true] at h
  obtain ⟨hcan, hdeadline⟩ := h.1.1 _ (Numbered.mem_of_lookup_eq_some hphase)
  simp only [hphase, Option.any_some, Option.bind_some, Bool.not_eq_true'] at hcan hdeadline
  refine ⟨hcan, fun deadline hd => ?_⟩
  simpa [hd] using hdeadline

/-- What passes the test keeps to virtual time. -/
theorem Prompt.of_isPrompt {s : State σ} {a : Action} (h : s.isPrompt a = true) : s.Prompt a := by
  cases a with
  | pass nanos =>
    have hcaller {id : Nat} {phase : Phase} (hphase : s.phase? id = some phase) :=
      canProceed_of_restsUntil h hphase
    simp only [isPrompt, restsUntil, Bool.and_eq_true, Bool.not_eq_true'] at h
    obtain ⟨⟨-, htask⟩, hwork⟩ := h
    intro n hn a hprogress
    -- whether a caller can go on does not depend on the time, whether it gives up does
    cases a with
    | proceed id =>
      change ((s.phase? id).any fun phase => State.canProceed _ id phase) = false
      cases hphase : s.phase? id with
      | none => rfl
      | some phase => exact (canProceed_at s _ id phase).trans (hcaller hphase).1
    | expire id =>
      change ((s.phase? id).bind Phase.deadline?).any (· ≤ s.now + n) = false
      cases hphase : s.phase? id with
      | none => rfl
      | some phase =>
        cases hd : phase.deadline? with
        | none => simp [hd]
        | some deadline =>
          have hlater : s.now + n < deadline :=
            Nat.lt_of_lt_of_le (Nat.add_lt_add_left hn _) ((hcaller hphase).2 deadline hd)
          simp only [Option.bind_some, hd, Option.any_some, decide_eq_false_iff_not]
          exact Nat.not_le.2 hlater
    | leave | serve =>
      cases hidle : s.task == .idle <;> simp_all [enabled]
    | tick =>
      cases hidle : s.task == .idle with
      | false => simp [enabled, hidle]
      | true =>
        simp only [hidle, Bool.true_and, Bool.or_eq_false_iff, decide_eq_false_iff_not] at htask
        have hlater : s.now + n < s.nextTick :=
          Nat.lt_of_lt_of_le (Nat.add_lt_add_left hn _) (Nat.not_lt.1 htask.2)
        simp only [enabled, hidle, Bool.true_and, decide_eq_false_iff_not]
        exact Nat.not_le.2 hlater
    | work => exact hwork
    | call | abandon | openReader | start | stop | pass => cases hprogress
  | _ => exact trivial

end State

/-- When writes happened. -/
structure Timing where
  /-- The writes, and when they were called. -/
  called : List (Nat × Moment) := []
  /-- The writes that put their points into the buffer, and when. -/
  stored : List (Nat × Moment) := []
  /-- The writes that found no flush task to rely on after that. -/
  alone : List Nat := []

/-- The times after one more action. -/
def Timing.record {σ : Type} (g : Timing) (s : State σ) : Action → Timing
  | .call id c =>
    { called := match c with
        | .write .. => Numbered.assign id s.now g.called
        | _ => Numbered.erase id g.called
      stored := Numbered.erase id g.stored
      alone := g.alone.filter (· != id) }
  | .proceed id =>
    match s.phase? id with
    | some (.pushing _) => { g with stored := Numbered.assign id s.now g.stored }
    | some (.pushed _) => if s.running then g else { g with alone := id :: g.alone }
    | _ => g
  | _ => g

/-- A run in virtual time, with its times. -/
inductive TimedRun {σ : Type} (B : Backend σ) (t : Tuning) (start : State σ) :
    Timing → State σ → Prop
  /-- A run of no steps. -/
  | refl : TimedRun B t start {} start
  /-- One step more. -/
  | step {g : Timing} {s s' : State σ} {a : Action} :
      TimedRun B t start g s → s.Step B t a s' → s.Prompt a →
        TimedRun B t start (g.record s a) s'

section

variable {σ : Type} {B : Backend σ} {t : Tuning} {start : State σ}

/-- Carries out a list of actions, if all of them are possible in their turn and keep to virtual
time. -/
def TimedRun.play (B : Backend σ) (t : Tuning) :
    List Action → Timing → State σ → Option (Timing × State σ)
  | [], g, s => some (g, s)
  | a :: rest, g, s =>
    if s.enabled a && s.isPrompt a then play B t rest (g.record s a) (s.next B t a) else none

/-- What is carried out after a run is a run. -/
theorem TimedRun.of_play {actions : List Action} {g g' : Timing} {s s' : State σ}
    (h : TimedRun B t start g s) (hplay : play B t actions g s = some (g', s')) :
    TimedRun B t start g' s' := by
  induction actions generalizing g s with
  | nil =>
    cases hplay
    exact h
  | cons a rest ih =>
    unfold play at hplay
    split at hplay
    · rename_i hpossible
      rw [Bool.and_eq_true] at hpossible
      exact ih (h.step ⟨hpossible.1, rfl⟩ (.of_isPrompt hpossible.2)) hplay
    · cases hplay

theorem TimedRun.reachable {g : Timing} {s : State σ} (h : TimedRun B t start g s) :
    State.Reachable B t start s := by
  induction h with
  | refl => exact .refl
  | step _ hstep _ ih => exact .step ih hstep

theorem TimedRun.held {store : σ} {g : Timing} {s : State σ}
    (h : TimedRun B t { store } g s) : s.Held :=
  h.reachable.held

end

end SyslogCollector.Store.Writer
