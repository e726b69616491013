import SyslogCollector.Collector.Shutdown
import SyslogCollector.Proofs.Listener.Draining
import SyslogCollector.Proofs.Writer.Batches
import SyslogCollector.Proofs.Writer.Closing
/-!
# An orderly shutdown loses nothing

When a collector is down, its buffer is empty and every point that its writer accepted was handed
to the store once (`shutdown_loses_nothing`). Points may still come in while the flush task flushes
a last time, and after; what makes this safe is the order in which the collector waits. Once its
listener is drained nobody writes any more (`Orderly.not_pushing`), so the flush that the collector
then makes itself leaves the buffer empty for good.
-/

namespace SyslogCollector.Collector.Shutdown

open Listener (Source)
open Store (Backend Journal)
open Store.Writer (Ledger Closing Tuning)

/-- To remove the writes of one source leaves those of the others. -/
theorem lookup_filter_source (source other : Source) (writes : List (Source × Nat)) :
    (writes.filter (·.1 != source)).lookup other =
      if other = source then none else writes.lookup other := by
  induction writes with
  | nil => simp
  | cons w rest ih =>
    obtain ⟨own, id⟩ := w
    by_cases hown : own = source
    · rw [List.filter_cons_of_neg (by simp [hown]), ih, List.lookup_cons]
      split
      · rfl
      · rename_i hne
        rw [beq_eq_false_iff_ne.2 (hown ▸ hne)]
    · rw [List.filter_cons_of_pos (by simp [hown]), List.lookup_cons, List.lookup_cons, ih]
      by_cases hother : other = own
      · simp [hother, hown]
      · rw [beq_eq_false_iff_ne.2 hother]

namespace State

variable {σ : Type} {n : Network} {B : Backend σ} {t : Tuning} {s : State σ} {a : Action}

theorem phase?_of_outcome? {call : Nat} {outcome : Store.Writer.Outcome}
    (h : s.outcome? call = some outcome) : s.writer.phase? call = some (.returned outcome) := by
  unfold outcome? at h
  split at h
  case h_1 hphase =>
    cases h
    exact hphase
  case h_2 => cases h

/-- What an action of the collector is to its writer. -/
def writerAction? (s : State σ) : Action → Option Store.Writer.Action
  | .writer a => some a
  | .deliver source received => (s.handed? source).map fun m => .call s.calls (.write m received)
  | .stop => some .stop
  | .proceed =>
    match s.stage with
    | .draining => some (.call s.calls .wait)
    | .settling _ => some (.call s.calls .flush)
    | _ => none
  | .listener _ | .answer _ => none

/-- The writer does in a step what the action is to it. -/
theorem writer_next (n : Network) (B : Backend σ) (t : Tuning) (s : State σ) (a : Action) :
    (s.next n B t a).writer = (s.writerAction? a).elim s.writer (s.writer.next B t) := by
  cases a with
  | listener | writer | answer | stop => rfl
  | deliver source received =>
    simp only [next, deliver, writerAction?]
    split
    · rename_i hm
      rw [hm]
      rfl
    · rename_i hm
      rw [hm]
      rfl
  | proceed =>
    simp only [next, proceed, writerAction?]
    cases s.stage <;> rfl

/-- Nobody gives up a call. -/
theorem writerAction?_ne_abandon (henabled : s.enabled a = true) (id : Nat) :
    s.writerAction? a ≠ some (.abandon id) := by
  intro h
  cases a with
  | writer b =>
    cases h
    simp [enabled, isWritersOwn] at henabled
  | deliver source received =>
    obtain ⟨_, -, hm⟩ := Option.map_eq_some_iff.1 h
    cases hm
  | proceed =>
    simp only [writerAction?] at h
    split at h <;> cases h
  | listener | answer | stop => cases h

/-- What an action is to the writer is possible for it. -/
theorem enabled_writerAction? (hfresh : s.writer.phase? s.calls = none)
    (henabled : s.enabled a = true) {b : Store.Writer.Action} (hb : s.writerAction? a = some b) :
    s.writer.enabled b = true := by
  cases a with
  | writer c =>
    cases hb
    simp only [enabled, Bool.and_eq_true] at henabled
    exact henabled.2
  | deliver source received =>
    obtain ⟨m, -, rfl⟩ := Option.map_eq_some_iff.1 hb
    simp [Store.Writer.State.enabled, hfresh]
  | stop =>
    cases hb
    rfl
  | proceed =>
    simp only [writerAction?] at hb
    split at hb <;> cases hb <;> simp [Store.Writer.State.enabled, hfresh]
  | listener | answer => cases hb

end State

/-! ### What holds all the time -/

/-- How the sources, their writes and the stages of the collector hang together. -/
structure Orderly {σ : Type} (s : State (σ × Journal)) : Prop where
  /-- The next call is a new one. -/
  fresh : ∀ id phase, s.writer.phase? id = some phase → id < s.calls
  /-- Whose message is being stored waits for the answer. -/
  writes : ∀ source id, s.writes.lookup source = some id →
    s.listener.phase? source = some .handing
  /-- Only the messages of sources are put into the buffer. -/
  pushing : ∀ id p, s.writer.phase? id = some (.pushing p) →
    ∃ source, s.writes.lookup source = some id
  /-- Before it is started the listener does nothing, -/
  unstarted : s.listener.started = false → s.listener.Drained
  /-- and neither once the collector has waited for it. -/
  drained : s.stage ≠ .serving → s.stage ≠ .draining → s.listener.Drained
  /-- The last flush leaves the buffer empty. -/
  flushing : ∀ call, s.stage = .flushing call →
    s.writer.phase? call = some (.flushing none .result) ∨
      (∃ outcome, s.writer.phase? call = some (.returned outcome)) ∧ s.writer.buffer = #[]
  down : s.stage = .down → s.writer.buffer = #[]

namespace Orderly

variable {σ : Type} {n : Network} {B : Backend σ} {t : Tuning} {s : State (σ × Journal)}

theorem initial (options : Listener.Options) (store : σ) :
    Orderly (.initial options (store, [])) where
  fresh _ _ h := nomatch h
  writes _ _ h := nomatch h
  pushing _ _ h := nomatch h
  unstarted _ := .initial options
  drained h := absurd rfl h
  flushing _ h := nomatch h
  down h := nomatch h

theorem phase?_calls (h : Orderly s) : s.writer.phase? s.calls = none := by
  cases hphase : s.writer.phase? s.calls with
  | none => rfl
  | some phase => exact absurd (h.fresh _ phase hphase) (Nat.lt_irrefl _)

theorem drained_of_stage (h : Orderly s) {stage : Stage} (hstage : s.stage = stage)
    (hserving : stage ≠ .serving) (hdraining : stage ≠ .draining) : s.listener.Drained :=
  h.drained (hstage ▸ hserving) (hstage ▸ hdraining)

/-- A drained listener has no message that is being stored. -/
theorem lookup_eq_none (h : Orderly s) (hdrained : s.listener.Drained) (source : Source) :
    s.writes.lookup source = none := by
  cases hlookup : s.writes.lookup source with
  | none => rfl
  | some id => exact absurd (h.writes source id hlookup) (hdrained.not_handing source)

/-- Once the listener is drained, nobody puts a point into the buffer. -/
theorem not_pushing (h : Orderly s) (hdrained : s.listener.Drained) (id : Nat) (p : Point) :
    s.writer.phase? id ≠ some (.pushing p) := by
  intro hphase
  obtain ⟨source, hsource⟩ := h.pushing id p hphase
  rw [h.lookup_eq_none hdrained source] at hsource
  cases hsource

/-! ### The steps -/

theorem next_listener (h : Orderly s) {a : Listener.Action}
    (henabled : s.enabled (.listener a) = true) :
    Orderly (s.next n B.journaled t (.listener a)) := by
  simp only [State.enabled, Bool.and_eq_true] at henabled
  obtain ⟨howner, henabled⟩ := henabled
  by_cases hstart : a = .start
  · subst hstart
    have hserving : s.stage = .serving := by simpa [isListenersOwn] using howner
    -- a listener that was not started has no message that is being stored
    have hdrained : s.listener.Drained := h.unstarted (by
      simp only [Listener.State.enabled, Bool.and_eq_true, Bool.not_eq_true'] at henabled
      exact henabled.1)
    refine { h with writes := ?_, unstarted := ?_, drained := ?_ }
    · intro source id hlookup
      cases (h.lookup_eq_none hdrained source).symm.trans hlookup
    · intro hstarted
      cases (Listener.State.started_start n s.listener).symm.trans hstarted
    · intro hne
      exact absurd hserving hne
  · have hanswer (source : Source) (taken : Bool) : a ≠ .answer source taken := by
      rintro rfl
      cases howner
    obtain ⟨hstarted, -⟩ := Listener.State.endpoint_next n s.listener hstart
    refine { h with writes := ?_, unstarted := ?_, drained := ?_ }
    · intro source id hlookup
      exact Listener.State.handing_next henabled hstart (hanswer source) (h.writes source id hlookup)
    · intro hafter
      exact (h.unstarted (hstarted ▸ hafter)).next henabled hstart
    · intro hserving hdraining
      exact (h.drained hserving hdraining).next henabled hstart

theorem next_writer (h : Orderly s) (htransit : Store.Writer.Transit s.writer)
    {a : Store.Writer.Action} (henabled : s.enabled (.writer a) = true) :
    Orderly (s.next n B.journaled t (.writer a)) := by
  simp only [State.enabled, Bool.and_eq_true] at henabled
  obtain ⟨howner, henabled⟩ := henabled
  -- by itself the writer neither makes calls nor gives one up
  have hcall (id : Nat) (c : Store.Writer.Call) : a ≠ .call id c := by
    rintro rfl
    cases howner
  have habandon (id : Nat) : a ≠ .abandon id := by
    rintro rfl
    cases howner
  refine { h with fresh := ?_, pushing := ?_, flushing := ?_, down := ?_ }
  · intro id phase hphase
    cases hbefore : s.writer.phase? id with
    | some before => exact h.fresh id before hbefore
    | none =>
      have hnone := Store.Writer.State.phase?_next_of_none (B := B.journaled) (t := t) hbefore
        henabled (hcall id)
      cases hnone.symm.trans hphase
  · intro id p hphase
    exact h.pushing id p (Store.Writer.State.phase?_of_pushing_next henabled (hcall id) hphase)
  · -- the last flush goes on, or returns and leaves a buffer that nobody fills again
    intro call hstage
    have hdrained := h.drained_of_stage hstage nofun nofun
    rcases h.flushing call hstage with hflushing | ⟨⟨outcome, hreturned⟩, hempty⟩
    · exact htransit.flush_next henabled (habandon call) hflushing
    · refine .inr ⟨⟨outcome, ?_⟩, ?_⟩
      · exact Store.Writer.State.phase?_next_of_returned hreturned henabled (habandon call)
      · exact Store.Writer.State.buffer_next_of_empty henabled hempty (h.not_pushing hdrained)
  · intro hstage
    have hdrained := h.drained_of_stage hstage nofun nofun
    exact Store.Writer.State.buffer_next_of_empty henabled (h.down hstage) (h.not_pushing hdrained)

theorem fresh_begin (h : Orderly s) (c : Store.Writer.Call) (id : Nat)
    (phase : Store.Writer.Phase) (hphase : (s.writer.begin s.calls c).phase? id = some phase) :
    id < s.calls + 1 := by
  by_cases hid : id = s.calls
  · omega
  · rw [Store.Writer.State.phase?_begin_of_ne hid] at hphase
    have hlt := h.fresh id phase hphase
    omega

/-- After a new call a point is put into the buffer by the caller of a new write, or as before. -/
theorem pushing_begin (h : Orderly s) {c : Store.Writer.Call} {id : Nat} {p : Point}
    (hphase : (s.writer.begin s.calls c).phase? id = some (.pushing p)) :
    (id = s.calls ∧ ∃ m received, c = .write m received) ∨
      ∃ source, s.writes.lookup source = some id := by
  by_cases hid : id = s.calls
  · subst hid
    obtain ⟨_, hphase', hfirst⟩ := s.writer.first_begin s.calls c
    cases hphase.symm.trans hphase'
    exact .inl ⟨rfl, hfirst.exists_write⟩
  · rw [Store.Writer.State.phase?_begin_of_ne hid] at hphase
    exact .inr (h.pushing id p hphase)

theorem next_deliver (h : Orderly s) {source : Source} {received : Instant}
    (henabled : s.enabled (.deliver source received) = true) :
    Orderly (s.next n B.journaled t (.deliver source received)) := by
  simp only [State.enabled, Bool.and_eq_true, beq_iff_eq, Option.isNone_iff_eq_none] at henabled
  obtain ⟨hhanding, hnone⟩ := henabled
  simp only [State.next, State.deliver]
  split
  case h_2 => exact h
  -- once the listener is drained, no source has a message to store
  have hstage : s.stage = .serving ∨ s.stage = .draining := by
    by_cases hserving : s.stage = .serving
    · exact .inl hserving
    · refine .inr (Decidable.byContradiction fun hdraining => ?_)
      exact (h.drained hserving hdraining).not_handing source hhanding
  have hlookup (other : Source) : (s.writes ++ [(source, s.calls)]).lookup other =
      if other = source then some s.calls else s.writes.lookup other := by
    rw [List.lookup_append]
    by_cases hother : other = source
    · simp [hother, hnone]
    · rw [List.lookup_cons, beq_eq_false_iff_ne.2 hother, if_neg hother]
      exact Option.or_none
  refine ⟨h.fresh_begin _, ?_, ?_, h.unstarted, h.drained, ?_, ?_⟩
  · intro other id hid
    rw [hlookup] at hid
    split at hid
    · rename_i hother
      rw [hother]
      exact hhanding
    · exact h.writes other id hid
  · -- the new write has the source whose message it stores
    intro id p hphase
    rcases h.pushing_begin hphase with ⟨hid, -⟩ | ⟨other, hother⟩
    · exact ⟨source, by rw [hlookup, if_pos rfl, hid]⟩
    · refine ⟨other, ?_⟩
      rw [hlookup, if_neg, hother]
      rintro rfl
      cases hnone.symm.trans hother
  · intro call hcall
    rcases hstage with hstage | hstage <;> cases hstage.symm.trans hcall
  · intro hdown
    rcases hstage with hstage | hstage <;> cases hstage.symm.trans hdown

theorem next_answer (h : Orderly s) {source : Source}
    (henabled : s.enabled (.answer source) = true) :
    Orderly (s.next n B.journaled t (.answer source)) := by
  obtain ⟨outcome, houtcome⟩ := Option.isSome_iff_exists.1 henabled
  obtain ⟨own, hown, hreturned⟩ := Option.bind_eq_some_iff.1 houtcome
  have hhanding := h.writes source own hown
  have hlistener : s.listener.enabled (.answer source true) = true := by
    simp [Listener.State.enabled, hhanding]
  have hstart : Listener.Action.answer source true ≠ .start := Listener.Action.noConfusion
  refine { h with writes := ?_, pushing := ?_, unstarted := ?_, drained := ?_ }
  · intro other id hid
    rw [State.next, State.answer, lookup_filter_source] at hid
    split at hid
    · cases hid
    · rename_i hother
      have hne : (Listener.Action.answer source true).source? ≠ some other :=
        fun h => hother (Option.some.inj h).symm
      have hsame := Listener.State.phase?_next_of_ne n s.listener hstart hne
      exact hsame.trans (h.writes other id hid)
  · intro id p hphase
    obtain ⟨other, hother⟩ := h.pushing id p hphase
    refine ⟨other, ?_⟩
    rw [State.next, State.answer, lookup_filter_source, if_neg, hother]
    -- the write of this source has returned, so it is not the one that waits for the buffer
    rintro rfl
    cases hown.symm.trans hother
    cases hphase.symm.trans (State.phase?_of_outcome? hreturned)
  · intro hstarted
    obtain ⟨hsame, -⟩ := Listener.State.endpoint_next n s.listener hstart
    exact (h.unstarted (hsame ▸ hstarted)).next (n := n) hlistener hstart
  · intro hserving hdraining
    exact (h.drained hserving hdraining).next (n := n) hlistener hstart

theorem next_proceed (h : Orderly s) (henabled : s.enabled .proceed = true) :
    Orderly (s.next n B.journaled t .proceed) := by
  simp only [State.enabled, State.canProceed] at henabled
  -- a call that is no write puts nothing into the buffer
  have hpushing (c : Store.Writer.Call) (hc : ∀ m received, c ≠ .write m received) (id : Nat)
      (p : Point) (hphase : (s.writer.begin s.calls c).phase? id = some (.pushing p)) :
      ∃ source, s.writes.lookup source = some id := by
    rcases h.pushing_begin hphase with ⟨-, m, received, hwrite⟩ | hsource
    · exact absurd hwrite (hc m received)
    · exact hsource
  cases hstage : s.stage with
  | serving | down => simp [hstage] at henabled
  | draining =>
    simp only [hstage] at henabled
    simp only [State.next, State.proceed, hstage]
    have hsame := hpushing .wait fun _ _ => Store.Writer.Call.noConfusion
    exact ⟨h.fresh_begin .wait, h.writes, hsame, h.unstarted, fun _ _ => .of_isQuiet henabled,
      nofun, nofun⟩
  | settling call =>
    have hdrained := h.drained_of_stage hstage nofun nofun
    simp only [State.next, State.proceed, hstage]
    have hsame := hpushing .flush fun _ _ => Store.Writer.Call.noConfusion
    refine ⟨h.fresh_begin .flush, h.writes, hsame, h.unstarted, fun _ _ => hdrained, ?_, nofun⟩
    intro call hcall
    cases hcall
    exact .inl (Store.Writer.State.phase?_move_self s.writer s.calls _)
  | flushing call =>
    have hdrained := h.drained_of_stage hstage nofun nofun
    simp only [hstage] at henabled
    simp only [State.next, State.proceed, hstage]
    refine ⟨h.fresh, h.writes, h.pushing, h.unstarted, fun _ _ => hdrained,
      nofun, fun _ => ?_⟩
    rcases h.flushing call hstage with hflushing | ⟨-, hempty⟩
    · simp [State.outcome?, hflushing] at henabled
    · exact hempty

theorem next {a : Action} (h : Orderly s) (htransit : Store.Writer.Transit s.writer)
    (henabled : s.enabled a = true) : Orderly (s.next n B.journaled t a) := by
  cases a with
  | listener a => exact h.next_listener henabled
  | writer a => exact h.next_writer htransit henabled
  | deliver source received => exact h.next_deliver henabled
  | answer source => exact h.next_answer henabled
  | stop =>
    refine ⟨h.fresh, ?_, h.pushing, ?_, ?_, ?_, ?_⟩
    · intro source id hlookup
      have hsame : (s.listener.next n .stop).phase? source = s.listener.phase? source :=
        Listener.State.phase?_next_of_ne n s.listener nofun nofun
      exact hsame.trans (h.writes source id hlookup)
    · intro hstarted
      exact (h.unstarted hstarted).next (n := n) (a := .stop) rfl nofun
    · intro _ hdraining
      exact absurd rfl hdraining
    · intro call hcall
      cases hcall
    · intro hdown
      cases hdown
  | proceed => exact h.next_proceed henabled

end Orderly

/-! ### Runs -/

/-- A run from a collector that nothing has come to yet, with the ledger of its writer and what is
noted of the end of the flush task. -/
inductive Run {σ : Type} (n : Network) (B : Backend σ) (t : Tuning) (options : Listener.Options)
    (store : σ) : Ledger → Closing → State (σ × Journal) → Prop
  /-- A run of no steps. -/
  | refl : Run n B t options store {} {} (.initial options (store, []))
  /-- One step more. -/
  | step {l : Ledger} {g : Closing} {s s' : State (σ × Journal)} {a : Action} :
      Run n B t options store l g s → s.Step n B.journaled t a s' →
        Run n B t options store ((s.writerAction? a).elim l (l.record s.writer))
          ((s.writerAction? a).elim g (g.record B.journaled s.writer)) s'

section

variable {σ : Type} {n : Network} {B : Backend σ} {t : Tuning} {options : Listener.Options}
  {store : σ} {l : Ledger} {g : Closing} {s : State (σ × Journal)}

/-- Only who goes away before it took the buffer withdraws its write. -/
theorem withdrawn_follow {a : Store.Writer.Action} (l : Ledger) (h : ∀ id, a ≠ .abandon id) :
    (l.follow a).withdrawn = l.withdrawn := by
  cases a with
  | abandon id => exact absurd rfl (h id)
  | call id c =>
    cases c with
    | write m received =>
      simp only [Ledger.follow]
      split <;> rfl
    | flush | count | read | wait => rfl
  | proceed id =>
    simp only [Ledger.follow, Ledger.proceed]
    split
    · rfl
    · split <;> rfl
  | expire | openReader | start | stop | leave | serve | tick | work | pass => rfl

/-- What the writer does in a run of the collector is a run of the writer, in which nobody goes
away. -/
theorem Run.writer (h : Run n B t options store l g s) :
    Store.Writer.Run B.journaled t { store := (store, []) } l s.writer ∧
      Store.Writer.ClosingRun B.journaled t (store, []) g s.writer ∧ l.withdrawn = [] ∧
      Orderly s := by
  induction h with
  | refl => exact ⟨.refl, .refl, rfl, .initial options store⟩
  | @step l g s s' a _ hstep ih =>
    obtain ⟨hrun, hclosing, hwithdrawn, horderly⟩ := ih
    obtain ⟨henabled, rfl⟩ := hstep
    have hnext := horderly.next (n := n) (B := B) (t := t) hrun.transit henabled
    have hwriter := State.writer_next n B.journaled t s a
    cases hb : s.writerAction? a with
    | none =>
      rw [hb] at hwriter
      exact ⟨hwriter ▸ hrun, hwriter ▸ hclosing, hwithdrawn, hnext⟩
    | some b =>
      rw [hb] at hwriter
      have hpossible := State.enabled_writerAction? horderly.phase?_calls henabled hb
      refine ⟨hrun.step ⟨hpossible, hwriter⟩, hclosing.step ⟨hpossible, hwriter⟩, ?_, hnext⟩
      have habandon (id : Nat) : b ≠ .abandon id := by
        rintro rfl
        exact State.writerAction?_ne_abandon henabled id hb
      exact (withdrawn_follow l habandon).trans hwithdrawn

/-- Carries out a list of actions, if all of them are possible in their turn. -/
def play (n : Network) (B : Backend σ) (t : Tuning) :
    List Action → Ledger → Closing → State (σ × Journal) →
      Option (Ledger × Closing × State (σ × Journal))
  | [], l, g, s => some (l, g, s)
  | a :: rest, l, g, s =>
    if s.enabled a then
      play n B t rest ((s.writerAction? a).elim l (l.record s.writer))
        ((s.writerAction? a).elim g (g.record B.journaled s.writer)) (s.next n B.journaled t a)
    else none

/-- What is carried out after a run is a run. -/
theorem Run.of_play {actions : List Action} {l' : Ledger} {g' : Closing} {s' : State (σ × Journal)}
    (h : Run n B t options store l g s) (hplay : play n B t actions l g s = some (l', g', s')) :
    Run n B t options store l' g' s' := by
  induction actions generalizing l g s with
  | nil =>
    cases hplay
    exact h
  | cons a rest ih =>
    unfold play at hplay
    split at hplay
    · rename_i henabled
      exact ih (h.step ⟨henabled, rfl⟩) hplay
    · cases hplay

/-- An orderly shutdown loses nothing. For every run of a collector, whatever its sources, its flush
task, its store and the clock do before and after it is told to stop:

* when it is down, the buffer of its writer is empty, and the points that were handed to the store
  are those of the messages that the writer accepted, each of them once;
* who waits for the end of the flush task does not return before the last flush of the task is
  over. -/
theorem shutdown_loses_nothing (hrun : Run n B t options store l g s) :
    (s.stage = .down → s.writer.buffer = #[] ∧
      s.writer.store.2.points.Perm (l.accepted.map fun w => Point.ofMessage w.1 w.2)) ∧
      ∀ id outcome, id ∈ g.waiters → s.writer.phase? id = some (.returned outcome) →
        s.writer.task = .ended ∧ g.final.isSome := by
  obtain ⟨hwriter, hclosing, hwithdrawn, horderly⟩ := hrun.writer
  refine ⟨fun hdown => ?_, fun id outcome hid hphase => ?_⟩
  · have hdrained := horderly.drained_of_stage hdown nofun nofun
    have hempty := horderly.down hdown
    exact ⟨hempty, hwriter.points_perm hempty (horderly.not_pushing hdrained) hwithdrawn⟩
  · exact Store.Writer.wait_returns_after_final_flush hclosing hid hphase

/-- A datagram is taken before the collector is told to stop, and its point comes into the buffer
after the last flush of the flush task. -/
theorem shutdown_loses_nothing_late_point :
    ∃ l g s, Run .isolated Store.PlannedStore.backend {}
        { tcp := none, udp := some "127.0.0.1:514", mode := .rfc5424 } {} l g s ∧
      s.stage = .down ∧ l.accepted.length = 1 ∧ g.waiters = [1] ∧ s.writer.buffer = #[] ∧
      s.writer.store.2.points.Perm (l.accepted.map fun w => Point.ofMessage w.1 w.2) ∧
      g.final.isSome := by
  obtain ⟨l, g, s, hplay, hdown, haccepted, hwaiters, hphase⟩ : ∃ l g s,
      play .isolated Store.PlannedStore.backend {}
          [.listener .start, .writer .start,
            .listener (.datagram ("<14>1 - - a - - - x".toList.map fun c => .ofNat c.toNat) ⟨0, 0⟩),
            .stop, .writer .leave, .writer .work, .writer .work, .deliver .datagrams ⟨0, 0⟩,
            .writer (.proceed 0), .writer (.proceed 0), .answer .datagrams,
            .listener (.leave .datagrams), .proceed, .writer (.proceed 1), .proceed,
            .writer (.proceed 2), .writer (.proceed 2), .proceed]
          {} {} (.initial { tcp := none, udp := some "127.0.0.1:514", mode := .rfc5424 }
            ({}, [])) = some (l, g, s) ∧
        s.stage = .down ∧ l.accepted.length = 1 ∧ g.waiters = [1] ∧
        s.writer.phase? 1 = some (.returned (.done (.ok ()))) :=
    ⟨_, _, _, rfl, rfl, rfl, rfl, rfl⟩
  have hrun := Run.refl.of_play hplay
  obtain ⟨hlost, hwait⟩ := shutdown_loses_nothing hrun
  obtain ⟨hempty, hpoints⟩ := hlost hdown
  obtain ⟨-, hfinal⟩ := hwait 1 _ (by simp [hwaiters]) hphase
  exact ⟨l, g, s, hrun, hdown, haccepted, hwaiters, hempty, hpoints, hfinal⟩

end

end SyslogCollector.Collector.Shutdown
