import SyslogCollector.Proofs.Framing.Stream
/-!
# Frames of a stream that is still arriving

A reader takes its steps on what has arrived, and more may arrive behind it at any time. A step that
has a piece to look at does the same whatever arrives later (`step_append`), so what the bytes come
to can be followed from step to step with the later bytes left open (`outcome_eq_of_more`,
`outcome_eq_of_done`). The frames of a stream unfold along the same way (`framesIn_eq`).
-/

namespace SyslogCollector.Listener

/-! ## The frames of some bytes -/

/-- A complete frame: what kind of end it came to, and its bytes. -/
abbrev ReadFrame := Frame × List UInt8

/-- What a reading shows of its frame alone. -/
def Reading.shown (r : Reading) : ReadFrame :=
  (r.frame, r.buffer)

/-- The frames that some bytes hold, up to the end of the stream. -/
def framesIn (max : Nat) (bytes : List UInt8) : List ReadFrame :=
  (readFrames max [bytes]).map Reading.shown

/-- The frames from an outcome on: its own, and those in what it leaves. -/
def FrameOutcome.frames (max : Nat) (o : FrameOutcome) : List ReadFrame :=
  if o.frame = .endOfStream then [] else (o.frame, o.buffer) :: framesIn max o.rest

/-- The frames of a stream do not depend on its pieces. -/
theorem map_shown_readFrames (max : Nat) (ps : Pieces) :
    (readFrames max ps).map Reading.shown = framesIn max ps.flatten := by
  obtain ⟨rs, hrs, -⟩ := exists_readsToEnd max ps
  have hflat : ps.flatten = List.flatten [ps.flatten] := by simp
  obtain ⟨rs', hrs', hmap⟩ := hrs.of_flatten_eq hflat
  have hshown : rs.map Reading.shown = rs'.map Reading.shown := by
    have hpairs := congrArg (List.map fun o : FrameOutcome => (o.frame, o.buffer)) hmap
    rw [List.map_map, List.map_map] at hpairs
    exact hpairs.symm
  rw [framesIn, hrs.readFrames_eq, hrs'.readFrames_eq, List.map_dropLast, List.map_dropLast, hshown]

/-- The frames of some bytes are the first of them and those of what it leaves. -/
theorem framesIn_eq (max : Nat) (bytes : List UInt8) :
    framesIn max bytes = (frameOutcome max bytes).frames max := by
  have hflat : List.flatten [bytes] = bytes := by simp
  have hsame : (readFrame max [bytes]).outcome = frameOutcome max bytes := by
    rw [outcome_readFrame, hflat]
  obtain ⟨rs, hrs, -⟩ := exists_readsToEnd max [bytes]
  unfold framesIn
  rw [hrs.readFrames_eq, ← hsame]
  cases hrs with
  | last hend => exact (if_pos hend).symm
  | next hgo hrest =>
    -- the calls after the first are those on what it leaves
    rw [List.dropLast_cons_of_ne_nil hrest.ne_nil, ← hrest.readFrames_eq, List.map_cons,
      map_shown_readFrames]
    exact (if_neg hgo).symm

/-! ## Steps before everything has arrived -/

/-- Whether a frame is at its end without a look at the next piece. -/
def ReaderState.isComplete : ReaderState → Bool
  | .skip 0 | .body _ 0 => true
  | _ => false

/-- What a step leads to, with more pieces behind what it leaves. -/
def Progress.append (more : Pieces) : Progress → Progress
  | .more s rest => .more s (rest ++ more)
  | .done r => .done ⟨r.frame, r.buffer, r.rest ++ more⟩

theorem Pieces.push_append (piece : List UInt8) (ps more : Pieces) :
    push piece ps ++ more = push piece (ps ++ more) := by
  unfold push
  split <;> rfl

theorem append_endLine (buffer : List UInt8) (read : Nat) (exceeded : Bool) (ps more : Pieces) :
    (endLine buffer read exceeded ps).append more = endLine buffer read exceeded (ps ++ more) := by
  cases exceeded <;> rfl

/-- A step looks at the next piece alone. -/
theorem step_append (max : Nat) {s : ReaderState} {ps : Pieces}
    (h : ps ≠ [] ∨ s.isComplete = true) (more : Pieces) :
    step max s (ps ++ more) = (step max s ps).append more := by
  -- without a piece only the complete states are left, and these look at none
  have hpiece (hopen : s.isComplete = false) : ∃ piece rest, ps = piece :: rest := by
    rcases h with hne | hcomplete
    · exact List.exists_cons_of_ne_nil hne
    · exact absurd (hopen.symm.trans hcomplete) (by decide)
  cases s with
  | start =>
    obtain ⟨piece, rest, rfl⟩ := hpiece rfl
    cases piece <;> rfl
  | count digits =>
    obtain ⟨piece, rest, rfl⟩ := hpiece rfl
    cases piece with
    | nil => rfl
    | cons b piece =>
      simp only [List.cons_append, step]
      split
      · simp only [Progress.append, Pieces.push_append]
      · split
        · simp only [Progress.append, Pieces.push_append]
        · rfl
  | skip n =>
    cases n with
    | zero => rfl
    | succ n =>
      obtain ⟨piece, rest, rfl⟩ := hpiece rfl
      simp only [List.cons_append, step, Progress.append, Pieces.push_append]
  | body buffer n =>
    cases n with
    | zero => rfl
    | succ n =>
      obtain ⟨piece, rest, rfl⟩ := hpiece rfl
      simp only [List.cons_append, step, Progress.append, Pieces.push_append]
  | line buffer read exceeded =>
    obtain ⟨piece, rest, rfl⟩ := hpiece rfl
    simp only [List.cons_append, step, stepLine]
    split
    · rw [append_endLine, Pieces.push_append]
    · rfl

section

variable {max : Nat} {s : ReaderState} {ps : Pieces} {later : List UInt8}

/-- A step keeps what the bytes come to, also with the bytes that arrive later. Nothing arrives
later if it takes the end of the pieces for the end of the stream. -/
theorem outcome_step_append (h : ps ≠ [] ∨ s.isComplete = true ∨ later = []) :
    ((step max s ps).append [later]).outcome max = s.outcome max (ps.flatten ++ later) := by
  have hflat : (ps ++ [later]).flatten = ps.flatten ++ later := by simp
  rcases or_assoc.mpr h with hlook | rfl
  · rw [← step_append max hlook, outcome_step, hflat]
  · -- nothing comes later
    rw [List.append_nil, ← outcome_step]
    cases step max s ps <;> simp [Progress.append, Progress.outcome, Reading.outcome]

/-- What the bytes come to after a step that goes on. -/
theorem outcome_eq_of_more {t : ReaderState} {rest : Pieces} (hstep : step max s ps = .more t rest)
    (h : ps ≠ [] ∨ s.isComplete = true ∨ later = []) :
    s.outcome max (ps.flatten ++ later) = t.outcome max (rest.flatten ++ later) := by
  rw [← outcome_step_append h, hstep]
  simp [Progress.append, Progress.outcome]

/-- What the bytes come to at the end of a frame. -/
theorem outcome_eq_of_done {r : Reading} (hstep : step max s ps = .done r)
    (h : ps ≠ [] ∨ s.isComplete = true ∨ later = []) :
    s.outcome max (ps.flatten ++ later) = ⟨r.frame, r.buffer, r.rest.flatten ++ later⟩ := by
  rw [← outcome_step_append h, hstep]
  simp [Progress.append, Progress.outcome, Reading.outcome]

end

end SyslogCollector.Listener
