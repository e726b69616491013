import SyslogCollector.Listener.Frame
/-!
# Frames as a function of the bytes

The reader of frames takes a stream piece by piece. Here the same frames are computed from the
bytes alone: where the next frame ends, what it comes to and what is left. Every step of the
reader keeps what the bytes in front of it will come to (`outcome_step`), so what a frame comes to
does not depend on the pieces (`outcome_readFrame`).

The state carried across pieces is what makes this work: a length may be cut within its digits, a
line before its line feed, and the limit may be passed in any piece.
-/

namespace SyslogCollector.Listener

namespace Pieces

/-- Putting back what is left of a piece keeps the bytes. -/
theorem flatten_push (piece : List UInt8) (ps : Pieces) :
    (push piece ps).flatten = piece ++ ps.flatten := by
  unfold push
  split
  · rename_i hpiece
    rw [List.isEmpty_iff.1 hpiece, List.nil_append]
  · exact List.flatten_cons

/-- The number of bytes is the length of the stream. -/
theorem byteCount_eq (ps : Pieces) : ps.byteCount = ps.flatten.length := by
  induction ps with
  | nil => rfl
  | cons piece ps ih => rw [byteCount_cons, List.flatten_cons, List.length_append, ih]

end Pieces

/-! ## What the bytes come to -/

/-- What reading a frame shows: the frame, the bytes of it, and the bytes that are left. -/
structure FrameOutcome where
  /-- What kind of end it came to. -/
  frame : Frame
  /-- The bytes of a complete frame, else nothing. -/
  buffer : List UInt8
  /-- The bytes that are left of the stream, whatever their pieces. -/
  rest : List UInt8
  deriving DecidableEq, Repr

/-- What a reading shows apart from the pieces. -/
def Reading.outcome (r : Reading) : FrameOutcome :=
  ⟨r.frame, r.buffer, r.rest.flatten⟩

/-- The end of the stream. -/
def FrameOutcome.ended : FrameOutcome :=
  ⟨.endOfStream, [], []⟩

/-- A line that is complete, or that was too long. -/
def FrameOutcome.ofLine (buffer : List UInt8) (read : Nat) (exceeded : Bool)
    (rest : List UInt8) : FrameOutcome :=
  if exceeded then ⟨.tooLong, [], rest⟩ else ⟨.message read, buffer, rest⟩

/-- A line from where the reader stands in it. It ends after the first line feed, or with the
stream. -/
def lineOutcome (max : Nat) (buffer : List UInt8) (read : Nat) (exceeded : Bool)
    (bytes : List UInt8) : FrameOutcome :=
  match Lines.cut? bytes with
  | some (line, after) =>
    let fits := !exceeded && line.length - 1 ≤ max - buffer.length
    .ofLine (buffer ++ line) (read + line.length) (!fits) after
  | none =>
    let fits := !exceeded && bytes.length ≤ max - buffer.length
    if fits && (buffer ++ bytes).isEmpty then .ended
    else .ofLine (buffer ++ bytes) (read + bytes.length) (!fits) []

/-- A line of which some digits are read already. -/
def lineFromOutcome (max : Nat) (digits bytes : List UInt8) : FrameOutcome :=
  lineOutcome max digits digits.length (max < digits.length) bytes

/-- The rest of a counted frame above the limit. -/
def skipOutcome (remaining : Nat) (bytes : List UInt8) : FrameOutcome :=
  if bytes.length < remaining then .ended else ⟨.tooLong, [], bytes.drop remaining⟩

/-- The rest of a counted frame. -/
def bodyOutcome (buffer : List UInt8) (remaining : Nat) (bytes : List UInt8) : FrameOutcome :=
  if bytes.length < remaining then .ended
  else ⟨.message (buffer.length + remaining), buffer ++ bytes.take remaining, bytes.drop remaining⟩

/-- A counted frame after its length. -/
def countedOutcome (max length : Nat) (bytes : List UInt8) : FrameOutcome :=
  if max < length then skipOutcome length bytes else bodyOutcome [] length bytes

/-- A frame that starts with digits, which may turn out to be a length. -/
def countOutcome (max : Nat) (digits : List UInt8) : List UInt8 → FrameOutcome
  | [] => lineFromOutcome max digits []
  | b :: bytes =>
    if isDigit b ∧ digits.length < maxCountDigits then countOutcome max (digits ++ [b]) bytes
    else if b = space ∧ digits ≠ [] then countedOutcome max (decimal digits) bytes
    else lineFromOutcome max digits (b :: bytes)

/-- A frame from its first byte on. -/
def frameOutcome (max : Nat) : List UInt8 → FrameOutcome
  | [] => .ended
  | b :: bytes =>
    if isDigit b then countOutcome max [] (b :: bytes) else lineFromOutcome max [] (b :: bytes)

/-- What the bytes in front of the reader come to, from each of its states. -/
def ReaderState.outcome (max : Nat) : ReaderState → List UInt8 → FrameOutcome
  | .start, bytes => frameOutcome max bytes
  | .count digits, bytes => countOutcome max digits bytes
  | .skip remaining, bytes => skipOutcome remaining bytes
  | .body buffer remaining, bytes => bodyOutcome buffer remaining bytes
  | .line buffer read exceeded, bytes => lineOutcome max buffer read exceeded bytes

/-- What a step leads to in the end. -/
def Progress.outcome (max : Nat) : Progress → FrameOutcome
  | .more s rest => s.outcome max rest.flatten
  | .done reading => reading.outcome

/-! ## A step keeps what the bytes come to -/

/-- A line that was too long already stays so, whatever was kept of it. -/
theorem lineOutcome_exceeded (max read : Nat) (buffer bytes : List UInt8) :
    lineOutcome max buffer read true bytes =
      ⟨.tooLong, [], ((Lines.cut? bytes).map Prod.snd).getD []⟩ := by
  unfold lineOutcome
  split
  all_goals
    rename_i hcut
    rw [hcut]
    rfl

/-- A line whose next bytes do not end it and fit is the line after these bytes. -/
theorem lineOutcome_append_of_fits {piece : List UInt8} (hcut : Lines.cut? piece = none)
    {max : Nat} {buffer : List UInt8} (hfits : piece.length ≤ max - buffer.length)
    (read : Nat) (bytes : List UInt8) :
    lineOutcome max buffer read false (piece ++ bytes) =
      lineOutcome max (buffer ++ piece) (read + piece.length) false bytes := by
  -- the room that is left for more bytes is the same on both sides
  have hroom (more : Nat) :
      piece.length + more ≤ max - buffer.length ↔ more ≤ max - (buffer ++ piece).length := by
    rw [List.length_append]
    omega
  rw [lineOutcome, lineOutcome, Lines.cut?_append_of_none hcut]
  cases hmore : Lines.cut? bytes with
  | none =>
    have hlength : (piece ++ bytes).length = piece.length + bytes.length := List.length_append
    simp only [Option.map_none, hlength, hroom, List.append_assoc, Nat.add_assoc]
  | some cut =>
    obtain ⟨line, after⟩ := cut
    obtain ⟨body, rfl, -⟩ := Lines.line_of_cut? hmore
    -- the line feed does not count
    have hcontent : (piece ++ (body ++ [Lines.lineFeed])).length - 1 =
        piece.length + ((body ++ [Lines.lineFeed]).length - 1) := by
      simp only [List.length_append, List.length_singleton]
      omega
    have hlength : (piece ++ (body ++ [Lines.lineFeed])).length =
        piece.length + (body ++ [Lines.lineFeed]).length := List.length_append
    simp only [Option.map_some, hcontent, hroom]
    rw [hlength, List.append_assoc, Nat.add_assoc]

/-- A line that exceeds the limit in its next bytes is too long. -/
theorem lineOutcome_append_of_not_fits {piece : List UInt8} (hcut : Lines.cut? piece = none)
    {max : Nat} {buffer : List UInt8} (hfits : ¬ piece.length ≤ max - buffer.length)
    (read : Nat) (bytes : List UInt8) :
    lineOutcome max buffer read false (piece ++ bytes) =
      lineOutcome max buffer (read + piece.length) true bytes := by
  rw [lineOutcome_exceeded, lineOutcome, Lines.cut?_append_of_none hcut]
  cases hmore : Lines.cut? bytes with
  | none =>
    -- what follows only makes the line longer
    have hlong : ¬ (piece ++ bytes).length ≤ max - buffer.length := by
      rw [List.length_append]
      omega
    simp only [Option.map_none, hlong, decide_false, Bool.and_false, Bool.false_and]
    rfl
  | some cut =>
    obtain ⟨line, after⟩ := cut
    obtain ⟨body, rfl, -⟩ := Lines.line_of_cut? hmore
    have hlong : ¬ (piece ++ (body ++ [Lines.lineFeed])).length - 1 ≤ max - buffer.length := by
      simp only [List.length_append, List.length_singleton]
      omega
    simp only [Option.map_some, hlong, decide_false, Bool.and_false]
    rfl

/-- A line whose next bytes do not end it is the line after these bytes: whether the limit is
exceeded does not depend on where the bytes are cut. -/
theorem lineOutcome_append {piece : List UInt8} (hcut : Lines.cut? piece = none)
    (max read : Nat) (buffer bytes : List UInt8) (exceeded : Bool) :
    lineOutcome max buffer read exceeded (piece ++ bytes) =
      (let fits := !exceeded && piece.length ≤ max - buffer.length
       lineOutcome max (if fits then buffer ++ piece else buffer) (read + piece.length)
        (!fits) bytes) := by
  cases exceeded with
  | true =>
    -- nothing is kept any more, so only the place of the line feed shows
    simp only [Bool.not_true, Bool.false_and, Bool.not_false, lineOutcome_exceeded]
    rw [Lines.cut?_append_of_none hcut, Option.map_map]
    rfl
  | false =>
    by_cases hfits : piece.length ≤ max - buffer.length
    · rw [lineOutcome_append_of_fits hcut hfits]
      simp [hfits]
    · rw [lineOutcome_append_of_not_fits hcut hfits]
      simp [hfits]

/-- The end of a line, as what it shows. -/
theorem outcome_endLine (max read : Nat) (buffer : List UInt8) (exceeded : Bool) (ps : Pieces) :
    (endLine buffer read exceeded ps).outcome max = .ofLine buffer read exceeded ps.flatten := by
  cases exceeded <;> rfl

/-- A step within a line keeps what it comes to. -/
theorem outcome_stepLine (max read : Nat) (buffer : List UInt8) (exceeded : Bool) (ps : Pieces) :
    (stepLine max buffer read exceeded ps).outcome max =
      lineOutcome max buffer read exceeded ps.flatten := by
  cases ps with
  | nil =>
    -- the stream ends within the line, which counts if something of it was read
    cases exceeded <;> cases buffer <;> simp [stepLine, endLine, lineOutcome, Lines.cut?,
      Progress.outcome, Reading.outcome, FrameOutcome.ended, FrameOutcome.ofLine]
  | cons piece rest =>
    rw [List.flatten_cons]
    cases hcut : Lines.cut? piece with
    | none =>
      rw [lineOutcome_append hcut, stepLine, hcut]
      rfl
    | some cut =>
      obtain ⟨line, after⟩ := cut
      rw [stepLine, hcut, lineOutcome, Lines.cut?_append_of_some hcut, ← Pieces.flatten_push]
      simp only [outcome_endLine]
      -- what was kept does not show where the line does not fit
      generalize (!exceeded && decide (line.length - 1 ≤ max - buffer.length)) = fits
      cases fits <;> rfl

/-- After the length of a counted frame comes the rest of it. -/
theorem outcome_counted (max length : Nat) (bytes : List UInt8) :
    (ReaderState.counted max length).outcome max bytes = countedOutcome max length bytes := by
  unfold ReaderState.counted countedOutcome
  split <;> rfl

/-- What is taken of the next piece and what is still to be taken make up what was to be taken. -/
theorem length_lt_sub_iff (remaining : Nat) (piece bytes : List UInt8) :
    (piece.drop remaining ++ bytes).length < remaining - piece.length ↔
      (piece ++ bytes).length < remaining := by
  simp only [List.length_append, List.length_drop]
  omega

/-- Bytes may be dropped piece by piece. -/
theorem drop_sub_append (remaining : Nat) (piece bytes : List UInt8) :
    (piece.drop remaining ++ bytes).drop (remaining - piece.length) =
      (piece ++ bytes).drop remaining := by
  -- either the piece holds all that is to be dropped, or it is dropped whole
  rcases Nat.le_total remaining piece.length with hle | hle
  · rw [Nat.sub_eq_zero_of_le hle, List.drop_zero, List.drop_append_of_le_length hle]
  · rw [List.drop_of_length_le hle, List.nil_append, List.drop_append, List.drop_of_length_le hle,
      List.nil_append]

/-- Bytes may be taken piece by piece. -/
theorem take_append_take_sub (remaining : Nat) (piece bytes : List UInt8) :
    piece.take remaining ++ (piece.drop remaining ++ bytes).take (remaining - piece.length) =
      (piece ++ bytes).take remaining := by
  rcases Nat.le_total remaining piece.length with hle | hle
  · rw [Nat.sub_eq_zero_of_le hle, List.take_zero, List.append_nil,
      List.take_append_of_le_length hle]
  · rw [List.drop_of_length_le hle, List.nil_append, List.take_append]

/-- What is left out of a frame above the limit may be left out piece by piece. -/
theorem skipOutcome_append (remaining : Nat) (piece bytes : List UInt8) :
    skipOutcome (remaining - piece.length) (piece.drop remaining ++ bytes) =
      skipOutcome remaining (piece ++ bytes) := by
  simp only [skipOutcome, length_lt_sub_iff, drop_sub_append]

/-- The bytes of a counted frame may be read piece by piece. -/
theorem bodyOutcome_append (buffer : List UInt8) (remaining : Nat) (piece bytes : List UInt8) :
    bodyOutcome (buffer ++ piece.take remaining) (remaining - piece.length)
        (piece.drop remaining ++ bytes) =
      bodyOutcome buffer remaining (piece ++ bytes) := by
  have hsize : (buffer ++ piece.take remaining).length + (remaining - piece.length) =
      buffer.length + remaining := by
    rw [List.length_append, List.length_take]
    omega
  simp only [bodyOutcome, length_lt_sub_iff, drop_sub_append, hsize, List.append_assoc,
    take_append_take_sub]

/-- Every step of the reader keeps what the bytes come to. -/
theorem outcome_step (max : Nat) (s : ReaderState) (ps : Pieces) :
    (step max s ps).outcome max = s.outcome max ps.flatten := by
  unfold step
  split
  case h_1 => rfl
  case h_2 => rfl
  case h_3 b piece rest =>
    -- the first byte decides between the framings and is not taken
    rw [Progress.outcome, List.flatten_cons, List.cons_append, ReaderState.outcome, frameOutcome]
    by_cases hb : isDigit b = true
    · rw [if_pos hb, if_pos hb, ReaderState.outcome]
    · rw [if_neg hb, if_neg hb]
      rfl
  case h_4 => rfl
  case h_5 => rfl
  case h_6 digits b piece rest =>
    -- one more digit, the end of the length, or no length after all
    rw [List.flatten_cons, List.cons_append, ReaderState.outcome, countOutcome]
    split
    · rw [Progress.outcome, Pieces.flatten_push, ReaderState.outcome]
    · split
      · rw [Progress.outcome, Pieces.flatten_push, outcome_counted]
      · rfl
  case h_7 ps => simp [Progress.outcome, Reading.outcome, ReaderState.outcome, skipOutcome]
  case h_8 n hn =>
    -- the stream ends within the frame
    have hmissing : ([] : Pieces).flatten.length < n := Nat.pos_of_ne_zero hn
    rw [ReaderState.outcome, skipOutcome, if_pos hmissing]
    rfl
  case h_9 n piece rest hn =>
    rw [Progress.outcome, Pieces.flatten_push, ReaderState.outcome, skipOutcome_append,
      List.flatten_cons, ReaderState.outcome]
  case h_10 buffer ps => simp [Progress.outcome, Reading.outcome, ReaderState.outcome, bodyOutcome]
  case h_11 buffer n hn =>
    -- the stream ends within the frame
    have hmissing : ([] : Pieces).flatten.length < n := Nat.pos_of_ne_zero hn
    rw [ReaderState.outcome, bodyOutcome, if_pos hmissing]
    rfl
  case h_12 buffer n piece rest hn =>
    rw [Progress.outcome, Pieces.flatten_push, ReaderState.outcome, bodyOutcome_append,
      List.flatten_cons, ReaderState.outcome]
  case h_13 buffer read exceeded => exact outcome_stepLine max read buffer exceeded ps

/-- A run of the reader gives what the bytes come to. -/
theorem outcome_runFrame (max : Nat) (s : ReaderState) (ps : Pieces) :
    (runFrame max s ps).outcome = s.outcome max ps.flatten := by
  -- along the run: every step keeps what the bytes come to
  induction s, ps using runFrame.induct max with
  | case1 s ps reading h =>
    rw [runFrame, h, ← outcome_step, h]
    rfl
  | case2 s ps t rest h ih =>
    rw [runFrame, h, ← outcome_step, h]
    exact ih

/-- What the next frame comes to depends on the bytes alone. -/
theorem outcome_readFrame (max : Nat) (ps : Pieces) :
    (readFrame max ps).outcome = frameOutcome max ps.flatten :=
  outcome_runFrame max .start ps

end SyslogCollector.Listener
