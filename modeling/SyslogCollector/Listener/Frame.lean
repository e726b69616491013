import SyslogCollector.Text.Lines
/-!
# Frames on a stream

Two framings share one stream of bytes: lines that end with a line feed, and counted frames, a
decimal length, a space and that many bytes. A frame that starts with a digit is counted if the
digits turn out to be a length. Frames above a size limit are read to their end and reported
without being kept.

Bytes arrive in pieces. The reader is a machine whose step looks at the next piece and takes some
of it; `readFrame` runs the machine until a frame is complete, and `readFrames` reads a stream to
its end.
-/

namespace SyslogCollector.Listener

/-- What has arrived on a stream and is not read yet, in the pieces in which it arrived. -/
abbrev Pieces := List (List UInt8)

namespace Pieces

/-- How many bytes are there. -/
def byteCount : Pieces → Nat
  | [] => 0
  | piece :: ps => piece.length + byteCount ps

/-- Puts back what is left of a piece. -/
def push (piece : List UInt8) (ps : Pieces) : Pieces :=
  if piece.isEmpty then ps else piece :: ps

theorem byteCount_cons (piece : List UInt8) (ps : Pieces) :
    byteCount (piece :: ps) = piece.length + byteCount ps := by
  simp [byteCount]

theorem byteCount_push (piece : List UInt8) (ps : Pieces) :
    byteCount (push piece ps) = piece.length + byteCount ps := by
  unfold push
  split
  · simp_all
  · exact byteCount_cons piece ps

/-- Some bytes, cut into pieces of a given size. Pieces of size 0 hold nothing. -/
def ofBytes (size : Nat) (bytes : List UInt8) : Pieces :=
  if size = 0 then []
  else match bytes with
    | [] => []
    | b :: rest => (b :: rest.take (size - 1)) :: ofBytes size (rest.drop (size - 1))
  termination_by bytes.length
  decreasing_by simp only [List.length_drop, List.length_cons]; omega

end Pieces

/-- The byte that ends the length of a counted frame. -/
def space : UInt8 := 32

/-- Whether a byte is an ASCII digit. -/
def isDigit (b : UInt8) : Bool :=
  48 ≤ b && b ≤ 57

/-- The number that ASCII digits denote. -/
def decimal (digits : List UInt8) : Nat :=
  digits.foldl (fun n b => n * 10 + (b.toNat - 48)) 0

/-- The most digits that a length may have. -/
def maxCountDigits : Nat := 10

/-- What reading a frame comes to. -/
inductive Frame where
  /-- A frame is complete; the number is the size it is accounted with. -/
  | message (size : Nat)
  /-- A frame was above the limit and is gone. -/
  | tooLong
  /-- The stream is at its end. -/
  | endOfStream
  deriving DecidableEq, Repr

/-- A frame, the bytes of it, and what is left of the stream. -/
structure Reading where
  /-- What kind of end it came to. -/
  frame : Frame
  /-- The bytes of a complete frame, with the line feed that ended it; else nothing. -/
  buffer : List UInt8
  /-- What is left of the stream. -/
  rest : Pieces
  deriving DecidableEq, Repr

/-- Where the reader stands within a frame. -/
inductive ReaderState where
  /-- Nothing is read yet. -/
  | start
  /-- The frame starts with these digits, which may become a length. -/
  | count (digits : List UInt8)
  /-- In a counted frame above the limit: so many bytes are still to be left out. -/
  | skip (remaining : Nat)
  /-- In a counted frame: these bytes are read, and so many are to come. -/
  | body (buffer : List UInt8) (remaining : Nat)
  /-- In a line: these bytes are kept, so many were read, and whether the limit is exceeded. -/
  | line (buffer : List UInt8) (read : Nat) (exceeded : Bool)
  deriving DecidableEq, Repr

namespace ReaderState

/-- The bytes that the reader holds. -/
def buffer : ReaderState → List UInt8
  | .start | .skip _ => []
  | .count digits => digits
  | .body buffer _ => buffer
  | .line buffer .. => buffer

/-- A line whose first bytes are read already. -/
def lineFrom (max : Nat) (digits : List UInt8) : ReaderState :=
  .line digits digits.length (max < digits.length)

/-- A counted frame of the given length. -/
def counted (max length : Nat) : ReaderState :=
  if max < length then .skip length else .body [] length

/-- How far a state is from the first byte of the text, for states that take no byte. -/
def rank : ReaderState → Nat
  | .start => 2
  | .count _ => 1
  | _ => 0

end ReaderState

/-- What one step of the reader leads to. -/
inductive Progress where
  /-- The frame goes on. -/
  | more (state : ReaderState) (rest : Pieces)
  /-- The frame is at its end. -/
  | done (reading : Reading)
  deriving DecidableEq, Repr

/-- The end of a line: the frame, or the report that it was too long. -/
def endLine (buffer : List UInt8) (read : Nat) (exceeded : Bool) (rest : Pieces) : Progress :=
  .done (if exceeded then ⟨.tooLong, [], rest⟩ else ⟨.message read, buffer, rest⟩)

/-- One step within a line: takes the next piece up to its first line feed. The line feed does not
count against the limit. Once the limit is exceeded nothing more is kept. -/
def stepLine (max : Nat) (buffer : List UInt8) (read : Nat) (exceeded : Bool)
    (ps : Pieces) : Progress :=
  match ps with
  | [] =>
    if buffer.isEmpty && !exceeded then .done ⟨.endOfStream, [], []⟩
    else endLine buffer read exceeded []
  | piece :: rest =>
    match Lines.cut? piece with
    | some (line, after) =>
      let fits := !exceeded && line.length - 1 ≤ max - buffer.length
      endLine (if fits then buffer ++ line else buffer) (read + line.length) (!fits)
        (Pieces.push after rest)
    | none =>
      let fits := !exceeded && piece.length ≤ max - buffer.length
      .more (.line (if fits then buffer ++ piece else buffer) (read + piece.length) (!fits)) rest

/-- One step of the reader. -/
def step (max : Nat) (s : ReaderState) (ps : Pieces) : Progress :=
  match s, ps with
  | .start, [] => .done ⟨.endOfStream, [], []⟩
  | .start, [] :: rest => .more .start rest
  | .start, (b :: piece) :: rest =>
    .more (if isDigit b then .count [] else .lineFrom max []) ((b :: piece) :: rest)
  | .count digits, [] => .more (.lineFrom max digits) []
  | .count digits, [] :: rest => .more (.count digits) rest
  | .count digits, (b :: piece) :: rest =>
    if isDigit b ∧ digits.length < maxCountDigits then
      .more (.count (digits ++ [b])) (Pieces.push piece rest)
    else if b = space ∧ digits ≠ [] then
      .more (.counted max (decimal digits)) (Pieces.push piece rest)
    else .more (.lineFrom max digits) ((b :: piece) :: rest)
  | .skip 0, ps => .done ⟨.tooLong, [], ps⟩
  | .skip _, [] => .done ⟨.endOfStream, [], []⟩
  | .skip n, piece :: rest => .more (.skip (n - piece.length)) (Pieces.push (piece.drop n) rest)
  | .body buffer 0, ps => .done ⟨.message buffer.length, buffer, ps⟩
  | .body _ _, [] => .done ⟨.endOfStream, [], []⟩
  | .body buffer n, piece :: rest =>
    .more (.body (buffer ++ piece.take n) (n - piece.length)) (Pieces.push (piece.drop n) rest)
  | .line buffer read exceeded, ps => stepLine max buffer read exceeded ps

/-- How much work is left, at most, in a state with these pieces. -/
def remainingWork (s : ReaderState) (ps : Pieces) : Nat :=
  ps.byteCount + ps.length + s.rank

theorem length_push_le (piece : List UInt8) (ps : Pieces) :
    (Pieces.push piece ps).length ≤ ps.length + 1 := by
  unfold Pieces.push
  split <;> simp

/-- A step within a line that goes on takes the whole piece. -/
theorem stepLine_more {max read : Nat} {buffer : List UInt8} {exceeded : Bool} {t : ReaderState}
    {ps rest : Pieces} (h : stepLine max buffer read exceeded ps = .more t rest) :
    ∃ piece, ps = piece :: rest ∧ t.rank = 0 := by
  unfold stepLine endLine at h
  split at h
  · split at h <;> simp at h
  · split at h
    · simp at h
    · simp only [Progress.more.injEq] at h
      obtain ⟨rfl, rfl⟩ := h
      exact ⟨_, rfl, rfl⟩

/-- Every step that goes on gets closer to the end. -/
theorem remainingWork_lt {max : Nat} {s t : ReaderState} {ps rest : Pieces}
    (h : step max s ps = .more t rest) : remainingWork t rest < remainingWork s ps := by
  have hcounted (n : Nat) : (ReaderState.counted max n).rank = 0 := by
    unfold ReaderState.counted
    split <;> rfl
  unfold step at h
  split at h
  case h_1 => simp at h
  case h_2 rest =>
    simp only [Progress.more.injEq] at h
    obtain ⟨rfl, rfl⟩ := h
    simp [remainingWork, Pieces.byteCount_cons]
  case h_3 b piece rest =>
    simp only [Progress.more.injEq] at h
    obtain ⟨rfl, rfl⟩ := h
    simp only [remainingWork]
    split <;> simp [ReaderState.rank, ReaderState.lineFrom]
  case h_4 digits =>
    simp only [Progress.more.injEq] at h
    obtain ⟨rfl, rfl⟩ := h
    simp [remainingWork, ReaderState.rank, ReaderState.lineFrom]
  case h_5 digits rest =>
    simp only [Progress.more.injEq] at h
    obtain ⟨rfl, rfl⟩ := h
    simp [remainingWork, Pieces.byteCount_cons]
  case h_6 digits b piece rest =>
    have hlength := length_push_le piece rest
    split at h
    · simp only [Progress.more.injEq] at h
      obtain ⟨rfl, rfl⟩ := h
      simp only [remainingWork, Pieces.byteCount_cons, Pieces.byteCount_push, List.length_cons,
        ReaderState.rank]
      omega
    · split at h
      · simp only [Progress.more.injEq] at h
        obtain ⟨rfl, rfl⟩ := h
        simp only [remainingWork, Pieces.byteCount_cons, Pieces.byteCount_push, List.length_cons,
          hcounted]
        omega
      · simp only [Progress.more.injEq] at h
        obtain ⟨rfl, rfl⟩ := h
        simp [remainingWork, ReaderState.rank, ReaderState.lineFrom]
  case h_7 => simp at h
  case h_8 => simp at h
  case h_9 n piece rest hn =>
    have hlength := length_push_le (piece.drop n) rest
    simp only [Progress.more.injEq] at h
    obtain ⟨rfl, rfl⟩ := h
    simp only [remainingWork, Pieces.byteCount_cons, Pieces.byteCount_push, List.length_cons,
      List.length_drop, ReaderState.rank]
    rcases Nat.eq_zero_or_pos piece.length with hp | hp
    · have hnil : piece = [] := List.length_eq_zero_iff.1 hp
      subst hnil
      simp [Pieces.push]
    · have : n ≠ 0 := hn
      omega
  case h_10 => simp at h
  case h_11 => simp at h
  case h_12 buffer n piece rest hn =>
    have hlength := length_push_le (piece.drop n) rest
    simp only [Progress.more.injEq] at h
    obtain ⟨rfl, rfl⟩ := h
    simp only [remainingWork, Pieces.byteCount_cons, Pieces.byteCount_push, List.length_cons,
      List.length_drop, ReaderState.rank]
    rcases Nat.eq_zero_or_pos piece.length with hp | hp
    · have hnil : piece = [] := List.length_eq_zero_iff.1 hp
      subst hnil
      simp [Pieces.push]
    · have : n ≠ 0 := hn
      omega
  case h_13 =>
    obtain ⟨piece, rfl, hrank⟩ := stepLine_more h
    simp only [remainingWork, Pieces.byteCount_cons, List.length_cons, hrank]
    omega

/-- Runs the reader to the end of a frame. -/
def runFrame (max : Nat) (s : ReaderState) (ps : Pieces) : Reading :=
  match _h : step max s ps with
  | .done reading => reading
  | .more t rest => runFrame max t rest
  termination_by remainingWork s ps
  decreasing_by exact remainingWork_lt _h

/-- Reads the next frame. -/
def readFrame (max : Nat) (ps : Pieces) : Reading :=
  runFrame max .start ps

/-- Reads frames until the stream is at its end: all readings but that last one. Every frame takes
at least one byte, so the bytes of the stream bound how many there are. -/
def readFrames (max : Nat) (ps : Pieces) : List Reading :=
  go (ps.byteCount + 1) ps
where
  /-- Reads at most so many frames. -/
  go : Nat → Pieces → List Reading
    | 0, _ => []
    | fuel + 1, ps =>
      let reading := readFrame max ps
      if reading.frame = .endOfStream then [] else reading :: go fuel reading.rest

/-- A frame without the line feed that ended it, and without a carriage return before that. -/
def trimLineEnd (frame : List UInt8) : List UInt8 :=
  match frame.reverse with
  | 10 :: 13 :: rest => rest.reverse
  | 10 :: rest => rest.reverse
  | _ => frame

end SyslogCollector.Listener
