import Mathlib.Data.List.Forall2
import SyslogCollector.Proofs.Framing.Stream
/-!
# Frames as senders write them

A sender writes a frame with its length in front or with a line feed behind. Frames of both kinds
may follow each other in any order, so the bytes that one frame takes decide how all later ones are
read. A written frame is read back alone, whatever follows it (`frameOutcome_bytes`), also where it
is above the limit; with that a stream of written frames is read back frame by frame
(`written_frames_read_back`).
-/

namespace SyslogCollector.Listener

/-- A way to write the length of a counted frame. Leading zeros are allowed. -/
structure WrittenLength (n : Nat) where
  /-- The digits on the wire. -/
  digits : List UInt8
  /-- There are only digits. -/
  all_digits : ∀ b ∈ digits, isDigit b = true
  /-- There is a digit. -/
  ne_nil : digits ≠ []
  /-- There are no more of them than a reader takes for a length. -/
  length_le : digits.length ≤ maxCountDigits
  /-- They denote the length. -/
  denotes : decimal digits = n

/-- A frame as a sender writes it. -/
inductive WireFrame where
  /-- The length of the body, a space, and the body, which may be any bytes. -/
  | counted (body : List UInt8) (length : WrittenLength body.length)
  /-- The body and a line feed. The body is on one line and does not start with a digit. -/
  | line (body : List UInt8) (one_line : Lines.lineFeed ∉ body)
    (no_length : ∀ b ∈ body.head?, isDigit b = false)

namespace WireFrame

/-- The bytes that are meant. -/
def body : WireFrame → List UInt8
  | .counted body _ => body
  | .line body .. => body

/-- The bytes that a reader keeps: the body, with the line feed of a line. -/
def text : WireFrame → List UInt8
  | .counted body _ => body
  | .line body .. => body ++ [Lines.lineFeed]

/-- The bytes on the wire. -/
def bytes : WireFrame → List UInt8
  | .counted body length => length.digits ++ space :: body
  | .line body .. => body ++ [Lines.lineFeed]

/-- What a reader is to make of a frame: its text if the body is within the limit. -/
def delivered (max : Nat) (w : WireFrame) : Frame × List UInt8 :=
  if w.body.length ≤ max then (.message w.text.length, w.text) else (.tooLong, [])

/-- What a reader is to show of a frame that some bytes follow. -/
def outcome (max : Nat) (w : WireFrame) (rest : List UInt8) : FrameOutcome :=
  if w.body.length ≤ max then ⟨.message w.text.length, w.text, rest⟩ else ⟨.tooLong, [], rest⟩

/-- What a reader is to show of some frames, call by call. -/
def outcomes (max : Nat) : List WireFrame → List FrameOutcome
  | [] => []
  | w :: ws => w.outcome max (ws.flatMap bytes) :: outcomes max ws

/-- A reader makes something of every frame. -/
theorem frame_outcome_ne (max : Nat) (w : WireFrame) (rest : List UInt8) :
    (w.outcome max rest).frame ≠ .endOfStream := by
  unfold outcome
  split <;> nofun

/-- A frame leaves what follows it, also where it is above the limit. -/
theorem rest_outcome (max : Nat) (w : WireFrame) (rest : List UInt8) :
    (w.outcome max rest).rest = rest := by
  unfold outcome
  split <;> rfl

/-- What is made of a frame depends on that frame alone. -/
theorem map_outcomes (max : Nat) (ws : List WireFrame) :
    (outcomes max ws).map (fun o => (o.frame, o.buffer)) = ws.map (delivered max) := by
  induction ws with
  | nil => rfl
  | cons w ws ih =>
    rw [outcomes, List.map_cons, List.map_cons, ih, outcome, delivered]
    split <;> rfl

end WireFrame

/-! ## One written frame -/

/-- Digits in front of a frame are collected as long as they may be a length. -/
theorem countOutcome_digits (max : Nat) {digits : List UInt8} (h : ∀ b ∈ digits, isDigit b = true)
    (seen : List UInt8) (hlength : seen.length + digits.length ≤ maxCountDigits)
    (rest : List UInt8) :
    countOutcome max seen (digits ++ rest) = countOutcome max (seen ++ digits) rest := by
  induction digits generalizing seen with
  | nil => rw [List.nil_append, List.append_nil]
  | cons b digits ih =>
    -- one digit moves from those to come to those that are seen
    have hb : isDigit b = true := h b List.mem_cons_self
    rw [List.length_cons] at hlength
    have hroom : seen.length < maxCountDigits := by omega
    rw [List.cons_append, countOutcome, if_pos ⟨hb, hroom⟩,
      ih (fun c hc => h c (List.mem_cons_of_mem b hc))]
    · rw [List.append_assoc, List.singleton_append]
    · rw [List.length_append, List.length_singleton]
      omega

/-- A length and the space behind it announce the body. -/
theorem frameOutcome_length (max : Nat) {n : Nat} (length : WrittenLength n)
    (rest : List UInt8) :
    frameOutcome max (length.digits ++ space :: rest) = countedOutcome max n rest := by
  obtain ⟨digits, hdigits, hne, hlength, rfl⟩ := length
  obtain ⟨b, more, rfl⟩ := List.exists_cons_of_ne_nil hne
  have hb : isDigit b = true := hdigits b List.mem_cons_self
  -- the space is no digit, so the length ends there
  have hspace : ¬ (isDigit space = true ∧ (b :: more).length < maxCountDigits) :=
    fun h => absurd h.1 (by decide)
  rw [List.cons_append, frameOutcome, if_pos hb, ← List.cons_append,
    countOutcome_digits max hdigits [] (by simpa using hlength), List.nil_append, countOutcome,
    if_neg hspace, if_pos ⟨rfl, hne⟩]

/-- A counted body is taken whole and nothing behind it is. -/
theorem countedOutcome_append (max : Nat) (body rest : List UInt8) :
    countedOutcome max body.length (body ++ rest) =
      if body.length ≤ max then ⟨.message body.length, body, rest⟩ else ⟨.tooLong, [], rest⟩ := by
  -- all bytes of the body are there, so the stream cannot end within it
  have hthere : ¬ (body ++ rest).length < body.length := by
    rw [List.length_append]
    omega
  unfold countedOutcome skipOutcome bodyOutcome
  rw [if_neg hthere, if_neg hthere, List.drop_left, List.take_left, List.length_nil, Nat.zero_add,
    List.nil_append]
  by_cases hfits : body.length ≤ max
  · rw [if_neg (Nat.not_lt.2 hfits), if_pos hfits]
  · rw [if_pos (Nat.lt_of_not_le hfits), if_neg hfits]

/-- A line is taken up to its line feed and nothing behind it is. -/
theorem lineFromOutcome_append (max : Nat) {body : List UInt8} (h : Lines.lineFeed ∉ body)
    (rest : List UInt8) :
    lineFromOutcome max [] (body ++ Lines.lineFeed :: rest) =
      if body.length ≤ max then
        ⟨.message (body ++ [Lines.lineFeed]).length, body ++ [Lines.lineFeed], rest⟩
      else ⟨.tooLong, [], rest⟩ := by
  have hcontent : (body ++ [Lines.lineFeed]).length - 1 = body.length := by
    rw [List.length_append, List.length_singleton, Nat.add_sub_cancel]
  rw [lineFromOutcome, lineOutcome, Lines.cut?_line h]
  by_cases hfits : body.length ≤ max
  · simp [hfits, FrameOutcome.ofLine]
  · simp [hfits, FrameOutcome.ofLine]

/-- A frame that does not start with a digit is a line. -/
theorem frameOutcome_line (max : Nat) {body : List UInt8}
    (h : ∀ b ∈ body.head?, isDigit b = false) (rest : List UInt8) :
    frameOutcome max (body ++ Lines.lineFeed :: rest) =
      lineFromOutcome max [] (body ++ Lines.lineFeed :: rest) := by
  cases body with
  | nil => rfl
  | cons b body =>
    have hb : isDigit b = false := h b rfl
    rw [List.cons_append, frameOutcome, hb]
    rfl

/-- A written frame is read back, and what follows it is left. -/
theorem frameOutcome_bytes (max : Nat) (w : WireFrame) (rest : List UInt8) :
    frameOutcome max (w.bytes ++ rest) = w.outcome max rest := by
  cases w with
  | counted body length =>
    rw [WireFrame.bytes, List.append_assoc, List.cons_append, frameOutcome_length,
      countedOutcome_append]
    rfl
  | line body one_line no_length =>
    rw [WireFrame.bytes, List.append_assoc, List.singleton_append, frameOutcome_line max no_length,
      lineFromOutcome_append max one_line]
    rfl

/-! ## A stream of written frames -/

/-- The calls on written frames show one frame after the other, each leaving the later ones. -/
theorem readsToEnd_written (max : Nat) (ws : List WireFrame) {ps : Pieces}
    (h : ps.flatten = ws.flatMap WireFrame.bytes) :
    ∃ rs last, ReadsToEnd max ps (rs ++ [last]) ∧ last.outcome = .ended ∧
      rs.map Reading.outcome = WireFrame.outcomes max ws := by
  induction ws generalizing ps with
  | nil =>
    have hlast : (readFrame max ps).outcome = .ended := by
      rw [outcome_readFrame, h]
      rfl
    exact ⟨[], readFrame max ps, .last (congrArg FrameOutcome.frame hlast), hlast, rfl⟩
  | cons w ws ih =>
    have hfirst : (readFrame max ps).outcome = w.outcome max (ws.flatMap WireFrame.bytes) := by
      rw [outcome_readFrame, h, List.flatMap_cons, frameOutcome_bytes]
    have hgo : (readFrame max ps).outcome.frame ≠ .endOfStream := by
      rw [hfirst]
      exact w.frame_outcome_ne max _
    -- what the call leaves is what the later frames were written as
    have hrest : (readFrame max ps).outcome.rest = ws.flatMap WireFrame.bytes := by
      rw [hfirst, w.rest_outcome]
    obtain ⟨rs, last, hrs, hlast, hmap⟩ := ih hrest
    refine ⟨readFrame max ps :: rs, last, .next hgo hrs, hlast, ?_⟩
    rw [List.map_cons, hfirst, hmap, WireFrame.outcomes]

/-- What a reading says about a written frame: its text but for the end of the line if the body is
within the limit, and that it was too long if not. -/
def WireFrame.ReadAs (max : Nat) (w : WireFrame) (r : Reading) : Prop :=
  (w.body.length ≤ max →
    (∃ size, r.frame = .message size) ∧ trimLineEnd r.buffer = trimLineEnd w.text) ∧
  (max < w.body.length → r.frame = .tooLong)

/-- A reading that gives what is to be delivered says so. -/
theorem WireFrame.readAs_of_delivered {max : Nat} {w : WireFrame} {r : Reading}
    (h : (r.frame, r.buffer) = w.delivered max) : w.ReadAs max r := by
  unfold delivered at h
  refine ⟨fun hfits => ?_, fun hlong => ?_⟩
  · rw [if_pos hfits, Prod.mk.injEq] at h
    exact ⟨⟨_, h.1⟩, by rw [h.2]⟩
  · rw [if_neg (Nat.not_le.2 hlong), Prod.mk.injEq] at h
    exact h.1

/-- Written frames are read back. In whatever pieces their bytes arrive, the calls give one reading
for each frame, in order, and then the end of the stream. Every reading is of its own frame alone
and leaves the bytes of the later ones, so neither an empty frame nor one above the limit changes
how later frames are read. -/
theorem written_frames_read_back (max : Nat) (ws : List WireFrame) {ps : Pieces}
    (h : ps.flatten = ws.flatMap WireFrame.bytes) :
    ∃ rs last, ReadsToEnd max ps (rs ++ [last]) ∧ last.frame = .endOfStream ∧
      readFrames max ps = rs ∧
      List.Forall₂ (WireFrame.ReadAs max) ws rs ∧
      rs.map (fun r => (r.frame, r.buffer)) = ws.map (WireFrame.delivered max) ∧
      rs.map Reading.outcome = WireFrame.outcomes max ws := by
  obtain ⟨rs, last, hrs, hlast, hmap⟩ := readsToEnd_written max ws h
  have hdelivered : rs.map (fun r => (r.frame, r.buffer)) = ws.map (WireFrame.delivered max) := by
    rw [← WireFrame.map_outcomes, ← hmap, List.map_map]
    rfl
  refine ⟨rs, last, hrs, congrArg FrameOutcome.frame hlast, ?_, ?_, hdelivered, hmap⟩
  · rw [hrs.readFrames_eq, List.dropLast_concat]
  · have hpairs : List.Forall₂ (· = ·) (ws.map (WireFrame.delivered max))
        (rs.map fun r => (r.frame, r.buffer)) := by
      rw [List.forall₂_eq_eq_eq, hdelivered]
    rw [List.forall₂_map_left_iff, List.forall₂_map_right_iff] at hpairs
    exact hpairs.imp fun w r hpair => WireFrame.readAs_of_delivered hpair.symm

/-- A counted frame above the limit, with a digit and a line feed in it, and a line after it. -/
theorem written_frames_read_back_after_long :
    let long : WireFrame := .counted [51, 10, 32, 52, 10]
      ⟨[53], List.forall_mem_singleton.2 rfl, List.cons_ne_nil _ _, by decide, rfl⟩
    let line : WireFrame := .line [60, 97] (by decide) (fun b hb => Option.some.inj hb ▸ rfl)
    let ps : Pieces := [[53, 32, 51], [10, 32, 52, 10, 60], [97], [10]]
    ps.flatten = [long, line].flatMap WireFrame.bytes ∧
      (readFrames 4 ps).map (fun r => (r.frame, r.buffer)) =
        [(.tooLong, []), (.message 3, [60, 97, 10])] := by
  intro long line ps
  have hflat : ps.flatten = [long, line].flatMap WireFrame.bytes := rfl
  obtain ⟨rs, last, -, -, hrs, -, hdelivered, -⟩ := written_frames_read_back 4 [long, line] hflat
  refine ⟨hflat, ?_⟩
  rw [hrs, hdelivered]
  rfl

end SyslogCollector.Listener
