import SyslogCollector.Proofs.Listener.Connection
/-!
# The memory of the reader

A frame is read into one buffer. Whatever a sender announces or fails to end, the reader keeps no
more than a whole line and its line feed, or the digits of a length that turned out to be none
(`ReaderState.Within`). This holds at every step of a call, of a call on bytes that are still
arriving, and of what a call gives (`frame_memory_bounded`).
-/

namespace SyslogCollector.Listener

open Lines (lineFeed)

namespace ReaderState

/-- How many bytes the frame buffer has. A counted frame that is within the limit gets the room for
all its bytes at once. -/
def held : ReaderState → Nat
  | .body buffer remaining => buffer.length + remaining
  | s => s.buffer.length

/-- What the reader keeps at most, in each of its states. -/
inductive Within (limit : Nat) : ReaderState → Prop
  | start : Within limit .start
  | count {digits : List UInt8} (hdigits : digits.length ≤ maxCountDigits) :
      Within limit (.count digits)
  | skip (remaining : Nat) : Within limit (.skip remaining)
  | body {buffer : List UInt8} {remaining : Nat} (hroom : buffer.length + remaining ≤ limit) :
      Within limit (.body buffer remaining)
  | line {buffer : List UInt8} (hfits : buffer.length ≤ limit) (read : Nat) (exceeded : Bool) :
      Within limit (.line buffer read exceeded)
  /-- The digits of what is no length may be above the limit. Nothing comes to them then. -/
  | digits {buffer : List UInt8} (hdigits : buffer.length ≤ maxCountDigits) (read : Nat) :
      Within limit (.line buffer read true)

theorem Within.held_le {limit : Nat} {s : ReaderState} (h : s.Within limit) :
    s.held ≤ max limit maxCountDigits := by
  cases h with
  | start | skip => exact Nat.zero_le _
  | count hdigits => exact Nat.le_trans hdigits (Nat.le_max_right _ _)
  | body hroom => exact Nat.le_trans hroom (Nat.le_max_left _ _)
  | line hfits => exact Nat.le_trans hfits (Nat.le_max_left _ _)
  | digits hdigits => exact Nat.le_trans hdigits (Nat.le_max_right _ _)

theorem within_lineFrom (limit : Nat) {digits : List UInt8}
    (hdigits : digits.length ≤ maxCountDigits) : (lineFrom limit digits).Within limit := by
  unfold lineFrom
  by_cases hfits : digits.length ≤ limit
  · exact .line hfits _ _
  · rw [decide_eq_true (Nat.lt_of_not_le hfits)]
    exact .digits hdigits _

theorem within_counted (limit length : Nat) : (counted limit length).Within limit := by
  unfold counted
  split
  · exact .skip length
  · rename_i hfits
    exact .body (by simpa using hfits)

end ReaderState

/-- What a reading may give: a message within the limit, whose line feed does not count, or
nothing. -/
inductive Reading.Within (limit : Nat) : Reading → Prop
  | whole {buffer : List UInt8} (hfits : buffer.length ≤ limit) (size : Nat) (rest : Pieces) :
      Within limit ⟨.message size, buffer, rest⟩
  | line {body : List UInt8} (hfits : body.length ≤ limit) (size : Nat) (rest : Pieces) :
      Within limit ⟨.message size, body ++ [lineFeed], rest⟩
  | tooLong (rest : Pieces) : Within limit ⟨.tooLong, [], rest⟩
  | ended (rest : Pieces) : Within limit ⟨.endOfStream, [], rest⟩

theorem Reading.Within.length_buffer_le {limit : Nat} {r : Reading} (h : r.Within limit) :
    r.buffer.length ≤ limit + 1 := by
  cases h with
  | whole hfits => exact Nat.le_succ_of_le hfits
  | line hfits =>
    rw [List.length_append]
    exact Nat.succ_le_succ hfits
  | tooLong | ended => exact Nat.zero_le _

/-- What a step may lead to. -/
def Progress.Within (limit : Nat) : Progress → Prop
  | .more s _ => s.Within limit
  | .done r => r.Within limit

/-! ## The steps -/

/-- At the end of a line within the limit the buffer is given, at the end of any other nothing. -/
theorem within_endLine {limit : Nat} {buffer : List UInt8} {exceeded : Bool} (read : Nat)
    (rest : Pieces)
    (h : exceeded = false → Reading.Within limit ⟨.message read, buffer, rest⟩) :
    (endLine buffer read exceeded rest).Within limit := by
  cases exceeded with
  | false => exact h rfl
  | true => exact .tooLong rest

/-- A line keeps what it has, and takes from the next piece only what is within the limit. -/
theorem within_stepLine {limit read : Nat} {buffer : List UInt8} {exceeded : Bool}
    (h : (ReaderState.line buffer read exceeded).Within limit) (ps : Pieces) :
    (stepLine limit buffer read exceeded ps).Within limit := by
  -- what was kept is within the limit, or nothing more is kept
  have hkept : exceeded = false → buffer.length ≤ limit := by
    cases h with
    | line hfits => exact fun _ => hfits
    | digits => exact nofun
  cases ps with
  | nil =>
    simp only [stepLine]
    split
    · exact .ended []
    · exact within_endLine read [] fun hgo => .whole (hkept hgo) read []
  | cons piece rest =>
    have hroom {more : Nat} (hfits : (!exceeded && decide (more ≤ limit - buffer.length)) = true) :
        buffer.length + more ≤ limit := by
      rw [Bool.and_eq_true, Bool.not_eq_true', decide_eq_true_iff] at hfits
      have hbuffer := hkept hfits.1
      omega
    simp only [stepLine]
    split
    · -- the line ends in this piece
      rename_i line after hcut
      obtain ⟨body, rfl, -⟩ := Lines.line_of_cut? hcut
      refine within_endLine _ _ fun hgo => ?_
      rw [Bool.not_eq_false'] at hgo
      have hfits := hroom hgo
      rw [if_pos hgo, ← List.append_assoc]
      refine .line ?_ _ _
      rw [List.length_append, List.length_singleton, Nat.add_sub_cancel] at hfits
      rw [List.length_append]
      exact hfits
    · -- the line goes on behind this piece
      cases hfits : !exceeded && decide (piece.length ≤ limit - buffer.length) with
      | true =>
        refine .line ?_ _ _
        rw [if_pos rfl, List.length_append]
        exact hroom hfits
      | false =>
        rw [if_neg Bool.false_ne_true]
        cases h with
        | line hline => exact .line hline _ _
        | digits hdigits => exact .digits hdigits _

/-- Every step keeps to what the reader may keep. -/
theorem within_step {limit : Nat} {s : ReaderState} (h : s.Within limit) (ps : Pieces) :
    (step limit s ps).Within limit := by
  unfold step
  split
  case h_1 => exact Reading.Within.ended []
  case h_2 => exact .start
  case h_3 b piece rest =>
    split
    · exact .count (Nat.zero_le _)
    · exact ReaderState.within_lineFrom limit (Nat.zero_le _)
  case h_4 digits =>
    cases h with
    | count hdigits => exact ReaderState.within_lineFrom limit hdigits
  case h_5 => exact h
  case h_6 digits b piece rest =>
    cases h with
    | count hdigits =>
      split
      case isTrue hdigit =>
        refine .count ?_
        rw [List.length_append]
        exact hdigit.2
      case isFalse =>
        split
        · exact ReaderState.within_counted limit _
        · exact ReaderState.within_lineFrom limit hdigits
  case h_7 => exact Reading.Within.tooLong _
  case h_8 => exact Reading.Within.ended []
  case h_9 n piece rest _ => exact .skip _
  case h_10 =>
    cases h with
    | body hroom => exact Reading.Within.whole hroom _ _
  case h_11 => exact Reading.Within.ended []
  case h_12 buffer n piece rest _ =>
    cases h with
    | body hroom =>
      -- what is read now is no longer to come
      refine .body (Nat.le_trans (Nat.le_of_eq ?_) hroom)
      rw [List.length_append, List.length_take]
      omega
  case h_13 => exact within_stepLine h ps

/-! ## The states of a call -/

/-- The states that the reader passes in a call on a stream, each with what is left of the stream
then. -/
inductive Passes (limit : Nat) (ps : Pieces) : ReaderState → Pieces → Prop
  /-- The call begins. -/
  | first : Passes limit ps .start ps
  /-- The reader takes a step and the frame goes on. -/
  | next {s t : ReaderState} {rest rest' : Pieces} (h : Passes limit ps s rest)
      (hstep : step limit s rest = .more t rest') : Passes limit ps t rest'

theorem Passes.within {limit : Nat} {ps rest : Pieces} {s : ReaderState}
    (h : Passes limit ps s rest) : s.Within limit := by
  induction h with
  | first => exact .start
  | @next s t rest rest' _ hstep ih =>
    have hmore := within_step ih rest
    rw [hstep] at hmore
    exact hmore

/-- From every state that a call passes it comes to its end in a state that it passes. -/
theorem Passes.exists_done {limit : Nat} {ps rest : Pieces} {s : ReaderState}
    (h : Passes limit ps s rest) :
    ∃ t rest', Passes limit ps t rest' ∧ step limit t rest' = .done (runFrame limit s rest) := by
  -- along the run of the reader
  induction s, rest using runFrame.induct limit with
  | case1 s rest r hdone =>
    rw [runFrame, hdone]
    exact ⟨s, rest, h, hdone⟩
  | case2 s rest t rest' hmore ih =>
    rw [runFrame, hmore]
    exact ih (h.next hmore)

/-! ## The reader of a connection -/

/-- The reader of every connection keeps to what it may keep, however the bytes arrive. -/
theorem State.Reachable.within {n : Network} {options : Options} {s : State}
    (h : Reachable n { options } s) :
    s.options = options ∧
      ∀ id c, s.connection? id = some c → c.reader.Within options.maxMessageSize := by
  induction h with
  | refl => exact ⟨rfl, nofun⟩
  | @step s s' a _ hstep ih =>
    obtain ⟨henabled, rfl⟩ := hstep
    obtain ⟨hoptions, hwithin⟩ := ih
    have hsame : (s.next n a).options = s.options := by
      obtain ⟨_, hadds, -⟩ := s.exists_adds_next n a
      exact hadds.options
    refine ⟨hsame.trans hoptions, fun id c hc => ?_⟩
    by_cases hown : a.source? = some (.connection id)
    · cases hbefore : s.connection? id with
      | none =>
        -- the first action of a connection is to accept it
        cases a with
        | start | stop | close | datagram => cases hown
        | accept own =>
          cases hown
          cases (connection?_put_self s id {}).symm.trans hc
          exact .start
        | arrive own | finish own | read own | expire own | reset own | fail own | answer own
        | leave own =>
          cases hown
          simp [enabled, phase?, hbefore] at henabled
      | some before =>
        have haccept : a ≠ .accept id := by
          rintro rfl
          simp [enabled, hbefore] at henabled
        cases (connection?_next_self n hbefore hown haccept).symm.trans hc
        have hreader := hwithin id before hbefore
        cases a with
        | read own received =>
          have hprogress := within_step hreader before.arrived
          simp only [Connection.next, hoptions]
          split
          · rename_i hmore
            rw [hmore] at hprogress
            exact hprogress
          · exact .start
        | _ => exact hreader
    · rw [connection?_next_of_ne n s hown] at hc
      exact hwithin id c hc

/-- The memory for frames is bounded by the limit. For every stream of bytes in whatever pieces, and
every limit:

* in every state that a call passes the frame buffer has no more bytes than the limit and one, or
  than ten if these are more, and from one of these states the call gives its reading;
* so has the buffer of the reading, and that of a message is within the limit but for a line feed at
  its end;
* a call that finds a frame too long or the stream at its end leaves the buffer empty.

The bound also holds for the reader of every connection of a listener, in every state that it can
reach, while the bytes are still arriving. -/
theorem frame_memory_bounded (limit : Nat) (ps : Pieces) :
    (∀ s rest, Passes limit ps s rest → s.held ≤ max (limit + 1) 10) ∧
    (∃ s rest, Passes limit ps s rest ∧ step limit s rest = .done (readFrame limit ps)) ∧
    (readFrame limit ps).buffer.length ≤ max (limit + 1) 10 ∧
    (∀ size, (readFrame limit ps).frame = .message size →
      (readFrame limit ps).buffer.length ≤ limit ∨
        ∃ body, (readFrame limit ps).buffer = body ++ [lineFeed] ∧ body.length ≤ limit) ∧
    ((readFrame limit ps).frame = .tooLong ∨ (readFrame limit ps).frame = .endOfStream →
      (readFrame limit ps).buffer = []) ∧
    ∀ (n : Network) (options : Options) (s : State), State.Reachable n { options } s →
      ∀ id c, s.connection? id = some c →
        c.reader.held ≤ max (options.maxMessageSize + 1) 10 := by
  have hbound {limit : Nat} {s : ReaderState} (h : s.Within limit) :
      s.held ≤ max (limit + 1) 10 := by
    have hheld := h.held_le
    simp only [maxCountDigits] at hheld
    omega
  obtain ⟨last, left, hlast, hdone⟩ := (Passes.first : Passes limit ps .start ps).exists_done
  have hreading : (readFrame limit ps).Within limit := by
    have hprogress := within_step hlast.within left
    rw [hdone] at hprogress
    exact hprogress
  refine ⟨fun s rest hs => hbound hs.within, ⟨last, left, hlast, hdone⟩,
    Nat.le_trans hreading.length_buffer_le (Nat.le_max_left _ _), ?_, ?_, ?_⟩
  · intro size hframe
    generalize readFrame limit ps = r at hreading hframe
    cases hreading with
    | whole hfits => exact .inl hfits
    | line hfits => exact .inr ⟨_, rfl, hfits⟩
    | tooLong | ended => cases hframe
  · intro hframe
    generalize readFrame limit ps = r at hreading hframe
    cases hreading with
    | whole | line => exact hframe.elim nofun nofun
    | tooLong | ended => rfl
  · intro n options s hs id c hc
    exact hbound (hs.within.2 id c hc)

/-- Ten digits that are no length where three bytes are allowed: they are in the buffer when the
limit is looked at, and the line comes to nothing. -/
theorem frame_memory_bounded_ten_digits :
    let ps : Pieces := [[57, 57, 57, 57, 57], [57, 57, 57, 57, 57, 57, 120], [120, 10]]
    ∃ s rest, Passes 3 ps s rest ∧ s.held = 10 ∧ s.held ≤ max (3 + 1) 10 ∧
      (readFrame 3 ps).frame = .tooLong ∧ (readFrame 3 ps).buffer = [] := by
  intro ps
  obtain ⟨hheld, -, -, -, hempty, -⟩ := frame_memory_bounded 3 ps
  have htooLong : (readFrame 3 ps).frame = .tooLong := by
    have houtcome : (readFrame 3 ps).outcome = frameOutcome 3 ps.flatten := outcome_readFrame 3 ps
    exact congrArg FrameOutcome.frame houtcome
  have hfive : Passes 3 ps (.count (List.replicate 5 57)) ps.tail :=
    (((((Passes.first.next rfl).next rfl).next rfl).next rfl).next rfl).next rfl
  have hpasses : Passes 3 ps (.line (List.replicate 10 57) 10 true) [[57, 120], [120, 10]] :=
    (((((hfive.next rfl).next rfl).next rfl).next rfl).next rfl).next rfl
  exact ⟨_, _, hpasses, rfl, hheld _ _ hpasses, htooLong, hempty (.inl htooLong)⟩

end SyslogCollector.Listener
