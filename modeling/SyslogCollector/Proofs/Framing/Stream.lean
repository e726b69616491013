import SyslogCollector.Proofs.Framing.Bytes
/-!
# Reading a stream to its end

The calls that read one frame after the other, up to the first that finds the end of the stream.
Every earlier call takes at least one byte (`frameOutcome_rest_lt`), so the calls come to an end
(`exists_readsToEnd`), and what they show depends on the bytes of the stream alone
(`framing_independent_of_pieces`).
-/

namespace SyslogCollector.Listener

/-! ## What a frame takes off the stream -/

/-- An outcome leaves the end of the bytes it was read from, and nothing at the end of the
stream. -/
structure FrameOutcome.Within (o : FrameOutcome) (bytes : List UInt8) : Prop where
  /-- What is left is an end of the bytes. -/
  suffix : o.rest <:+ bytes
  /-- Nothing is left at the end of the stream. -/
  nothing : o.frame = .endOfStream → o.rest = []

namespace FrameOutcome

/-- Within the bytes after some others is within all of them. -/
theorem Within.append {o : FrameOutcome} {bytes : List UInt8} (h : o.Within bytes)
    (front : List UInt8) : o.Within (front ++ bytes) :=
  ⟨h.suffix.trans (List.suffix_append front bytes), h.nothing⟩

/-- The end of the stream leaves nothing. -/
theorem within_ended (bytes : List UInt8) : ended.Within bytes :=
  ⟨List.nil_suffix, fun _ => rfl⟩

/-- A frame that is not the end of the stream leaves what it leaves. -/
theorem within_of_suffix {frame : Frame} {buffer rest bytes : List UInt8}
    (hframe : frame ≠ .endOfStream) (h : rest <:+ bytes) :
    Within ⟨frame, buffer, rest⟩ bytes :=
  ⟨h, fun hend => absurd hend hframe⟩

/-- The end of a line is no end of the stream. -/
theorem frame_ofLine_ne (buffer : List UInt8) (read : Nat) (exceeded : Bool)
    (rest : List UInt8) : (ofLine buffer read exceeded rest).frame ≠ .endOfStream := by
  cases exceeded <;> nofun

/-- The end of a line leaves what follows it. -/
theorem rest_ofLine (buffer : List UInt8) (read : Nat) (exceeded : Bool) (rest : List UInt8) :
    (ofLine buffer read exceeded rest).rest = rest := by
  cases exceeded <;> rfl

/-- The end of a line leaves an end of the bytes if what follows it is one. -/
theorem within_ofLine {rest bytes : List UInt8} (h : rest <:+ bytes) (buffer : List UInt8)
    (read : Nat) (exceeded : Bool) : (ofLine buffer read exceeded rest).Within bytes := by
  refine ⟨?_, fun hend => absurd hend (frame_ofLine_ne buffer read exceeded rest)⟩
  rw [rest_ofLine]
  exact h

end FrameOutcome

/-- A line leaves what follows its line feed. -/
theorem lineOutcome_within (max read : Nat) (buffer : List UInt8) (exceeded : Bool)
    (bytes : List UInt8) : (lineOutcome max buffer read exceeded bytes).Within bytes := by
  unfold lineOutcome
  split
  · -- what follows the line feed
    rename_i line after hcut
    refine FrameOutcome.within_ofLine ⟨line, ?_⟩ _ _ _
    exact (Lines.append_of_cut? hcut).symm
  · -- the line goes to the end of the stream, so nothing follows it
    dsimp only
    split
    · exact FrameOutcome.within_ended bytes
    · exact FrameOutcome.within_ofLine List.nil_suffix _ _ _

/-- A line takes something if there is something. -/
theorem lineOutcome_rest_lt (max read : Nat) (buffer : List UInt8) (exceeded : Bool)
    {bytes : List UInt8} (h : bytes ≠ []) :
    (lineOutcome max buffer read exceeded bytes).rest.length < bytes.length := by
  unfold lineOutcome
  split
  · rename_i hcut
    rw [FrameOutcome.rest_ofLine]
    exact Lines.length_after_lt hcut
  · dsimp only
    split
    · exact List.length_pos_iff.2 h
    · rw [FrameOutcome.rest_ofLine]
      exact List.length_pos_iff.2 h

/-- A counted frame leaves what follows its bytes. -/
theorem countedOutcome_within (max length : Nat) (bytes : List UInt8) :
    (countedOutcome max length bytes).Within bytes := by
  unfold countedOutcome skipOutcome bodyOutcome
  split <;> split
  · exact FrameOutcome.within_ended bytes
  · exact FrameOutcome.within_of_suffix (by nofun) (List.drop_suffix _ _)
  · exact FrameOutcome.within_ended bytes
  · exact FrameOutcome.within_of_suffix (by nofun) (List.drop_suffix _ _)

/-- A frame that starts with digits leaves an end of what follows these. -/
theorem countOutcome_within (max : Nat) (digits bytes : List UInt8) :
    (countOutcome max digits bytes).Within bytes := by
  induction bytes generalizing digits with
  | nil => exact lineOutcome_within max _ digits _ []
  | cons b bytes ih =>
    rw [countOutcome]
    split
    · exact (ih (digits ++ [b])).append [b]
    · split
      · exact (countedOutcome_within max _ bytes).append [b]
      · exact lineOutcome_within max _ digits _ (b :: bytes)

/-- A frame leaves an end of the bytes. -/
theorem frameOutcome_within (max : Nat) (bytes : List UInt8) :
    (frameOutcome max bytes).Within bytes := by
  cases bytes with
  | nil => exact FrameOutcome.within_ended []
  | cons b bytes =>
    rw [frameOutcome]
    split
    · exact countOutcome_within max [] (b :: bytes)
    · exact lineOutcome_within max _ [] _ (b :: bytes)

/-- A frame takes at least one byte, if there is one. -/
theorem frameOutcome_rest_lt (max : Nat) {bytes : List UInt8} (h : bytes ≠ []) :
    (frameOutcome max bytes).rest.length < bytes.length := by
  cases bytes with
  | nil => exact absurd rfl h
  | cons b bytes =>
    rw [frameOutcome]
    split
    · rename_i hdigit
      -- the first digit always counts, what follows it need not take anything
      rw [countOutcome, if_pos ⟨hdigit, by decide⟩, List.length_cons]
      exact Nat.lt_succ_of_le (countOutcome_within max _ bytes).suffix.length_le
    · exact lineOutcome_rest_lt max _ [] _ h

/-- There is no frame where there are no bytes. -/
theorem ne_nil_of_frameOutcome {max : Nat} {bytes : List UInt8}
    (h : (frameOutcome max bytes).frame ≠ .endOfStream) : bytes ≠ [] := by
  rintro rfl
  exact h rfl

/-! ## The calls until the end -/

/-- The readings of the calls on a stream, one after the other, the last being the first that finds
the end of the stream. -/
inductive ReadsToEnd (max : Nat) : Pieces → List Reading → Prop
  /-- The call finds the end of the stream. -/
  | last {ps : Pieces} (h : (readFrame max ps).frame = .endOfStream) :
      ReadsToEnd max ps [readFrame max ps]
  /-- The call reads a frame and the next ones go on with what it left. -/
  | next {ps : Pieces} {rs : List Reading} (h : (readFrame max ps).frame ≠ .endOfStream)
      (hrest : ReadsToEnd max (readFrame max ps).rest rs) :
      ReadsToEnd max ps (readFrame max ps :: rs)

/-- A call leaves an end of the bytes. -/
theorem readFrame_within (max : Nat) (ps : Pieces) :
    (readFrame max ps).outcome.Within ps.flatten := by
  rw [outcome_readFrame]
  exact frameOutcome_within max ps.flatten

/-- A call that does not find the end leaves fewer bytes. -/
theorem readFrame_rest_lt {max : Nat} {ps : Pieces}
    (h : (readFrame max ps).frame ≠ .endOfStream) :
    (readFrame max ps).rest.flatten.length < ps.flatten.length := by
  have hsame := outcome_readFrame max ps
  have hframe : (frameOutcome max ps.flatten).frame ≠ .endOfStream := by
    rw [← hsame]
    exact h
  have hlt := frameOutcome_rest_lt max (ne_nil_of_frameOutcome hframe)
  rw [← hsame] at hlt
  exact hlt

/-- The calls come to an end, after no more of them than there are bytes and one more. -/
theorem exists_readsToEnd (max : Nat) (ps : Pieces) :
    ∃ rs, ReadsToEnd max ps rs ∧ rs.length ≤ ps.flatten.length + 1 := by
  -- by induction on how many bytes are there, since every call leaves fewer
  induction hn : ps.flatten.length using Nat.strongRecOn generalizing ps with
  | _ n ih =>
    by_cases hend : (readFrame max ps).frame = .endOfStream
    · exact ⟨_, .last hend, by simp⟩
    · have hlt := readFrame_rest_lt hend
      obtain ⟨rs, hrs, hlength⟩ := ih _ (hn ▸ hlt) (readFrame max ps).rest rfl
      refine ⟨_, .next hend hrs, ?_⟩
      rw [List.length_cons]
      omega

namespace ReadsToEnd

variable {max : Nat} {ps qs : Pieces} {rs : List Reading}

/-- There is always a call that finds the end. -/
theorem ne_nil (h : ReadsToEnd max ps rs) : rs ≠ [] := by
  cases h <;> nofun

/-- The same bytes in other pieces show the same. -/
theorem of_flatten_eq (h : ReadsToEnd max ps rs) (hflat : ps.flatten = qs.flatten) :
    ∃ rs', ReadsToEnd max qs rs' ∧ rs'.map Reading.outcome = rs.map Reading.outcome := by
  induction h generalizing qs with
  | @last ps hend =>
    have hsame : (readFrame max qs).outcome = (readFrame max ps).outcome := by
      rw [outcome_readFrame, outcome_readFrame, hflat]
    have hframe := congrArg FrameOutcome.frame hsame
    refine ⟨[readFrame max qs], .last (hframe.trans hend), ?_⟩
    rw [List.map_singleton, List.map_singleton, hsame]
  | @next ps rs hgo hrest ih =>
    have hsame : (readFrame max qs).outcome = (readFrame max ps).outcome := by
      rw [outcome_readFrame, outcome_readFrame, hflat]
    have hframe : (readFrame max qs).frame = (readFrame max ps).frame :=
      congrArg FrameOutcome.frame hsame
    -- both calls leave the same bytes, so the later calls show the same as well
    obtain ⟨rs', hrs', hmap⟩ := ih (congrArg FrameOutcome.rest hsame.symm)
    refine ⟨readFrame max qs :: rs', .next (hframe ▸ hgo) hrs', ?_⟩
    rw [List.map_cons, List.map_cons, hsame, hmap]

/-- Reading with a bound on the calls gives the readings before the last, if the bound is above the
number of bytes. -/
theorem go_eq (h : ReadsToEnd max ps rs) {fuel : Nat} (hfuel : ps.byteCount < fuel) :
    readFrames.go max fuel ps = rs.dropLast := by
  induction h generalizing fuel with
  | @last ps hend =>
    obtain ⟨fuel, rfl⟩ := Nat.exists_eq_succ_of_ne_zero (Nat.ne_zero_of_lt hfuel)
    rw [readFrames.go, if_pos hend]
    rfl
  | @next ps rs hgo hrest ih =>
    obtain ⟨fuel, rfl⟩ := Nat.exists_eq_succ_of_ne_zero (Nat.ne_zero_of_lt hfuel)
    -- the call leaves fewer bytes, so one call less is still enough for them
    have hlt := readFrame_rest_lt hgo
    rw [← Pieces.byteCount_eq, ← Pieces.byteCount_eq] at hlt
    rw [readFrames.go, if_neg hgo, ih (by omega), List.dropLast_cons_of_ne_nil hrest.ne_nil]

/-- `readFrames` gives the readings of all calls but the last. -/
theorem readFrames_eq (h : ReadsToEnd max ps rs) : readFrames max ps = rs.dropLast :=
  h.go_eq (Nat.lt_succ_self _)

end ReadsToEnd

/-- Reading a stream does not depend on the pieces in which its bytes arrive. The calls up to the
one that finds the end show the same frames, the same buffers and the same positions in the stream.
A call that reads a frame takes at least one byte, so there is at most one call more than there are
bytes, and the end is found only where no byte is left. -/
theorem framing_independent_of_pieces (max : Nat) {ps qs : Pieces}
    (h : ps.flatten = qs.flatten) :
    (∃ rs rs' : List Reading, ReadsToEnd max ps rs ∧ ReadsToEnd max qs rs' ∧
      rs.map Reading.outcome = rs'.map Reading.outcome ∧
      rs.length ≤ ps.flatten.length + 1 ∧
      readFrames max ps = rs.dropLast ∧ readFrames max qs = rs'.dropLast) ∧
    (∀ us : Pieces, (readFrame max us).frame ≠ .endOfStream →
      ∃ taken, taken ≠ [] ∧ us.flatten = taken ++ (readFrame max us).rest.flatten) ∧
    ∀ us : Pieces, (readFrame max us).frame = .endOfStream →
      (readFrame max us).rest.flatten = [] := by
  refine ⟨?_, fun us hgo => ?_, fun us hend => ?_⟩
  · obtain ⟨rs, hrs, hlength⟩ := exists_readsToEnd max ps
    obtain ⟨rs', hrs', hmap⟩ := hrs.of_flatten_eq h
    exact ⟨rs, rs', hrs, hrs', hmap.symm, hlength, hrs.readFrames_eq, hrs'.readFrames_eq⟩
  · -- what the call takes stands in front of what it leaves
    obtain ⟨taken, htaken⟩ := (readFrame_within max us).suffix
    refine ⟨taken, ?_, htaken.symm⟩
    rintro rfl
    have hlt := readFrame_rest_lt hgo
    rw [← htaken] at hlt
    exact Nat.lt_irrefl _ hlt
  · exact (readFrame_within max us).nothing hend

/-- The length and the text of `3 abc`, all at once and byte by byte. -/
theorem framing_independent_of_pieces_bytewise :
    let whole : Pieces := [[51, 32, 97, 98, 99]]
    let bytewise : Pieces := [[51], [32], [97], [98], [99]]
    whole.flatten = bytewise.flatten ∧
      ∃ rs rs', ReadsToEnd 8 whole rs ∧ ReadsToEnd 8 bytewise rs' ∧
        rs.map Reading.outcome = rs'.map Reading.outcome := by
  intro whole bytewise
  have hflat : whole.flatten = bytewise.flatten := by decide
  obtain ⟨⟨rs, rs', hrs, hrs', hmap, -⟩, -⟩ := framing_independent_of_pieces 8 hflat
  exact ⟨hflat, rs, rs', hrs, hrs', hmap⟩

end SyslogCollector.Listener
