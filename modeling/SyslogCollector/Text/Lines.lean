/-!
# Lines of bytes

A line is a run of bytes up to a line feed, which belongs to it.
-/

namespace SyslogCollector.Lines

/-- The byte that ends a line. -/
def lineFeed : UInt8 := 10

/-- Cuts some bytes after their first line feed: the bytes up to it, the line feed included, and
the bytes after it. -/
def cut? : List UInt8 → Option (List UInt8 × List UInt8)
  | [] => none
  | b :: rest =>
    if b = lineFeed then some ([b], rest)
    else (cut? rest).map fun (line, after) => (b :: line, after)

/-- A cut loses nothing. -/
theorem append_of_cut? {bytes line after : List UInt8} (h : cut? bytes = some (line, after)) :
    bytes = line ++ after := by
  induction bytes generalizing line with
  | nil => simp [cut?] at h
  | cons b rest ih =>
    unfold cut? at h
    split at h
    · simp only [Option.some.injEq, Prod.mk.injEq] at h
      obtain ⟨rfl, rfl⟩ := h
      rfl
    · obtain ⟨⟨line', after'⟩, hcut, hpair⟩ := Option.map_eq_some_iff.1 h
      simp only [Prod.mk.injEq] at hpair
      obtain ⟨rfl, rfl⟩ := hpair
      rw [ih hcut, List.cons_append]

/-- What a cut gives is a line: its only line feed stands at its end. -/
theorem line_of_cut? {bytes line after : List UInt8} (h : cut? bytes = some (line, after)) :
    ∃ body, line = body ++ [lineFeed] ∧ lineFeed ∉ body := by
  induction bytes generalizing line with
  | nil => simp [cut?] at h
  | cons b rest ih =>
    unfold cut? at h
    split at h
    · rename_i hb
      simp only [Option.some.injEq, Prod.mk.injEq] at h
      exact ⟨[], by simp [← h.1, hb], by simp⟩
    · rename_i hb
      obtain ⟨⟨line', after'⟩, hcut, hpair⟩ := Option.map_eq_some_iff.1 h
      simp only [Prod.mk.injEq] at hpair
      obtain ⟨rfl, rfl⟩ := hpair
      obtain ⟨body, rfl, hbody⟩ := ih hcut
      exact ⟨b :: body, by simp, by simp [hbody, Ne.symm hb]⟩

/-- Only bytes without a line feed cannot be cut. -/
theorem cut?_eq_none_iff {bytes : List UInt8} : cut? bytes = none ↔ lineFeed ∉ bytes := by
  induction bytes with
  | nil => simp [cut?]
  | cons b rest ih =>
    unfold cut?
    split
    · rename_i hb; simp [hb]
    · rename_i hb
      rw [Option.map_eq_none_iff, ih]
      simp [Ne.symm hb]

/-- Bytes without a line feed only put off the cut. -/
theorem cut?_append_of_none {bytes : List UInt8} (h : cut? bytes = none) (more : List UInt8) :
    cut? (bytes ++ more) = (cut? more).map fun (line, after) => (bytes ++ line, after) := by
  induction bytes with
  | nil => simp
  | cons b rest ih =>
    rw [cut?_eq_none_iff] at h
    have hb : b ≠ lineFeed := fun hb => h (by simp [hb])
    have hrest : cut? rest = none := cut?_eq_none_iff.2 fun hmem => h (by simp [hmem])
    rw [List.cons_append, cut?, if_neg hb, ih hrest, Option.map_map]
    rfl

/-- A cut does not look behind the line feed. -/
theorem cut?_append_of_some {bytes line after : List UInt8} (h : cut? bytes = some (line, after))
    (more : List UInt8) : cut? (bytes ++ more) = some (line, after ++ more) := by
  induction bytes generalizing line with
  | nil => simp [cut?] at h
  | cons b rest ih =>
    rw [cut?] at h
    rw [List.cons_append, cut?]
    split at h
    · rename_i hb
      simp only [Option.some.injEq, Prod.mk.injEq] at h
      obtain ⟨rfl, rfl⟩ := h
      rw [if_pos hb]
    · rename_i hb
      obtain ⟨⟨line', after'⟩, hcut, hpair⟩ := Option.map_eq_some_iff.1 h
      simp only [Prod.mk.injEq] at hpair
      obtain ⟨rfl, rfl⟩ := hpair
      rw [if_neg hb, ih hcut, Option.map_some]

/-- A line in front of other bytes is what a cut takes off. -/
theorem cut?_line {body : List UInt8} (h : lineFeed ∉ body) (rest : List UInt8) :
    cut? (body ++ lineFeed :: rest) = some (body ++ [lineFeed], rest) := by
  rw [cut?_append_of_none (cut?_eq_none_iff.2 h)]
  simp [cut?]

/-- What follows a line is shorter. -/
theorem length_after_lt {bytes line after : List UInt8} (h : cut? bytes = some (line, after)) :
    after.length < bytes.length := by
  obtain ⟨body, rfl, _⟩ := line_of_cut? h
  rw [append_of_cut? h]
  simp only [List.length_append, List.length_singleton]
  omega

end SyslogCollector.Lines
