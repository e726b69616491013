import SyslogCollector.Proofs.Reader.Answer
/-!
# The chunks of an answer

An answer of the store in memory is a list of rows that is cut into chunks. The rows are in the
order of their times and rows of one time stay in the order of the points (`InTimeOrder`), the
chunks are full but for the last one, and the loop that cuts them comes to an end because the size
of a chunk is not 0 (`cutWithin_eq`).
-/

namespace SyslogCollector

/-! ## Cutting -/

section Cutting

variable {α : Type} {size : Nat} {items : List α}

/-- No chunk is empty. -/
theorem ne_nil_of_mem_chunksOf {chunk : List α} (h : chunk ∈ chunksOf size items) :
    chunk ≠ [] := by
  induction items using chunksOf.induct size with
  | case1 =>
    rw [chunksOf] at h
    cases h
  | case2 a rest ih =>
    rw [chunksOf] at h
    rcases List.mem_cons.1 h with rfl | h
    · exact List.cons_ne_nil _ _
    · exact ih h

/-- No chunk is too long. -/
theorem length_le_of_mem_chunksOf (hsize : 0 < size) {chunk : List α}
    (h : chunk ∈ chunksOf size items) : chunk.length ≤ size := by
  induction items using chunksOf.induct size with
  | case1 =>
    rw [chunksOf] at h
    cases h
  | case2 a rest ih =>
    rw [chunksOf] at h
    rcases List.mem_cons.1 h with rfl | h
    · rw [List.length_cons, List.length_take]
      omega
    · exact ih h

/-- Every chunk but the last one is full. -/
theorem length_eq_of_mem_dropLast_chunksOf (hsize : 0 < size) {chunk : List α}
    (h : chunk ∈ (chunksOf size items).dropLast) : chunk.length = size := by
  induction items using chunksOf.induct size with
  | case1 =>
    rw [chunksOf] at h
    cases h
  | case2 a rest ih =>
    rw [chunksOf] at h
    cases hrest : rest.drop (size - 1) with
    | nil =>
      -- nothing is left, so this chunk is the last one
      rw [hrest, chunksOf] at h
      cases h
    | cons b more =>
      have hlong : size - 1 < rest.length := by
        refine Nat.lt_of_not_le fun hle => ?_
        rw [List.drop_eq_nil_of_le hle] at hrest
        cases hrest
      have hne : chunksOf size (rest.drop (size - 1)) ≠ [] := by
        rw [hrest, chunksOf]
        exact List.cons_ne_nil _ _
      rw [List.dropLast_cons_of_ne_nil hne] at h
      rcases List.mem_cons.1 h with rfl | h
      · rw [List.length_cons, List.length_take]
        omega
      · exact ih h

/-- The loop that cuts chunks off the front until nothing is left, if so many passes are enough. -/
def cutWithin (size : Nat) : Nat → List α → Option (List (List α))
  | _, [] => some []
  | 0, _ :: _ => none
  | n + 1, a :: rest =>
    (cutWithin size n ((a :: rest).drop size)).map ((a :: rest).take size :: ·)

/-- The loop comes to an end within as many passes as there are items, and to the chunks. -/
theorem cutWithin_eq (hsize : 0 < size) {n : Nat} (hn : items.length ≤ n) :
    cutWithin size n items = some (chunksOf size items) := by
  obtain ⟨size, rfl⟩ := Nat.exists_eq_succ_of_ne_zero (Nat.pos_iff_ne_zero.1 hsize)
  induction n generalizing items with
  | zero =>
    rw [List.eq_nil_of_length_eq_zero (Nat.le_zero.1 hn), cutWithin, chunksOf]
  | succ n ih =>
    cases items with
    | nil => rw [cutWithin, chunksOf]
    | cons a rest =>
      -- a pass takes at least one item off
      have hlen : (rest.drop size).length ≤ n := by
        rw [List.length_drop]
        exact Nat.le_trans (Nat.sub_le _ _) (Nat.le_of_succ_le_succ hn)
      rw [cutWithin, chunksOf, List.drop_succ_cons, List.take_succ_cons, ih hlen]
      rfl

/-- Chunks of size 0 would never come to an end. -/
example : cutWithin 0 5 [1, 2] = none := rfl

end Cutting

/-! ## The order of rows -/

/-- Rows of some points in the order of their times, rows of one time in the order of the points. -/
structure InTimeOrder (rows : List Row) (points : List Point) : Prop where
  /-- No row is earlier than one before it. -/
  sorted : rows.Pairwise fun a b => a.nanos ≤ b.nanos
  /-- The rows of one time are those of the points of that time, in their order. -/
  ties : ∀ n, rows.filter (·.nanos = n) = (points.filter (·.nanos = n)).map Point.row

theorem nanos_le_trans (a b c : Row) (hab : decide (a.nanos ≤ b.nanos) = true)
    (hbc : decide (b.nanos ≤ c.nanos) = true) : decide (a.nanos ≤ c.nanos) = true :=
  decide_eq_true (Int.le_trans (of_decide_eq_true hab) (of_decide_eq_true hbc))

theorem nanos_le_total (a b : Row) :
    (decide (a.nanos ≤ b.nanos) || decide (b.nanos ≤ a.nanos)) = true := by
  rw [Bool.or_eq_true, decide_eq_true_eq, decide_eq_true_eq]
  exact Int.le_total a.nanos b.nanos

/-- Sorting rows by their times leaves those of one time as they are. -/
theorem filter_mergeSort (rows : List Row) (n : Int) :
    (rows.mergeSort fun a b => a.nanos ≤ b.nanos).filter (·.nanos = n) =
      rows.filter (·.nanos = n) := by
  -- rows of one time are in order as they are, so they keep their order
  have hties : (rows.filter (·.nanos = n)).Pairwise fun a b => decide (a.nanos ≤ b.nanos) := by
    refine List.pairwise_iff_forall_sublist.2 fun {a b} hpair => ?_
    have ha : a.nanos = n := by
      simpa using (List.mem_filter.1 (hpair.subset List.mem_cons_self)).2
    have hb : b.nanos = n := by
      simpa using (List.mem_filter.1 (hpair.subset (List.mem_cons_of_mem a List.mem_cons_self))).2
    exact decide_eq_true (Int.le_of_eq (ha.trans hb.symm))
  have hsub := (List.sublist_mergeSort nanos_le_trans nanos_le_total hties
    List.filter_sublist).filter (·.nanos = n)
  rw [List.filter_filter] at hsub
  simp only [Bool.and_self] at hsub
  refine (hsub.eq_of_length ?_).symm
  exact ((List.mergeSort_perm rows _).filter _).length_eq.symm

/-- Sorting the rows of points by their times puts them in time order. -/
theorem inTimeOrder_mergeSort (points : List Point) :
    InTimeOrder ((points.map Point.row).mergeSort fun a b => a.nanos ≤ b.nanos) points where
  sorted := by
    have hsorted := List.pairwise_mergeSort nanos_le_trans nanos_le_total (points.map Point.row)
    exact hsorted.imp of_decide_eq_true
  ties n := by
    rw [filter_mergeSort, List.filter_map]
    rfl

end SyslogCollector
