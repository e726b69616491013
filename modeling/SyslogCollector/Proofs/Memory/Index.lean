import SyslogCollector.Proofs.Memory.Chunks
import SyslogCollector.Proofs.Text.ByteOrder
/-!
# The store in memory is an index of what was written

After any batches, the store has every written point once, under its application and in the order
of writing (`IndexOf`), and its list of applications says which these are. A query gives the rows of
exactly the points it asks for, in the order of their times and cut into full chunks (`Answers`).
Every batch keeps the index (`IndexOf.write`), and all else follows from it.
-/

namespace SyslogCollector

/-- Whether a query asks for a point: it names the application, its bound on the time admits the
point's time if there is one, and its host is the point's if there is one. -/
structure SeriesQuery.AsksFor (q : SeriesQuery) (p : Point) : Prop where
  /-- The application is the one that the query names. -/
  measurement : p.measurement = q.measurement
  /-- The point is not too early, -/
  notBefore : ∀ n, q.time = some (.atLeast n) → n ≤ p.nanos
  /-- and not too late. -/
  notAfter : ∀ n, q.time = some (.atMost n) → p.nanos ≤ n
  /-- The host is the one that the query fixes. -/
  hostname : ∀ host, q.hostname = some host → p.hostname = host

/-- What the store looks at says whether a query asks for a point. -/
theorem SeriesQuery.asksFor_iff {q : SeriesQuery} {p : Point} :
    q.AsksFor p ↔ p.measurement = q.measurement ∧ q.admits p = true := by
  have htime : q.time.all (·.contains p.nanos) = true ↔
      (∀ n, q.time = some (.atLeast n) → n ≤ p.nanos) ∧
        ∀ n, q.time = some (.atMost n) → p.nanos ≤ n := by
    cases q.time with
    | none => simp
    | some bound => cases bound <;> simp [TimeBound.contains]
  have hhost : q.hostname.all (· == p.hostname) = true ↔
      ∀ host, q.hostname = some host → p.hostname = host := by
    cases q.hostname with
    | none => simp
    | some host =>
      rw [Option.all_some, beq_iff_eq]
      exact ⟨fun h _ hsome => h.symm.trans (Option.some.inj hsome), fun h => (h host rfl).symm⟩
  rw [SeriesQuery.admits, Bool.and_eq_true, htime, hhost]
  constructor
  · intro h
    exact ⟨h.measurement, ⟨h.notBefore, h.notAfter⟩, h.hostname⟩
  · rintro ⟨hname, ⟨hnotBefore, hnotAfter⟩, hhost⟩
    exact ⟨hname, hnotBefore, hnotAfter, hhost⟩

instance (q : SeriesQuery) (p : Point) : Decidable (q.AsksFor p) :=
  decidable_of_iff _ SeriesQuery.asksFor_iff.symm

namespace MemoryStore

/-! ## The series -/

/-- Where an application stands in the series, its points are found. -/
theorem lookup_eq_some_of_mem {series : List (String × Array Point)} (h : InOrder series)
    {m : String} {points : Array Point} (hmem : (m, points) ∈ series) :
    series.lookup m = some points := by
  obtain ⟨before, after, rfl⟩ := List.append_of_mem hmem
  refine List.lookup_eq_some_iff.2 ⟨before, after, rfl, ?_⟩
  -- the applications in front are smaller ones
  intro e he
  rw [InOrder, List.map_append, List.map_cons, List.pairwise_append] at h
  have hlt : e.1 < m := h.2.2 e.1 (List.mem_map_of_mem he) m List.mem_cons_self
  rw [bne_iff_ne]
  rintro rfl
  exact String.lt_irrefl _ hlt

/-- How many points there are in some series. -/
def sizeIn (series : List (String × Array Point)) : Nat :=
  series.foldr (fun (_, points) n => points.size + n) 0

theorem sizeIn_cons (name : String) (points : Array Point) (rest : List (String × Array Point)) :
    sizeIn ((name, points) :: rest) = points.size + sizeIn rest := rfl

/-- A filed point is one more. -/
theorem sizeIn_file (p : Point) (series : List (String × Array Point)) :
    sizeIn (file p series) = sizeIn series + 1 := by
  induction series with
  | nil => rfl
  | cons e rest ih =>
    obtain ⟨name, points⟩ := e
    unfold file
    split
    · rw [sizeIn_cons, sizeIn_cons, Array.size_push]
      omega
    · split
      · rw [sizeIn_cons, List.size_toArray, List.length_singleton]
        omega
      · rw [sizeIn_cons, sizeIn_cons, ih]
        omega

/-- A batch is as many more points as it holds. -/
theorem size_write (s : MemoryStore) (batch : List Point) :
    (s.write batch).size = s.size + batch.length := by
  have hfold (series : List (String × Array Point)) :
      sizeIn (batch.foldl (fun series p => file p series) series) =
        sizeIn series + batch.length := by
    induction batch generalizing series with
    | nil => rfl
    | cons p rest ih =>
      rw [List.foldl_cons, ih, sizeIn_file, List.length_cons]
      omega
  unfold write
  split
  · rename_i hempty
    rw [List.isEmpty_iff.1 hempty]
    rfl
  · exact hfold s.series

/-- The listed applications are those that have points. -/
theorem mem_measurements_iff {s : MemoryStore} (h : InOrder s.series) {m : String} :
    m ∈ s.measurements ↔ s.points m ≠ [] := by
  constructor
  · intro hmem
    obtain ⟨e, he, rfl⟩ := List.mem_map.1 hmem
    obtain ⟨he, hpoints⟩ := List.mem_filter.1 he
    rw [points, lookup_eq_some_of_mem h he]
    simpa using hpoints
  · intro hne
    cases hlookup : s.series.lookup m with
    | none => exact absurd (by rw [points, hlookup]; rfl) hne
    | some found =>
      obtain ⟨before, after, hseries, -⟩ := List.lookup_eq_some_iff.1 hlookup
      refine List.mem_map.2 ⟨(m, found), List.mem_filter.2 ⟨?_, ?_⟩, rfl⟩
      · rw [hseries]
        exact List.mem_append_right _ List.mem_cons_self
      · rw [points, hlookup] at hne
        simpa using hne

/-! ## The index -/

/-- A store is an index of some batches. -/
structure IndexOf (s : MemoryStore) (batches : List (List Point)) : Prop where
  /-- The applications are in the order of their names. -/
  inOrder : InOrder s.series
  /-- Every application has the points that were written under it, in the order of writing, -/
  points : ∀ m, s.points m = batches.flatten.filter (·.measurement = m)
  /-- and there are no others. -/
  size : s.size = batches.flatten.length
  /-- Batches with at least one point count. -/
  batchesWritten : s.batchesWritten = batches.countP (!·.isEmpty)

/-- The answer of a store to a query for some of its points, in chunks of a given size. -/
structure Answers (s : MemoryStore) (q : SeriesQuery) (points : List Point) (size : Nat) :
    Prop where
  /-- The loop that cuts the chunks comes to an end, with a pass for each row at most. -/
  ends : cutWithin size (s.rows q).length (s.rows q) = some (s.query q)
  /-- Every chunk has a row, -/
  ne_nil : ∀ chunk ∈ s.query q, chunk ≠ []
  /-- none has too many, -/
  length_le : ∀ chunk ∈ s.query q, chunk.length ≤ size
  /-- and all but the last one have as many as they may. -/
  full : ∀ chunk ∈ (s.query q).dropLast, chunk.length = size
  /-- The chunks together are the rows of the points that are asked for. -/
  rows : InTimeOrder (s.query q).flatten (points.filter fun p => q.AsksFor p)

namespace IndexOf

variable {s : MemoryStore} {batches : List (List Point)}

theorem initial (size : Nat) : IndexOf (withChunkSize size) [] where
  inOrder := .nil
  points _ := rfl
  size := rfl
  batchesWritten := rfl

/-- A batch comes behind the others. -/
theorem write (h : IndexOf s batches) (batch : List Point) :
    IndexOf (s.write batch) (batches ++ [batch]) where
  inOrder := h.inOrder.write batch
  points m := by
    rw [points_write h.inOrder, h.points, List.flatten_append, List.flatten_singleton,
      List.filter_append]
  size := by
    rw [size_write, h.size, List.flatten_append, List.flatten_singleton, List.length_append]
  batchesWritten := by
    rw [List.countP_append, List.countP_singleton, ← h.batchesWritten]
    unfold MemoryStore.write
    cases hempty : batch.isEmpty <;> rfl

/-- The applications are listed in the order of the bytes of their names, each once. -/
theorem measurements_increasing (h : IndexOf s batches) :
    (s.measurements.map Utf8.encode).Pairwise (· < ·) := by
  rw [List.pairwise_map]
  have hsub : List.Sublist s.measurements (s.series.map Prod.fst) :=
    List.filter_sublist.map Prod.fst
  exact (h.inOrder.sublist hsub).imp Utf8.encode_lt_encode

/-- The listed applications are those that were written to. -/
theorem mem_measurements (h : IndexOf s batches) (m : String) :
    m ∈ s.measurements ↔ ∃ p ∈ batches.flatten, p.measurement = m := by
  rw [mem_measurements_iff h.inOrder, h.points]
  constructor
  · intro hne
    obtain ⟨p, hp⟩ := List.exists_mem_of_ne_nil _ hne
    obtain ⟨hmem, hname⟩ := List.mem_filter.1 hp
    exact ⟨p, hmem, of_decide_eq_true hname⟩
  · rintro ⟨p, hmem, hname⟩
    exact List.ne_nil_of_mem (List.mem_filter.2 ⟨hmem, decide_eq_true hname⟩)

/-- An index of batches answers every query on their points. -/
theorem answers (h : IndexOf s batches) (hsize : 0 < s.chunkSize) (q : SeriesQuery) :
    Answers s q batches.flatten s.chunkSize where
  ends := cutWithin_eq hsize (Nat.le_refl _)
  ne_nil _ := ne_nil_of_mem_chunksOf
  length_le _ := length_le_of_mem_chunksOf hsize
  full _ := length_eq_of_mem_dropLast_chunksOf hsize
  rows := by
    have hasked : (s.points q.measurement).filter q.admits =
        batches.flatten.filter fun p => q.AsksFor p := by
      rw [h.points, List.filter_filter]
      refine List.filter_congr fun p _ => ?_
      rw [Bool.eq_iff_iff, Bool.and_eq_true, decide_eq_true_eq, decide_eq_true_eq,
        SeriesQuery.asksFor_iff, and_comm]
    rw [query, Store.flatten_chunksOf, MemoryStore.rows, hasked]
    exact inTimeOrder_mergeSort _

end IndexOf

/-- The store after some batches were written to an empty one with a given size of chunks. -/
def filled (size : Nat) (batches : List (List Point)) : MemoryStore :=
  batches.foldl write (withChunkSize size)

theorem chunkSize_write (s : MemoryStore) (batch : List Point) :
    (s.write batch).chunkSize = s.chunkSize := by
  unfold write
  split <;> rfl

/-- Writing batches to an empty store makes an index of them. -/
theorem indexOf_filled (size : Nat) (batches : List (List Point)) :
    IndexOf (filled size batches) batches ∧ (filled size batches).chunkSize = max size 1 := by
  -- a run from any store keeps the index of what was written before it
  have hrun (s : MemoryStore) (before : List (List Point)) (h : IndexOf s before) :
      IndexOf (batches.foldl write s) (before ++ batches) ∧
        (batches.foldl write s).chunkSize = s.chunkSize := by
    induction batches generalizing s before with
    | nil =>
      rw [List.append_nil]
      exact ⟨h, rfl⟩
    | cons batch rest ih =>
      obtain ⟨hindex, hsize⟩ := ih (s.write batch) (before ++ [batch]) (h.write batch)
      rw [List.append_assoc, List.singleton_append] at hindex
      exact ⟨hindex, hsize.trans (chunkSize_write s batch)⟩
  exact hrun (withChunkSize size) [] (.initial size)

/-- The store in memory is an exact index of what was written, whatever the size of chunks and
whatever batches were written to the empty store: every point is stored once, under its application,
in the order of writing, the counts are right, and the applications that were written to are listed
in the order of their bytes. Every query is answered with the rows of exactly the points that it
asks for, in the order of their times with ties in the order of writing, in chunks that have as many
rows as they may, which is at least one. -/
theorem stored_points_indexed (size : Nat) (batches : List (List Point)) :
    (filled size batches).IndexOf batches ∧
      ((filled size batches).measurements.map Utf8.encode).Pairwise (· < ·) ∧
      (∀ m, m ∈ (filled size batches).measurements ↔
        ∃ p ∈ batches.flatten, p.measurement = m) ∧
      ∀ q, (filled size batches).Answers q batches.flatten (max size 1) := by
  obtain ⟨hindex, hsize⟩ := indexOf_filled size batches
  refine ⟨hindex, hindex.measurements_increasing, hindex.mem_measurements, fun q => ?_⟩
  have hpos : 0 < (filled size batches).chunkSize := by
    rw [hsize]
    exact Nat.lt_of_lt_of_le Nat.zero_lt_one (Nat.le_max_right size 1)
  rw [← hsize]
  exact hindex.answers hpos q

end MemoryStore

end SyslogCollector
