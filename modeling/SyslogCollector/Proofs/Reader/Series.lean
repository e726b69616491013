import SyslogCollector.Store.Memory
/-!
# What the store in memory has of an application

The applications of a store are in the order of their names (`InOrder`), so each has one place, and
a batch that is written adds to every application its own points, in the order of the batch
(`points_write`).
-/

namespace SyslogCollector.MemoryStore

/-- Whether applications stand in the order of their names. -/
def InOrder (series : List (String × Array Point)) : Prop :=
  (series.map Prod.fst).Pairwise (· < ·)

variable {p : Point} {series : List (String × Array Point)}

/-- A name in front of all applications is none of them. -/
theorem lookup_eq_none_of_lt {m : String} (h : ∀ name ∈ series.map Prod.fst, m < name) :
    series.lookup m = none := by
  rw [List.lookup_eq_none_iff]
  intro e he
  have hlt := h e.1 (List.mem_map.2 ⟨e, he, rfl⟩)
  rw [bne_iff_ne]
  intro heq
  exact String.lt_irrefl m (heq ▸ hlt)

theorem eq_or_mem_of_mem_file {name : String} (h : name ∈ (file p series).map Prod.fst) :
    name = p.measurement ∨ name ∈ series.map Prod.fst := by
  induction series with
  | nil => exact .inl (List.mem_singleton.1 h)
  | cons e rest ih =>
    obtain ⟨n, points⟩ := e
    unfold file at h
    split at h
    · exact .inr h
    · split at h
      · exact List.mem_cons.1 h
      · rcases List.mem_cons.1 h with h | h
        · exact .inr (h ▸ .head _)
        · exact (ih h).imp_right (List.mem_cons_of_mem _)

/-- To file a point keeps the order of the applications. -/
theorem InOrder.file (h : InOrder series) (p : Point) : InOrder (file p series) := by
  induction series with
  | nil => exact List.pairwise_singleton _ _
  | cons e rest ih =>
    obtain ⟨n, points⟩ := e
    obtain ⟨hfirst, hrest⟩ := List.pairwise_cons.1 h
    unfold MemoryStore.file
    split
    · exact h
    · rename_i hne
      split
      · rename_i hlt
        refine List.pairwise_cons.2 ⟨?_, h⟩
        intro m hm
        rcases List.mem_cons.1 hm with rfl | hm
        · exact hlt
        · exact String.lt_trans hlt (hfirst m hm)
      · rename_i hnlt
        refine List.pairwise_cons.2 ⟨?_, ih hrest⟩
        intro m hm
        rcases eq_or_mem_of_mem_file hm with rfl | hm
        · -- neither the same name nor a smaller one
          refine Decidable.byContradiction fun hngt => ?_
          exact hne (String.le_antisymm (String.not_lt.1 hngt) (String.not_lt.1 hnlt)).symm
        · exact hfirst m hm

/-- A filed point comes last in its application, and the others stay as they are. -/
theorem lookup_file (h : InOrder series) (p : Point) (m : String) :
    (file p series).lookup m =
      if m = p.measurement then some (((series.lookup m).getD #[]).push p)
      else series.lookup m := by
  induction series with
  | nil =>
    by_cases hm : m = p.measurement
    · simp [file, hm]
    · have hb : (m == p.measurement) = false := by simp [hm]
      simp [file, List.lookup_cons, hb, hm]
  | cons e rest ih =>
    obtain ⟨n, points⟩ := e
    obtain ⟨hfirst, hrest⟩ := List.pairwise_cons.1 h
    -- the point joins the first application, goes before it, or goes on to the rest
    unfold file
    split
    · rename_i hn
      subst hn
      by_cases hm : m = p.measurement
      · simp [hm]
      · have hb : (m == p.measurement) = false := by simp [hm]
        simp [List.lookup_cons, hb, hm]
    · rename_i hn
      split
      · rename_i hlt
        by_cases hm : m = p.measurement
        · -- the application is new
          have hnone : ((n, points) :: rest).lookup m = none := by
            refine lookup_eq_none_of_lt fun name hname => ?_
            rcases List.mem_cons.1 hname with rfl | hname
            · exact hm ▸ hlt
            · exact hm ▸ String.lt_trans hlt (hfirst name hname)
          rw [hnone]
          simp [hm]
        · have hb : (m == p.measurement) = false := by simp [hm]
          rw [List.lookup_cons, hb, if_neg hm]
      · by_cases hmn : m = n
        · simp [hmn, hn]
        · have hb : (m == n) = false := by simp [hmn]
          rw [List.lookup_cons, List.lookup_cons, hb]
          exact ih hrest

/-- The points of an application. -/
def pointsIn (series : List (String × Array Point)) (m : String) : List Point :=
  ((series.lookup m).getD #[]).toList

theorem pointsIn_file (h : InOrder series) (p : Point) (m : String) :
    pointsIn (file p series) m =
      pointsIn series m ++ if p.measurement = m then [p] else [] := by
  unfold pointsIn
  rw [lookup_file h]
  by_cases hm : p.measurement = m
  · simp [hm]
  · simp [hm, Ne.symm hm]

/-- Filing a batch adds to each application its points of the batch. -/
theorem pointsIn_foldl_file (h : InOrder series) (batch : List Point) (m : String) :
    InOrder (batch.foldl (fun series p => file p series) series) ∧
      pointsIn (batch.foldl (fun series p => file p series) series) m =
        pointsIn series m ++ batch.filter (·.measurement = m) := by
  induction batch generalizing series with
  | nil => simp [h]
  | cons p rest ih =>
    obtain ⟨horder, hpoints⟩ := ih (h.file p)
    refine ⟨horder, hpoints.trans ?_⟩
    rw [pointsIn_file h, List.append_assoc, List.filter_cons]
    by_cases hm : p.measurement = m <;> simp [hm]

variable {s : MemoryStore}

/-- To write a batch keeps the order of the applications. -/
theorem InOrder.write (h : InOrder s.series) (batch : List Point) :
    InOrder (s.write batch).series := by
  unfold MemoryStore.write
  split
  · exact h
  · exact (pointsIn_foldl_file h batch "").1

/-- A batch adds to each application its points, in the order of the batch. -/
theorem points_write (h : InOrder s.series) (batch : List Point) (m : String) :
    (s.write batch).points m = s.points m ++ batch.filter (·.measurement = m) := by
  unfold MemoryStore.write
  split
  · rename_i hempty
    simp [List.isEmpty_iff.1 hempty]
  · exact (pointsIn_foldl_file h batch m).2

end SyslogCollector.MemoryStore
