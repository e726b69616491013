/-!
# Lists by number

Callers, readers and subscribers each have a number, and are kept in a list by it.
-/

namespace SyslogCollector.Numbered

/-- The list with another entry for a number: replaced where there is one, else added at the
end. -/
def assign (id : Nat) (a : α) : List (Nat × α) → List (Nat × α)
  | [] => [(id, a)]
  | (n, b) :: rest => if n = id then (n, a) :: rest else (n, b) :: assign id a rest

/-- The list without the entries of a number. -/
def erase (id : Nat) (entries : List (Nat × α)) : List (Nat × α) :=
  entries.filter (·.1 != id)

/-- A number has the entry that it got last. -/
@[simp] theorem lookup_assign_self (id : Nat) (a : α) (entries : List (Nat × α)) :
    (assign id a entries).lookup id = some a := by
  induction entries with
  | nil => simp [assign]
  | cons e rest ih =>
    obtain ⟨n, b⟩ := e
    unfold assign
    split
    · rename_i h; simp [h]
    · rename_i h
      have : (id == n) = false := by simp [Ne.symm h]
      rw [List.lookup_cons, this]
      exact ih

/-- The entries of other numbers stay as they are. -/
theorem lookup_assign_of_ne {id other : Nat} (h : other ≠ id) (a : α)
    (entries : List (Nat × α)) : (assign id a entries).lookup other = entries.lookup other := by
  have hb : (other == id) = false := by simp [h]
  induction entries with
  | nil => rw [assign, List.lookup_cons, hb]
  | cons e rest ih =>
    obtain ⟨n, b⟩ := e
    unfold assign
    split
    · rename_i hn
      subst hn
      rw [List.lookup_cons, List.lookup_cons, hb]
    · rw [List.lookup_cons, List.lookup_cons, ih]

/-- An erased number has no entry. -/
@[simp] theorem lookup_erase_self (id : Nat) (entries : List (Nat × α)) :
    (erase id entries).lookup id = none := by
  rw [List.lookup_eq_none_iff]
  intro e he
  obtain ⟨_, hne⟩ := List.mem_filter.1 he
  simpa [bne_comm] using hne

/-- Erasing a number leaves the entries of the others. -/
theorem lookup_erase_of_ne {id other : Nat} (h : other ≠ id) (entries : List (Nat × α)) :
    (erase id entries).lookup other = entries.lookup other := by
  induction entries with
  | nil => rfl
  | cons e rest ih =>
    obtain ⟨n, b⟩ := e
    unfold erase at ih ⊢
    by_cases hn : n = id
    · have hb : (other == n) = false := by simp [hn, h]
      rw [List.filter_cons_of_neg (by simp [hn]), List.lookup_cons, hb]
      exact ih
    · rw [List.filter_cons_of_pos (by simp [hn]), List.lookup_cons, List.lookup_cons, ih]

/-- A number has the entry that was assigned, if it is the one that got it, else the entry that it
had. -/
theorem of_lookup_assign {id other : Nat} {a b : α} {entries : List (Nat × α)}
    (h : (assign id a entries).lookup other = some b) :
    other = id ∧ b = a ∨ other ≠ id ∧ entries.lookup other = some b := by
  by_cases hid : other = id
  · subst hid
    rw [lookup_assign_self] at h
    exact .inl ⟨rfl, (Option.some.inj h).symm⟩
  · rw [lookup_assign_of_ne hid] at h
    exact .inr ⟨hid, h⟩

/-- Only another number than the erased one has an entry, the one that it had. -/
theorem of_lookup_erase {id other : Nat} {b : α} {entries : List (Nat × α)}
    (h : (erase id entries).lookup other = some b) :
    other ≠ id ∧ entries.lookup other = some b := by
  by_cases hid : other = id
  · subst hid
    rw [lookup_erase_self] at h
    cases h
  · rw [lookup_erase_of_ne hid] at h
    exact ⟨hid, h⟩

/-- Only a number among the entries has one. -/
theorem lookup_eq_none_iff_not_mem {id : Nat} {entries : List (Nat × α)} :
    entries.lookup id = none ↔ id ∉ entries.map Prod.fst := by
  simp only [List.lookup_eq_none_iff, List.mem_map, not_exists, not_and, bne_iff_ne]
  exact ⟨fun h e he hid => h e he hid.symm, fun h e he hid => h e he hid.symm⟩

/-- A number that has no entry yet gets the last one. -/
theorem assign_of_lookup_eq_none {id : Nat} {entries : List (Nat × α)}
    (h : entries.lookup id = none) (a : α) : assign id a entries = entries ++ [(id, a)] := by
  induction entries with
  | nil => rfl
  | cons e rest ih =>
    obtain ⟨n, b⟩ := e
    rw [List.lookup_cons] at h
    by_cases hn : id = n
    · simp [hn] at h
    · have hb : (id == n) = false := by simp [hn]
      rw [hb] at h
      rw [assign, if_neg (Ne.symm hn), ih h, List.cons_append]

/-- An entry of the list with another entry for a number is that entry, or one from before. -/
theorem of_mem_assign {id : Nat} {a : α} {entries : List (Nat × α)} {e : Nat × α}
    (h : e ∈ assign id a entries) : e = (id, a) ∨ e ∈ entries := by
  induction entries with
  | nil => exact .inl (List.mem_singleton.1 h)
  | cons b rest ih =>
    obtain ⟨n, b⟩ := b
    unfold assign at h
    split at h
    · rename_i hn
      subst hn
      exact (List.mem_cons.1 h).imp_right (List.mem_cons_of_mem _)
    · rcases List.mem_cons.1 h with rfl | hrest
      · exact .inr (.head _)
      · exact (ih hrest).imp_right (List.mem_cons_of_mem _)

/-- The entry of a number is one of the entries. -/
theorem mem_of_lookup_eq_some {id : Nat} {a : α} {entries : List (Nat × α)}
    (h : entries.lookup id = some a) : (id, a) ∈ entries := by
  obtain ⟨front, back, hentries, -⟩ := List.lookup_eq_some_iff.1 h
  simp [hentries]

/-- Where no number is twice, every entry is the one of its number. -/
theorem lookup_eq_some_of_mem {id : Nat} {a : α} {entries : List (Nat × α)}
    (hkeys : (entries.map Prod.fst).Nodup) (h : (id, a) ∈ entries) :
    entries.lookup id = some a := by
  induction entries with
  | nil => cases h
  | cons e rest ih =>
    obtain ⟨n, b⟩ := e
    rw [List.map_cons, List.nodup_cons] at hkeys
    rw [List.lookup_cons]
    rcases List.mem_cons.1 h with heq | hmem
    · cases heq
      simp
    · have hne : id ≠ n := by
        rintro rfl
        exact hkeys.1 (List.mem_map.2 ⟨_, hmem, rfl⟩)
      have hb : (id == n) = false := by simp [hne]
      rw [hb]
      exact ih hkeys.2 hmem

/-- An entry that is replaced keeps its place. -/
theorem keys_assign_of_lookup_eq_some {id : Nat} {b : α} {entries : List (Nat × α)}
    (h : entries.lookup id = some b) (a : α) :
    (assign id a entries).map Prod.fst = entries.map Prod.fst := by
  induction entries with
  | nil => cases h
  | cons e rest ih =>
    obtain ⟨n, c⟩ := e
    unfold assign
    split
    · rfl
    · rename_i hn
      have hb : (id == n) = false := by simp [Ne.symm hn]
      rw [List.lookup_cons, hb] at h
      rw [List.map_cons, ih h, List.map_cons]

/-- To assign an entry makes no number stand twice. -/
theorem nodup_keys_assign {id : Nat} {entries : List (Nat × α)}
    (h : (entries.map Prod.fst).Nodup) (a : α) : ((assign id a entries).map Prod.fst).Nodup := by
  cases hlookup : entries.lookup id with
  | none =>
    have hnew : id ∉ entries.map Prod.fst := lookup_eq_none_iff_not_mem.1 hlookup
    rw [assign_of_lookup_eq_none hlookup, List.map_append, List.map_singleton, List.nodup_append]
    refine ⟨h, by simp, fun n hn other hother => ?_⟩
    rw [List.mem_singleton.1 hother]
    rintro rfl
    exact hnew hn
  | some b =>
    rw [keys_assign_of_lookup_eq_some hlookup]
    exact h

/-- An entry that is assigned adds one to a count of entries at most, and only if it counts. -/
theorem countP_assign_le (p : α → Bool) (id : Nat) (a : α) (entries : List (Nat × α)) :
    (assign id a entries).countP (fun e => p e.2) ≤
      entries.countP (fun e => p e.2) + if p a then 1 else 0 := by
  induction entries with
  | nil => simp [assign, List.countP_cons]
  | cons e rest ih =>
    unfold assign
    split
    · simp only [List.countP_cons]
      omega
    · simp only [List.countP_cons] at ih ⊢
      omega

/-- An entry that replaces one that counts does not add to a count of entries. -/
theorem countP_assign_le_of_lookup {p : α → Bool} {id : Nat} {b : α} {entries : List (Nat × α)}
    (h : entries.lookup id = some b) (hb : p b = true) (a : α) :
    (assign id a entries).countP (fun e => p e.2) ≤ entries.countP (fun e => p e.2) := by
  induction entries with
  | nil => cases h
  | cons e rest ih =>
    obtain ⟨n, c⟩ := e
    unfold assign
    split
    · rename_i hn
      rw [List.lookup_cons, hn, beq_self_eq_true] at h
      cases Option.some.inj h
      simp only [List.countP_cons, hb, if_true]
      split <;> omega
    · rename_i hn
      have hne : (id == n) = false := by simp [Ne.symm hn]
      rw [List.lookup_cons, hne] at h
      have hrest := ih h
      simp only [List.countP_cons]
      omega

/-- An entry that does not count, in the place of one that does, takes from a count of entries. -/
theorem countP_assign_lt_of_lookup {p : α → Bool} {id : Nat} {a b : α} {entries : List (Nat × α)}
    (h : entries.lookup id = some b) (hb : p b = true) (ha : p a = false) :
    (assign id a entries).countP (fun e => p e.2) < entries.countP (fun e => p e.2) := by
  induction entries with
  | nil => cases h
  | cons e rest ih =>
    obtain ⟨n, c⟩ := e
    unfold assign
    split
    · rename_i hn
      rw [List.lookup_cons, hn, beq_self_eq_true] at h
      cases Option.some.inj h
      simp [hb, ha]
    · rename_i hn
      have hne : (id == n) = false := by simp [Ne.symm hn]
      rw [List.lookup_cons, hne] at h
      have hrest := ih h
      simp only [List.countP_cons]
      omega

/-- To erase a number that is not there changes nothing. -/
theorem erase_eq_self {id : Nat} {entries : List (Nat × α)} (h : id ∉ entries.map Prod.fst) :
    erase id entries = entries := by
  refine List.filter_eq_self.2 fun e he => ?_
  have hne : e.1 ≠ id := by
    rintro rfl
    exact h (List.mem_map.2 ⟨e, he, rfl⟩)
  simpa using hne

/-- Where no number is twice, the entry of a number and the other entries are all there is. -/
theorem perm_cons_erase {id : Nat} {a : α} {entries : List (Nat × α)}
    (hkeys : (entries.map Prod.fst).Nodup) (h : entries.lookup id = some a) :
    entries.Perm ((id, a) :: erase id entries) := by
  induction entries with
  | nil => cases h
  | cons e rest ih =>
    obtain ⟨n, b⟩ := e
    rw [List.map_cons, List.nodup_cons] at hkeys
    rw [List.lookup_cons] at h
    by_cases hn : id = n
    · subst hn
      simp only [BEq.rfl, Option.some.injEq] at h
      subst h
      have hcons : erase id ((id, b) :: rest) = rest := by
        rw [erase, List.filter_cons_of_neg (by simp)]
        exact erase_eq_self hkeys.1
      rw [hcons]
    · have hb : (id == n) = false := by simp [hn]
      rw [hb] at h
      have hcons : erase id ((n, b) :: rest) = (n, b) :: erase id rest :=
        List.filter_cons_of_pos (by simp [Ne.symm hn])
      rw [hcons]
      exact ((ih hkeys.2 h).cons _).trans (.swap _ _ _)

/-- Changing every entry by a rule changes the entry of a number by that rule. -/
theorem lookup_map (f : Nat → α → β) (id : Nat) (entries : List (Nat × α)) :
    (entries.map fun e => (e.1, f e.1 e.2)).lookup id = (entries.lookup id).map (f id) := by
  induction entries with
  | nil => rfl
  | cons e rest ih =>
    obtain ⟨n, b⟩ := e
    rw [List.map_cons, List.lookup_cons, List.lookup_cons]
    by_cases hn : id = n
    · simp [hn]
    · have hb : (id == n) = false := by simp [hn]
      rw [hb, ih]

end SyslogCollector.Numbered
