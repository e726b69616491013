import SyslogCollector.Store.Influx.Backend
/-!
# The documents of an answer

The body of an answer arrives in pieces that have nothing to do with its lines. Its documents are
the lines of all bytes together, but for the blank ones (`documents`), and reading them one by one
gives each document at its own place and then the end for ever, however the bytes were cut
(`answer_read_as_documents`).

What carries this is that a reading takes exactly the first document off the bytes that are not
read, those in the buffer and those still to arrive (`next_eq`).
-/

namespace SyslogCollector

namespace Lines

/-- The lines of some bytes, each with its line feed. The last one need not have any. -/
def split : List UInt8 → List (List UInt8)
  | [] => []
  | b :: rest =>
    if b = lineFeed then [b] :: split rest
    else match split rest with
      | [] => [[b]]
      | line :: more => (b :: line) :: more

/-- There are no more lines than bytes. -/
theorem length_split_le (bytes : List UInt8) : (split bytes).length ≤ bytes.length := by
  induction bytes with
  | nil => exact Nat.le_refl 0
  | cons b rest ih =>
    rw [split]
    split
    · exact Nat.succ_le_succ ih
    · split
      · exact Nat.succ_le_succ (Nat.zero_le _)
      · rename_i hsome
        rw [hsome] at ih
        exact Nat.le_succ_of_le ih

/-- Bytes without a line feed are one line, if there are any. -/
theorem split_of_not_mem {bytes : List UInt8} (h : lineFeed ∉ bytes) (hne : bytes ≠ []) :
    split bytes = [bytes] := by
  induction bytes with
  | nil => exact absurd rfl hne
  | cons b rest ih =>
    obtain ⟨hb, hrest⟩ := not_or.1 (mt List.mem_cons.2 h)
    rw [split, if_neg (Ne.symm hb)]
    cases rest with
    | nil => rfl
    | cons c rest => rw [ih hrest (List.cons_ne_nil c rest)]

/-- Bytes up to a line feed are a line, whatever follows. -/
theorem split_line {body : List UInt8} (h : lineFeed ∉ body) (rest : List UInt8) :
    split (body ++ lineFeed :: rest) = (body ++ [lineFeed]) :: split rest := by
  induction body with
  | nil => rw [List.nil_append, split, if_pos rfl, List.nil_append]
  | cons b body ih =>
    obtain ⟨hb, hbody⟩ := not_or.1 (mt List.mem_cons.2 h)
    rw [List.cons_append, split, if_neg (Ne.symm hb), ih hbody]
    rfl

/-- A cut takes the first line off, whatever follows. -/
theorem split_of_cut? {bytes line after : List UInt8} (h : cut? bytes = some (line, after))
    (more : List UInt8) : split (bytes ++ more) = line :: split (after ++ more) := by
  obtain ⟨body, rfl, hbody⟩ := line_of_cut? h
  rw [append_of_cut? h, List.append_assoc, List.append_assoc, List.singleton_append,
    split_line hbody]

end Lines

namespace Store.Influx

/-- The documents in some bytes: the lines that are not blank. -/
def documents (bytes : List UInt8) : List (List UInt8) :=
  (Lines.split bytes).filter fun line => !line.all isSpace

theorem length_documents_le (bytes : List UInt8) : (documents bytes).length ≤ bytes.length :=
  Nat.le_trans (List.length_filter_le _ _) (Lines.length_split_le bytes)

/-- What a cut takes off is the first document, unless it is blank. -/
theorem documents_of_cut? {bytes line after : List UInt8}
    (h : Lines.cut? bytes = some (line, after)) (more : List UInt8) :
    documents (bytes ++ more) =
      if line.all isSpace then documents (after ++ more)
      else line :: documents (after ++ more) := by
  rw [documents, Lines.split_of_cut? h, List.filter_cons]
  cases hblank : line.all isSpace <;> rfl

/-- Bytes without a line feed are one document, unless they are blank. -/
theorem documents_of_not_mem {bytes : List UInt8} (h : Lines.lineFeed ∉ bytes) :
    documents bytes = if bytes.all isSpace then [] else [bytes] := by
  by_cases hne : bytes = []
  · rw [hne]
    rfl
  · rw [documents, Lines.split_of_not_mem h hne, List.filter_cons]
    cases hblank : bytes.all isSpace <;> rfl

/-- What a reading comes to: the rows of a document, or why there are none; nothing at the end. -/
def Delivery.rows : Delivery → Except QueryError (Option Rows)
  | .document bytes => (decode bytes).map some
  | .atEnd => .ok none
  | .broken reason => .error (.connection ("reading results: " ++ reason))

namespace Body

/-- The bytes that are not read: those in the buffer and those still to arrive. -/
def unread (b : Body) : List UInt8 :=
  b.buffer ++ b.pieces.flatten

/-! ## One reading -/

/-- A reading of a body that does not break off takes the first document off the bytes that are not
read, or finds the end if there is none. -/
theorem next_eq {b : Body} (hfault : b.fault = none) :
    b.next.1 = ((documents b.unread).head?.map .document).getD .atEnd ∧
      documents b.next.2.unread = (documents b.unread).tail ∧ b.next.2.fault = none := by
  fun_induction Body.next b with
  | case1 b line after hcut hblank ih =>
    have hsame : documents b.unread = documents (after ++ b.pieces.flatten) := by
      rw [unread, documents_of_cut? hcut, if_pos hblank]
    rw [hsame]
    exact ih hfault
  | case2 b line after hcut hblank =>
    have hfirst : documents b.unread = line :: documents (after ++ b.pieces.flatten) := by
      rw [unread, documents_of_cut? hcut, if_neg hblank]
    rw [hfirst]
    exact ⟨rfl, rfl, hfault⟩
  | case3 b hcut piece rest hpieces ih =>
    -- a piece that arrives goes from one part of the unread bytes to the other
    have hsame : b.unread = b.buffer ++ piece ++ rest.flatten := by
      rw [unread, hpieces, List.flatten_cons, List.append_assoc]
    rw [hsame]
    exact ih hfault
  | case4 b hcut hpieces reason hbroken =>
    rw [hfault] at hbroken
    cases hbroken
  | case5 b hcut hpieces _ hblank =>
    have hnone : documents b.unread = [] := by
      rw [unread, hpieces, List.flatten_nil, List.append_nil,
        documents_of_not_mem (Lines.cut?_eq_none_iff.1 hcut), if_pos hblank]
    rw [hnone]
    exact ⟨rfl, rfl, hfault⟩
  | case6 b hcut hpieces _ hblank =>
    have hlast : documents b.unread = [b.buffer] := by
      rw [unread, hpieces, List.flatten_nil, List.append_nil,
        documents_of_not_mem (Lines.cut?_eq_none_iff.1 hcut), if_neg hblank]
    have hrest : (Body.mk [] b.pieces b.fault).unread = [] := by
      rw [unread, hpieces]
      rfl
    rw [hlast, hrest]
    exact ⟨rfl, rfl, hfault⟩

/-! ## All readings -/

/-- The body after so many readings. -/
def after (b : Body) : Nat → Body
  | 0 => b
  | n + 1 => (b.after n).next.2

/-- So many readings take so many documents. -/
theorem documents_after {b : Body} (hfault : b.fault = none) (n : Nat) :
    documents (b.after n).unread = (documents b.unread).drop n ∧ (b.after n).fault = none := by
  induction n with
  | zero => exact ⟨rfl, hfault⟩
  | succ n ih =>
    obtain ⟨hdocuments, hnone⟩ := ih
    obtain ⟨-, htail, hnext⟩ := next_eq hnone
    refine ⟨?_, hnext⟩
    rw [after, htail, hdocuments, List.tail_drop]

/-- The reading after so many others finds the document at that place. -/
theorem next_after {b : Body} (hfault : b.fault = none) (n : Nat) :
    (b.after n).next.1 = ((documents b.unread)[n]?.map .document).getD .atEnd := by
  obtain ⟨hdocuments, hnone⟩ := documents_after hfault n
  rw [(next_eq hnone).1, hdocuments, List.head?_drop]

/-- Reading to the end gives every document its rows or its failure. -/
theorem go_eq {b : Body} (hfault : b.fault = none) {fuel : Nat}
    (hfuel : (documents b.unread).length < fuel) :
    results.go fuel b = (documents b.unread).map decode := by
  induction fuel generalizing b with
  | zero => exact absurd hfuel (Nat.not_lt_zero _)
  | succ fuel ih =>
    obtain ⟨hfirst, htail, hnext⟩ := next_eq hfault
    rw [results.go]
    generalize b.next = found at hfirst htail hnext
    obtain ⟨delivery, b'⟩ := found
    cases hdocuments : documents b.unread with
    | nil =>
      -- the reading finds the end, where the loop stops
      rw [hdocuments] at hfirst
      subst hfirst
      rfl
    | cons line rest =>
      rw [hdocuments] at hfirst htail hfuel
      subst hfirst
      -- one document less, one pass less
      have hrest : (documents b'.unread).length < fuel := by
        rw [htail]
        exact Nat.lt_of_succ_lt_succ hfuel
      change decode line :: results.go fuel b' = _
      rw [ih hnext hrest, htail]
      rfl

theorem length_unread_le (b : Body) : b.unread.length ≤ b.size := by
  have hpieces (pieces : List (List UInt8)) : pieces.flatten.length ≤ weight pieces := by
    induction pieces with
    | nil => exact Nat.le_refl 0
    | cons piece rest ih =>
      rw [List.flatten_cons, List.length_append, weight]
      omega
  rw [unread, List.length_append, size]
  exact Nat.add_le_add_left (hpieces b.pieces) _

/-- All of a body that does not break off is its documents. -/
theorem results_eq {b : Body} (hfault : b.fault = none) :
    b.results = (documents b.unread).map decode := by
  have hle := Nat.le_trans (length_documents_le b.unread) (length_unread_le b)
  exact go_eq hfault (Nat.lt_succ_of_le hle)

/-! ## How long a reading takes -/

/-- One pass of the search for the next document: it goes on with another body, or it is over. -/
def pass (b : Body) : Body ⊕ (Delivery × Body) :=
  match Lines.cut? b.buffer, b.pieces, b.fault with
  | some (line, after), _, _ =>
    if line.all isSpace then .inl { b with buffer := after }
    else .inr (.document line, { b with buffer := after })
  | none, piece :: rest, _ => .inl { b with buffer := b.buffer ++ piece, pieces := rest }
  | none, [], some reason => .inr (.broken reason, b)
  | none, [], none =>
    if b.buffer.all isSpace then .inr (.atEnd, b)
    else .inr (.document b.buffer, { b with buffer := [] })

/-- A pass either comes to what the reading comes to, or goes on with a body that has less to read
and leads to the same. -/
theorem pass_cases (b : Body) :
    b.pass = .inr b.next ∨ ∃ b', b.pass = .inl b' ∧ b.next = b'.next ∧ b'.size < b.size := by
  fun_cases Body.next b with
  | case1 line after hcut hblank =>
    refine .inr ⟨{ b with buffer := after }, by simp [pass, hcut, hblank], rfl, ?_⟩
    exact Nat.add_lt_add_right (Lines.length_after_lt hcut) _
  | case2 line after hcut hblank => exact .inl (by simp [pass, hcut, hblank])
  | case3 hcut piece rest hpieces =>
    refine .inr ⟨{ b with buffer := b.buffer ++ piece, pieces := rest },
      by simp [pass, hcut, hpieces], rfl, ?_⟩
    simp only [size, hpieces, List.length_append, weight]
    omega
  | case4 hcut hpieces reason hbroken => exact .inl (by simp [pass, hcut, hpieces, hbroken])
  | case5 hcut hpieces hfault hblank => exact .inl (by simp [pass, hcut, hpieces, hfault, hblank])
  | case6 hcut hpieces hfault hblank => exact .inl (by simp [pass, hcut, hpieces, hfault, hblank])

/-- A reading of at most so many passes, if that is enough. -/
def nextWithin : Nat → Body → Option (Delivery × Body)
  | 0, _ => none
  | n + 1, b =>
    match b.pass with
    | .inl b => nextWithin n b
    | .inr found => some found

/-- A reading takes no more passes than there are bytes and pieces left, and one. -/
theorem nextWithin_eq {b : Body} {n : Nat} (h : b.size < n) : nextWithin n b = some b.next := by
  induction n generalizing b with
  | zero => exact absurd h (Nat.not_lt_zero _)
  | succ n ih =>
    rw [nextWithin]
    rcases pass_cases b with hover | ⟨b', hpass, hnext, hlt⟩
    · rw [hover]
    · rw [hpass, hnext]
      exact ih (Nat.lt_of_lt_of_le hlt (Nat.le_of_lt_succ h))

end Body

/-! ## The answer -/

/-- A query that is answered with a body gives the rows of its documents, chunk by chunk. -/
theorem query_of_answered {σ : Type} {o : Options} {t : Transport σ} {s s' : σ} {q : SeriesQuery}
    {status : Nat} {body : Body} (hsuccess : isSuccess status = true)
    (hfault : body.fault = none)
    (hsend : t.send s (queryRequest o q.statement) = (.answered status body, s')) :
    (backend o t).query s q =
      (.ok ((documents body.unread).map fun line =>
        (decode line).map fun rows => rows.map rowOf), s') := by
  have hask : ask o t s q.statement = (.ok ((documents body.unread).map decode), s') := by
    rw [ask, hsend]
    simp only [hsuccess, if_true, Body.results_eq hfault]
  simp only [backend, hask, Except.map, List.map_map]
  rfl

/-- The answer to a query is read as its documents. However the bytes of a body that does not break
off are cut into pieces, the readings of the body, one after the other, give the rows of each of its
documents, or why that one has none, each at its own place, and after the last one the end for ever.
Reading to the end gives all of them. A reading always comes to an end: it takes no more passes than
there are bytes and pieces left, and one. -/
theorem answer_read_as_documents (pieces : List (List UInt8)) :
    (∀ n, (({ pieces } : Body).after n).next.1.rows =
        ((documents pieces.flatten)[n]?.map fun line => (decode line).map some).getD (.ok none)) ∧
      ({ pieces } : Body).results = (documents pieces.flatten).map decode ∧
      ∀ b : Body, Body.nextWithin (b.size + 1) b = some b.next := by
  refine ⟨fun n => ?_, Body.results_eq rfl, fun b => Body.nextWithin_eq (Nat.lt_succ_self _)⟩
  rw [Body.next_after rfl]
  change Delivery.rows (((documents pieces.flatten)[n]?.map .document).getD .atEnd) = _
  cases (documents pieces.flatten)[n]? <;> rfl

end Store.Influx

end SyslogCollector
