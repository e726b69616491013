import SyslogCollector.Proofs.Reader.Series
import SyslogCollector.Store.Reader
/-!
# The answer to a request

`answerText` says what a request asks for of a list of points, as one text. The store answers it
in chunks of rows, and a reader hands out the lines of the chunks that have any. Whatever the size
of the chunks, these texts together are `answerText` (`join_texts_query`).
-/

namespace SyslogCollector.Store

/-! ### The answer -/

/-- Whether a request asks for a point: its application, its host if one is named, and its time,
which only has one bound: the start if there is one, else the end. -/
def asksFor (params : QueryParams) (p : Point) : Bool :=
  p.measurement == params.appName &&
    (match params.hostname with
      | some host => host.isEmpty || host == p.hostname
      | none => true) &&
    match params.start, params.stop with
      | some start, _ => decide (start.toNanos ≤ p.nanos)
      | none, some stop => decide (p.nanos ≤ stop.toNanos)
      | none, none => true

/-- A message as a line: with a line feed at its end, unless it has one there. -/
def asLine (body : String) : String :=
  if body.toList.getLast? = some '\n' then body else body ++ "\n"

/-- The points that are asked for, in the order of their times. Points of one time stay in their
order. -/
def asked (params : QueryParams) (points : List Point) : List Point :=
  (points.filter (asksFor params)).mergeSort fun a b => a.nanos ≤ b.nanos

/-- The answer to a request: a line for each point that is asked for and has a message. -/
def answerText (params : QueryParams) (points : List Point) : String :=
  String.join (((asked params points).filter fun p => p.body ≠ "").map fun p => asLine p.body)

/-! ### Rows and lines -/

theorem lineOf_of_ne {body : String} (h : body ≠ "") : lineOf body = asLine body := by
  have hempty : body.isEmpty = false := by simpa [← Bool.not_eq_true, String.isEmpty_iff] using h
  unfold lineOf asLine
  by_cases hlast : body.toList.getLast? = some '\n' <;> simp [hempty, hlast]

theorem linesOf_cons (row : Row) (rows : List Row) :
    linesOf (row :: rows) = lineOf row.body ++ linesOf rows := by
  simp [linesOf, String.join_cons]

theorem linesOf_append (rows more : List Row) :
    linesOf (rows ++ more) = linesOf rows ++ linesOf more := by
  simp [linesOf, String.join_append]

/-- Rows without a message have no line. -/
theorem linesOf_map_row (points : List Point) :
    linesOf (points.map Point.row) =
      String.join ((points.filter fun p => p.body ≠ "").map fun p => asLine p.body) := by
  induction points with
  | nil => rfl
  | cons p rest ih =>
    rw [List.map_cons, linesOf_cons, ih, List.filter_cons]
    by_cases hbody : p.body = ""
    · have hnone : lineOf p.row.body = "" := by simp [Point.row, hbody, lineOf]
      simp [hbody, hnone]
    · have hline : lineOf p.row.body = asLine p.body := lineOf_of_ne hbody
      simp [hbody, hline, String.join_cons]

theorem getLast?_lineOf {body : String} (h : body ≠ "") :
    (lineOf body).toList.getLast? = some '\n' := by
  rw [lineOf_of_ne h]
  unfold asLine
  split
  · assumption
  · simp

/-- Lines end with a line feed, if there are any. -/
theorem getLast?_linesOf {rows : List Row} (h : linesOf rows ≠ "") :
    (linesOf rows).toList.getLast? = some '\n' := by
  induction rows with
  | nil => exact absurd rfl h
  | cons row rest ih =>
    rw [linesOf_cons] at h ⊢
    by_cases hrest : linesOf rest = ""
    · rw [hrest, String.append_empty] at h ⊢
      refine getLast?_lineOf fun hbody => h ?_
      simp [hbody, lineOf]
    · -- the last line is one of the rest
      rw [String.toList_append, List.getLast?_append, ih hrest]
      rfl

/-! ### Chunks -/

theorem flatten_chunksOf (size : Nat) (items : List α) : (chunksOf size items).flatten = items := by
  induction items using chunksOf.induct size with
  | case1 => simp [chunksOf]
  | case2 a rest ih =>
    rw [chunksOf, List.flatten_cons, ih, List.cons_append, List.take_append_drop]

/-- The texts that a reader makes of chunks: the lines of those that have any. -/
def texts (chunks : List (List Row)) : List String :=
  (chunks.map linesOf).filter (· ≠ "")

/-- The chunks make no difference to the text as a whole. -/
theorem join_texts (chunks : List (List Row)) :
    String.join (texts chunks) = linesOf chunks.flatten := by
  induction chunks with
  | nil => rfl
  | cons rows rest ih =>
    rw [List.flatten_cons, linesOf_append, ← ih]
    by_cases hrows : linesOf rows = ""
    · simp [texts, hrows]
    · simp [texts, hrows, String.join_cons]

/-- Every text ends with a line feed. -/
theorem getLast?_of_mem_texts {chunks : List (List Row)} {text : String}
    (h : text ∈ texts chunks) : text.toList.getLast? = some '\n' := by
  obtain ⟨hmem, hne⟩ := List.mem_filter.1 h
  obtain ⟨rows, -, rfl⟩ := List.mem_map.1 hmem
  exact getLast?_linesOf (by simpa using hne)

/-- What a reader gives at its uses, counted from 0: the texts one by one, and then the end. -/
def readingAt (all : List String) (n : Nat) : Reading :=
  (all[n]?.map .lines).getD .atEnd

theorem readingAt_drop (all : List String) (n : Nat) :
    readingAt (all.drop n) 0 = readingAt all n := by
  simp [readingAt]

/-- The texts that a reader has still to give. -/
inductive Remains : Reader → List String → Prop
  | streaming (rest : List (List Row)) : Remains (.streaming (rest.map .ok)) (texts rest)
  | finished : Remains .finished []

/-- The next lines of an answer are its first text, and the other texts remain. -/
theorem Remains.nextLines (chunks : List (List Row)) :
    (nextLines (chunks.map .ok)).1 = readingAt (texts chunks) 0 ∧
      Remains (nextLines (chunks.map .ok)).2 (texts chunks).tail := by
  induction chunks with
  | nil => exact ⟨rfl, .finished⟩
  | cons rows rest ih =>
    by_cases hrows : linesOf rows = ""
    · -- a chunk without lines is left out
      have htexts : texts (rows :: rest) = texts rest := by simp [texts, hrows]
      have hnext : Store.nextLines ((rows :: rest).map .ok) = Store.nextLines (rest.map .ok) := by
        simp [Store.nextLines, hrows]
      rw [htexts, hnext]
      exact ih
    · have hne : (linesOf rows).isEmpty = false := by
        simpa [← Bool.not_eq_true, String.isEmpty_iff] using hrows
      have htexts : texts (rows :: rest) = linesOf rows :: texts rest := by simp [texts, hrows]
      have hnext : Store.nextLines ((rows :: rest).map .ok) =
          (.lines (linesOf rows), .streaming (rest.map .ok)) := by
        simp [Store.nextLines, hne]
      rw [htexts, hnext]
      exact ⟨rfl, .streaming rest⟩

/-! ### Queries -/

/-- A request that names an application is a query for what it asks for. -/
theorem exists_ofParams {params : QueryParams} (h : params.appName ≠ "") :
    ∃ q, SeriesQuery.ofParams params = .ok q ∧ q.measurement = params.appName ∧
      ∀ p, (p.measurement == q.measurement && q.admits p) = asksFor params p := by
  have hname : params.appName.isEmpty = false := by
    simpa [← Bool.not_eq_true, String.isEmpty_iff] using h
  refine ⟨_, by rw [SeriesQuery.ofParams, hname]; rfl, rfl, fun p => ?_⟩
  have hhost : (params.hostFilter.all (· == p.hostname)) =
      (match params.hostname with
        | some host => host.isEmpty || host == p.hostname
        | none => true) := by
    unfold QueryParams.hostFilter
    cases params.hostname with
    | none => rfl
    | some host => cases hempty : host.isEmpty <;> simp [hempty]
  unfold SeriesQuery.admits asksFor
  rw [← hhost]
  cases params.start <;> cases params.stop <;>
    simp [TimeBound.contains, Bool.and_left_comm, Bool.and_comm]

/-- The rows of a query are those of the points that are asked for, if the store has of the
application what was handed over. -/
theorem rows_eq {params : QueryParams} {q : SeriesQuery} {s : MemoryStore} {handed : List Point}
    (hasks : ∀ p, (p.measurement == q.measurement && q.admits p) = asksFor params p)
    (hpoints : s.points q.measurement = handed.filter (·.measurement = q.measurement)) :
    s.rows q = (asked params handed).map Point.row := by
  have hfilter : (s.points q.measurement).filter q.admits = handed.filter (asksFor params) := by
    rw [hpoints, List.filter_filter]
    refine List.filter_congr fun p _ => ?_
    rw [← hasks p, Bool.and_comm]
    rfl
  unfold MemoryStore.rows asked
  rw [hfilter]
  refine (List.map_mergeSort (f := Point.row) fun a _ b _ => ?_).symm
  rfl

/-- The texts of a query, put together, are the answer. -/
theorem join_texts_query {params : QueryParams} {q : SeriesQuery} {s : MemoryStore}
    {handed : List Point}
    (hasks : ∀ p, (p.measurement == q.measurement && q.admits p) = asksFor params p)
    (hpoints : s.points q.measurement = handed.filter (·.measurement = q.measurement)) :
    String.join (texts (s.query q)) = answerText params handed := by
  rw [MemoryStore.query, join_texts, flatten_chunksOf, rows_eq hasks hpoints, linesOf_map_row]
  rfl

end SyslogCollector.Store
