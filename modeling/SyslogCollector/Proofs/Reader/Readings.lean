import SyslogCollector.Proofs.Reader.Answer
/-!
# The readings of an answer

The chunks of an answer may have no lines, and any of them may fail. `NextOf` says what the next
lines of an answer are, and `Gives` what a reader has given of it so far: the lines of the chunks
that have any, then the end or the first error, and then the end again and again.
-/

namespace SyslogCollector.Store

/-- What a reader has given of an answer, and where it stands then. -/
inductive Gives : Except QueryError Chunks → List Reading → Reader → Prop
  /-- The lines of the chunks so far that have any. -/
  | streaming (used : List (List Row)) (rest : Chunks) :
      Gives (.ok (used.map .ok ++ rest)) ((texts used).map .lines) (.streaming rest)
  /-- The lines of all chunks, and then the end, again and again. -/
  | ended (used : List (List Row)) (more : Nat) :
      Gives (.ok (used.map .ok))
        ((texts used).map .lines ++ .atEnd :: List.replicate more .atEnd) .finished
  /-- The lines of the chunks before the first error, the error, and then the end, again and
  again. -/
  | broken (used : List (List Row)) (error : QueryError) (rest : Chunks) (more : Nat) :
      Gives (.ok (used.map .ok ++ .error error :: rest))
        ((texts used).map .lines ++ .failed error :: List.replicate more .atEnd) .finished
  /-- The error of the query, and then the end, again and again. -/
  | refused (error : QueryError) (more : Nat) :
      Gives (.error error) (.failed error :: List.replicate more .atEnd) .finished

/-- What the next lines of an answer are: those of the first chunk that has any, its end or its
first error. -/
inductive NextOf : Chunks → Reading → Reader → Prop
  | lines (skipped : List (List Row)) {rows : List Row} (hskipped : texts skipped = [])
      (hrows : linesOf rows ≠ "") (rest : Chunks) :
      NextOf (skipped.map .ok ++ .ok rows :: rest) (.lines (linesOf rows)) (.streaming rest)
  | atEnd (skipped : List (List Row)) (hskipped : texts skipped = []) :
      NextOf (skipped.map .ok) .atEnd .finished
  | failed (skipped : List (List Row)) (hskipped : texts skipped = []) (error : QueryError)
      (rest : Chunks) :
      NextOf (skipped.map .ok ++ .error error :: rest) (.failed error) .finished

@[simp]
theorem texts_append (chunks more : List (List Row)) :
    texts (chunks ++ more) = texts chunks ++ texts more := by
  simp [texts]

theorem texts_singleton {rows : List Row} (h : linesOf rows ≠ "") :
    texts [rows] = [linesOf rows] := by
  simp [texts, h]

theorem texts_cons_of_empty {rows : List Row} (h : linesOf rows = "") (rest : List (List Row)) :
    texts (rows :: rest) = texts rest := by
  simp [texts, h]

/-- A chunk without lines in front changes nothing. -/
theorem NextOf.skip {chunks : Chunks} {x : Reading} {reader : Reader} {rows : List Row}
    (h : NextOf chunks x reader) (hrows : linesOf rows = "") :
    NextOf (.ok rows :: chunks) x reader := by
  cases h with
  | lines skipped hskipped hlines rest =>
    exact .lines (rows :: skipped) ((texts_cons_of_empty hrows _).trans hskipped) hlines
      rest
  | atEnd skipped hskipped =>
    exact .atEnd (rows :: skipped) ((texts_cons_of_empty hrows _).trans hskipped)
  | failed skipped hskipped error rest =>
    exact .failed (rows :: skipped) ((texts_cons_of_empty hrows _).trans hskipped) error
      rest

theorem nextOf_nextLines (chunks : Chunks) :
    NextOf chunks (nextLines chunks).1 (nextLines chunks).2 := by
  induction chunks with
  | nil => exact .atEnd [] rfl
  | cons chunk rest ih =>
    cases chunk with
    | error error => exact .failed [] rfl error rest
    | ok rows =>
      -- a chunk without lines is skipped, and the rest is looked at in its place
      by_cases hrows : linesOf rows = ""
      · have hnext : nextLines (.ok rows :: rest) = nextLines rest := by simp [nextLines, hrows]
        rw [hnext]
        exact ih.skip hrows
      · have hne : (linesOf rows).isEmpty = false := by
          simpa [← Bool.not_eq_true, String.isEmpty_iff] using hrows
        have hnext : nextLines (.ok rows :: rest) = (.lines (linesOf rows), .streaming rest) := by
          simp [nextLines, hne]
        rw [hnext]
        exact .lines [] rfl hrows rest

theorem nextLines_ne_pending (chunks : Chunks) (params : QueryParams) :
    (nextLines chunks).2 ≠ .pending params := by
  have hnext := nextOf_nextLines chunks
  generalize (nextLines chunks).1 = x at hnext
  generalize (nextLines chunks).2 = reader at hnext ⊢
  cases hnext <;> exact nofun

namespace Gives

variable {answer : Except QueryError Chunks} {readings : List Reading}

/-- A reader goes on with its answer. -/
theorem next {rest : Chunks} (h : Gives answer readings (.streaming rest)) :
    Gives answer (readings ++ [(nextLines rest).1]) (nextLines rest).2 := by
  have hnext := nextOf_nextLines rest
  generalize (nextLines rest).1 = x at hnext ⊢
  generalize (nextLines rest).2 = reader at hnext ⊢
  cases h with
  | streaming used =>
    -- the chunks that were skipped have no lines, so they are counted to those used
    cases hnext with
    | @lines skipped rows hskipped hrows rest =>
      have hchunks := Gives.streaming (used ++ skipped ++ [rows]) rest
      simpa [hskipped, texts_singleton hrows] using hchunks
    | atEnd skipped hskipped =>
      have hchunks := Gives.ended (used ++ skipped) 0
      simpa [hskipped] using hchunks
    | failed skipped hskipped error rest =>
      have hchunks := Gives.broken (used ++ skipped) error rest 0
      simpa [hskipped] using hchunks

/-- A reader at its end stays there. -/
theorem again (h : Gives answer readings .finished) :
    Gives answer (readings ++ [.atEnd]) .finished := by
  cases h with
  | ended used more =>
    have hmore := Gives.ended used (more + 1)
    simpa [List.replicate_succ'] using hmore
  | broken used error rest more =>
    have hmore := Gives.broken used error rest (more + 1)
    simpa [List.replicate_succ'] using hmore
  | refused error more =>
    have hmore := Gives.refused error (more + 1)
    simpa [List.replicate_succ'] using hmore

theorem ne_pending {reader : Reader} (h : Gives answer readings reader) (params : QueryParams) :
    reader ≠ .pending params := by
  cases h <;> exact nofun

/-- The start of a query gives the first reading of its answer. -/
theorem first (answer : Except QueryError Chunks) :
    Gives answer [(firstLines answer).1] (firstLines answer).2 := by
  cases answer with
  | error error => exact .refused error 0
  | ok chunks => exact (Gives.streaming [] chunks).next

end Gives

end SyslogCollector.Store
