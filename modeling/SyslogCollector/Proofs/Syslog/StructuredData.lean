import SyslogCollector.Syslog.Rfc5424
/-!
# The grammar of structured data

Structured data is a hyphen, or one element or more. An element is everything from a square bracket
to the first closing one that is not in quotes; in quotes a backslash takes the next character for
itself. The grammar is written down here without the scan that checks it, and the scan is shown to
find exactly the elements of the grammar (`afterElement?_eq_some_iff`), then the elements in a row
and what follows them (`skipStructuredData_eq_ok_iff`).

The texts of the grammar determine their parts (`Ending.text_inj`), since an element is never the
beginning of a longer one.
-/

namespace SyslogCollector.Syslog.Rfc5424

/-! ## Elements -/

/-- A quoted text from behind its opening quote to its closing one. -/
inductive Quoted : List Char → Prop
  /-- The closing quote. -/
  | close : Quoted ['"']
  /-- A backslash and the character after it, whatever that is. -/
  | escape (c : Char) {s : List Char} (hs : Quoted s) : Quoted ('\\' :: c :: s)
  /-- Any other character. -/
  | plain {c : Char} {s : List Char} (hquote : c ≠ '"') (hbackslash : c ≠ '\\') (hs : Quoted s) :
      Quoted (c :: s)

/-- An element from behind its opening bracket to its closing one. -/
inductive Interior : List Char → Prop
  /-- The closing bracket. -/
  | close : Interior [']']
  /-- A quoted text. -/
  | quoted {q s : List Char} (hq : Quoted q) (hs : Interior s) : Interior ('"' :: (q ++ s))
  /-- Any other character. -/
  | plain {c : Char} {s : List Char} (hbracket : c ≠ ']') (hquote : c ≠ '"') (hs : Interior s) :
      Interior (c :: s)

/-- What completes an element from where the scan stands in it. -/
def Completes : Scan → List Char → Prop
  | .plain, e => Interior e
  | .quoted, e => ∃ q s, Quoted q ∧ Interior s ∧ e = q ++ s
  | .escaped, e => ∃ c q s, Quoted q ∧ Interior s ∧ e = c :: (q ++ s)

/-- The scan goes over a quoted text to its end. -/
theorem afterElement?_quoted {q : List Char} (h : Quoted q) (s : List Char) :
    afterElement? .quoted (q ++ s) = afterElement? .plain s := by
  induction h with
  | close => rfl
  | escape c _ ih => exact ih
  | @plain c q hquote hbackslash _ ih =>
    rw [List.cons_append, afterElement?, if_neg hbackslash, if_neg hquote, ih]

/-- The scan goes over an element to its end. -/
theorem afterElement?_plain {e : List Char} (h : Interior e) (rest : List Char) :
    afterElement? .plain (e ++ rest) = some rest := by
  induction h with
  | close => rfl
  | @quoted q s hq _ ih =>
    have hopen : '"' ≠ ']' := by decide
    rw [List.cons_append, List.append_assoc, afterElement?, if_neg hopen, if_pos rfl,
      afterElement?_quoted hq, ih]
  | @plain c s hbracket hquote _ ih =>
    rw [List.cons_append, afterElement?, if_neg hbracket, if_neg hquote, ih]

/-- What the scan goes over completes an element. -/
theorem completes_of_afterElement? {scan : Scan} {s rest : List Char}
    (h : afterElement? scan s = some rest) : ∃ e, Completes scan e ∧ s = e ++ rest := by
  fun_induction afterElement? scan s with
  | case1 => simp at h
  | case2 s =>
    obtain rfl := Option.some.inj h
    exact ⟨[']'], .close, rfl⟩
  | case3 s _ ih =>
    obtain ⟨e, ⟨q, i, hq, hi, rfl⟩, rfl⟩ := ih h
    exact ⟨'"' :: (q ++ i), .quoted hq hi, rfl⟩
  | case4 c s hbracket hquote ih =>
    obtain ⟨e, he, rfl⟩ := ih h
    exact ⟨c :: e, .plain hbracket hquote he, rfl⟩
  | case5 s ih =>
    obtain ⟨e, ⟨c, q, i, hq, hi, rfl⟩, rfl⟩ := ih h
    exact ⟨'\\' :: c :: (q ++ i), ⟨'\\' :: c :: q, i, .escape c hq, hi, rfl⟩, rfl⟩
  | case6 s _ ih =>
    obtain ⟨e, he, rfl⟩ := ih h
    exact ⟨'"' :: e, ⟨['"'], e, .close, he, rfl⟩, rfl⟩
  | case7 c s hbackslash hquote ih =>
    obtain ⟨e, ⟨q, i, hq, hi, rfl⟩, rfl⟩ := ih h
    exact ⟨c :: (q ++ i), ⟨c :: q, i, .plain hquote hbackslash hq, hi, rfl⟩, rfl⟩
  | case8 c s ih =>
    obtain ⟨e, ⟨q, i, hq, hi, rfl⟩, rfl⟩ := ih h
    exact ⟨c :: (q ++ i), ⟨c, q, i, hq, hi, rfl⟩, rfl⟩

/-- The scan finds exactly the elements of the grammar. -/
theorem afterElement?_eq_some_iff {s rest : List Char} :
    afterElement? .plain s = some rest ↔ ∃ e, Interior e ∧ s = e ++ rest := by
  constructor
  · exact completes_of_afterElement?
  · rintro ⟨e, he, rfl⟩
    exact afterElement?_plain he rest

/-- Where an element ends is determined by the text. -/
theorem Interior.append_inj {e e' rest rest' : List Char} (he : Interior e) (he' : Interior e')
    (h : e ++ rest = e' ++ rest') : e = e' ∧ rest = rest' := by
  -- the scan reads one text, so it leaves the same behind either element
  have hrest : rest = rest' := by
    apply Option.some.inj
    rw [← afterElement?_plain he rest, h, afterElement?_plain he' rest']
  subst hrest
  exact ⟨List.append_cancel_right h, rfl⟩

/-! ## Elements in a row -/

/-- One element: an opening bracket and everything to the bracket that closes it. -/
structure Element where
  /-- The text behind the opening bracket, up to the closing one. -/
  interior : List Char
  /-- It ends at the first closing bracket that is not in quotes. -/
  ends : Interior interior

/-- The text of an element. -/
def Element.text (e : Element) : List Char :=
  '[' :: e.interior

/-- The text of some elements, one behind the other. -/
def elementsText (es : List Element) : List Char :=
  es.flatMap Element.text

/-- The text of one element more. -/
theorem elementsText_cons_append (e : Element) (es : List Element) (rest : List Char) :
    elementsText (e :: es) ++ rest = '[' :: (e.interior ++ (elementsText es ++ rest)) := by
  rw [elementsText, List.flatMap_cons, Element.text, List.cons_append, List.cons_append,
    List.append_assoc, elementsText]

/-- An element in front is skipped. -/
theorem afterElements?_element (e : Element) (s : List Char) :
    afterElements? ('[' :: (e.interior ++ s)) = afterElements? s := by
  have hscan := afterElement?_plain e.ends s
  rw [afterElements?]
  split
  · rename_i rest hrest
    rw [Option.some.inj (hscan.symm.trans hrest)]
  · rename_i hnone
    exact absurd (hscan.symm.trans hnone) (Option.some_ne_none _)

/-- Nothing is skipped where no element starts. -/
theorem afterElements?_of_head {s : List Char} (h : s.head? ≠ some '[') :
    afterElements? s = some s := by
  unfold afterElements?
  split
  · exact absurd rfl h
  · rfl

/-- Elements are skipped as long as there is one. -/
theorem afterElements?_eq_some_iff {s rest : List Char} :
    afterElements? s = some rest ↔
      rest.head? ≠ some '[' ∧ ∃ es, s = elementsText es ++ rest := by
  constructor
  · intro h
    fun_induction afterElements? s with
    | case1 s next hnext ih =>
      -- the element that was skipped stands in front of the others
      obtain ⟨e, he, rfl⟩ := afterElement?_eq_some_iff.1 hnext
      obtain ⟨hhead, es, rfl⟩ := ih h
      exact ⟨hhead, ⟨e, he⟩ :: es, (elementsText_cons_append ⟨e, he⟩ es rest).symm⟩
    | case2 => simp at h
    | case3 s hs =>
      obtain rfl := Option.some.inj h
      refine ⟨fun hhead => ?_, [], rfl⟩
      obtain ⟨s, rfl⟩ := List.head?_eq_some_iff.1 hhead
      exact hs s rfl
  · rintro ⟨hhead, es, rfl⟩
    induction es with
    | nil => exact afterElements?_of_head hhead
    | cons e es ih => rw [elementsText_cons_append, afterElements?_element, ih]

/-- Which elements a text starts with is determined by it. -/
theorem elementsText_append_inj {es es' : List Element} {rest rest' : List Char}
    (hrest : rest.head? ≠ some '[') (hrest' : rest'.head? ≠ some '[')
    (h : elementsText es ++ rest = elementsText es' ++ rest') : es = es' ∧ rest = rest' := by
  induction es generalizing es' with
  | nil =>
    cases es' with
    | nil => exact ⟨rfl, h⟩
    | cons e' es' =>
      rw [elementsText_cons_append] at h
      exact absurd (congrArg List.head? h) hrest
  | cons e es ih =>
    cases es' with
    | nil =>
      rw [elementsText_cons_append] at h
      exact absurd (congrArg List.head? h.symm) hrest'
    | cons e' es' =>
      rw [elementsText_cons_append, elementsText_cons_append] at h
      -- the first elements end at the same place, then the others follow
      obtain ⟨hinterior, hnext⟩ := e.ends.append_inj e'.ends (List.cons.inj h).2
      obtain ⟨rfl, hsame⟩ := ih hnext
      refine ⟨?_, hsame⟩
      cases e
      cases e'
      congr

/-! ## The end of a message -/

/-- Structured data. -/
inductive StructuredData where
  /-- There is none. -/
  | none
  /-- One element or more. -/
  | elements (first : Element) (more : List Element)

/-- The text of structured data. -/
def StructuredData.text : StructuredData → List Char
  | .none => ['-']
  | .elements first more => elementsText (first :: more)

/-- What follows structured data: nothing, or a space and the body. -/
def bodyText : Option (List Char) → List Char
  | none => []
  | some body => ' ' :: body

/-- What ends a message. -/
structure Ending where
  /-- The structured data. -/
  data : StructuredData
  /-- The body, if there is one. It may be empty. -/
  body : Option (List Char)

/-- The text of an ending. -/
def Ending.text (r : Ending) : List Char :=
  r.data.text ++ bodyText r.body

/-- A body is no further element. -/
theorem head?_bodyText_ne (body : Option (List Char)) : (bodyText body).head? ≠ some '[' := by
  cases body with
  | none => nofun
  | some body => exact fun h => absurd (Option.some.inj h) (by decide)

/-- A body is what stands behind the space. -/
theorem bodyText_inj {body body' : Option (List Char)} (h : bodyText body = bodyText body') :
    body = body' := by
  cases body <;> cases body' <;> simp_all [bodyText]

/-- An ending is not empty. -/
theorem Ending.text_ne_nil (r : Ending) : r.text ≠ [] := by
  obtain ⟨data, body⟩ := r
  cases data <;> nofun

/-- The parts of an ending are determined by its text. -/
theorem Ending.text_inj {r r' : Ending} (h : r.text = r'.text) : r = r' := by
  obtain ⟨data, body⟩ := r
  obtain ⟨data', body'⟩ := r'
  unfold text at h
  cases data with
  | none =>
    cases data' with
    | none =>
      have hbody : body = body' := bodyText_inj (List.cons.inj h).2
      rw [hbody]
    | elements => exact absurd (List.cons.inj h).1 (by decide)
  | elements first more =>
    cases data' with
    | none => exact absurd (List.cons.inj h).1 (by decide)
    | elements first' more' =>
      obtain ⟨hes, hbody⟩ :=
        elementsText_append_inj (head?_bodyText_ne body) (head?_bodyText_ne body') h
      obtain ⟨rfl, rfl⟩ := List.cons.inj hes
      rw [bodyText_inj hbody]

/-- What stands behind structured data is nothing, or a space and the body. -/
theorem bodyAfter_eq_ok_iff {s message : List Char} :
    bodyAfter s = .ok message ↔ ∃ body, s = bodyText body ∧ message = body.getD [] := by
  constructor
  · intro h
    unfold bodyAfter at h
    split at h
    · exact ⟨none, rfl, (Except.ok.inj h).symm⟩
    · rename_i body
      exact ⟨some body, rfl, (Except.ok.inj h).symm⟩
    · simp at h
  · rintro ⟨body, rfl, rfl⟩
    cases body <;> rfl

/-- Structured data is accepted exactly if it is of the grammar, and the body is what follows. -/
theorem skipStructuredData_eq_ok_iff {s message : List Char} :
    skipStructuredData s = .ok message ↔
      ∃ r : Ending, s = r.text ∧ message = r.body.getD [] := by
  constructor
  · intro h
    unfold skipStructuredData at h
    split at h
    · simp at h
    · obtain ⟨body, rfl, rfl⟩ := bodyAfter_eq_ok_iff.1 h
      exact ⟨⟨.none, body⟩, rfl, rfl⟩
    · rename_i s
      split at h
      · rename_i rest hrest
        obtain ⟨body, rfl, rfl⟩ := bodyAfter_eq_ok_iff.1 h
        obtain ⟨-, es, hes⟩ := afterElements?_eq_some_iff.1 hrest
        cases es with
        | nil =>
          -- the text starts with a bracket, so there is an element
          exact absurd (congrArg List.head? hes).symm (head?_bodyText_ne body)
        | cons first more => exact ⟨⟨.elements first more, body⟩, hes, rfl⟩
      · simp at h
    · simp at h
  · rintro ⟨⟨data, body⟩, rfl, rfl⟩
    have hbody : bodyAfter (bodyText body) = .ok (body.getD []) :=
      bodyAfter_eq_ok_iff.2 ⟨body, rfl, rfl⟩
    cases data with
    | none => exact hbody
    | elements first more =>
      have helements := afterElements?_eq_some_iff.2
        ⟨head?_bodyText_ne body, first :: more, rfl⟩
      rw [elementsText_cons_append] at helements
      rw [Ending.text, StructuredData.text, elementsText_cons_append, skipStructuredData,
        helements]
      exact hbody

/-- Neither a quoted bracket nor an escaped quote ends an element. -/
example : skipStructuredData "[a b=\"]\\\"\"][c] text".toList = .ok "text".toList := by cbv

end SyslogCollector.Syslog.Rfc5424
