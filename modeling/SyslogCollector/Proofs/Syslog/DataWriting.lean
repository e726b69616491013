import SyslogCollector.Proofs.Syslog.StructuredData
/-!
# Structured data as it is written

An element has a name and parameters, and the value of a parameter may be any text: quotes,
backslashes and closing brackets in it are written with a backslash in front. Written in this way an
element is one of the grammar (`DataElement.interior`), so the scan stays in step with the escapes
and leaves exactly the body (`written_data_skipped`).
-/

namespace SyslogCollector.Syslog.Rfc5424

/-- The name of an element or of a parameter. -/
structure DataName where
  /-- The characters. -/
  chars : List Char
  /-- None of them ends a name. -/
  plain : ∀ c ∈ chars, c ∉ ['=', ' ', ']', '"']

/-- A parameter of an element. -/
structure DataParameter where
  /-- The name. -/
  name : DataName
  /-- The value. -/
  value : List Char

/-- An element of structured data. -/
structure DataElement where
  /-- The name. -/
  name : DataName
  /-- The parameters. -/
  parameters : List DataParameter

/-- A value with a backslash in front of every quote, backslash and closing bracket. -/
def escapeValue (value : List Char) : List Char :=
  value.flatMap fun c => if c ∈ ['"', '\\', ']'] then ['\\', c] else [c]

/-- A parameter as it is written behind the name of its element. -/
def DataParameter.text (p : DataParameter) : List Char :=
  ' ' :: p.name.chars ++ '=' :: '"' :: escapeValue p.value ++ ['"']

/-- An element as it is written. -/
def DataElement.text (e : DataElement) : List Char :=
  '[' :: e.name.chars ++ e.parameters.flatMap DataParameter.text ++ [']']

/-! ### What is written is of the grammar -/

/-- An escaped value and the quote behind it are a quoted text. -/
theorem quoted_escapeValue (value : List Char) : Quoted (escapeValue value ++ ['"']) := by
  induction value with
  | nil => exact .close
  | cons c value ih =>
    rw [escapeValue, List.flatMap_cons, ← escapeValue, List.append_assoc]
    -- a special character has its backslash, so it closes nothing
    by_cases hc : c ∈ ['"', '\\', ']']
    · rw [if_pos hc]
      exact .escape c ih
    · rw [if_neg hc]
      simp only [List.mem_cons, not_or] at hc
      exact .plain hc.1 hc.2.1 ih

/-- A name goes on with its element. -/
theorem interior_name_append (name : DataName) {rest : List Char} (h : Interior rest) :
    Interior (name.chars ++ rest) := by
  obtain ⟨chars, hplain⟩ := name
  -- no character of a name is a quote or a closing bracket
  induction chars with
  | nil => exact h
  | cons c chars ih =>
    have hc := hplain c (.head _)
    simp only [List.mem_cons, not_or] at hc
    exact .plain hc.2.2.1 hc.2.2.2.1 (ih fun d hd => hplain d (.tail _ hd))

/-- A parameter goes on with its element. -/
theorem interior_parameter_append (p : DataParameter) {rest : List Char} (h : Interior rest) :
    Interior (p.text ++ rest) := by
  have hvalue : Interior ('=' :: '"' :: ((escapeValue p.value ++ ['"']) ++ rest)) :=
    .plain (by decide) (by decide) (.quoted (quoted_escapeValue p.value) h)
  have hparameter := interior_name_append p.name hvalue
  rw [DataParameter.text]
  simpa using Interior.plain (c := ' ') (by decide) (by decide) hparameter

/-- What is written of an element behind its opening bracket is an element of the grammar. -/
theorem DataElement.interior (e : DataElement) :
    Interior (e.name.chars ++ (e.parameters.flatMap DataParameter.text ++ [']'])) := by
  refine interior_name_append e.name ?_
  induction e.parameters with
  | nil => exact .close
  | cons p parameters ih =>
    rw [List.flatMap_cons, List.append_assoc]
    exact interior_parameter_append p ih

/-- A written element as one of the grammar. -/
def DataElement.toElement (e : DataElement) : Element :=
  ⟨_, e.interior⟩

theorem DataElement.text_toElement (e : DataElement) : e.toElement.text = e.text := by
  simp [DataElement.text, Element.text, toElement]

/-- Written elements in a row are structured data of the grammar, and what stands behind them is
the body. -/
theorem skipStructuredData_written (first : DataElement) (more : List DataElement)
    (body : Option (List Char)) :
    skipStructuredData ((first :: more).flatMap DataElement.text ++ bodyText body) =
      .ok (body.getD []) := by
  let data : StructuredData := .elements first.toElement (more.map DataElement.toElement)
  have hdata : data.text = (first :: more).flatMap DataElement.text := by
    simp only [data, StructuredData.text, elementsText, ← List.map_cons, List.flatMap_map,
      DataElement.text_toElement]
  exact skipStructuredData_eq_ok_iff.2 ⟨⟨data, body⟩, by rw [Ending.text, hdata], rfl⟩

/-- Structured data that is written by the rules is left out exactly: one element or more leave
nothing, and with a space and a body behind them they leave the body, whatever the values and the
body hold. -/
theorem written_data_skipped (first : DataElement) (more : List DataElement) (body : List Char) :
    skipStructuredData ((first :: more).flatMap DataElement.text) = .ok [] ∧
      skipStructuredData ((first :: more).flatMap DataElement.text ++ ' ' :: body) = .ok body := by
  have hnone := skipStructuredData_written first more none
  rw [bodyText, List.append_nil] at hnone
  exact ⟨hnone, skipStructuredData_written first more (some body)⟩

end SyslogCollector.Syslog.Rfc5424
