import Mathlib

/-!
# Comma-separated rows

A writer that quotes a field only where it has to, and a reader that goes through the text
character by character.  Rows end with a carriage return and a line feed; a quoted field may
hold anything, with its quotation marks doubled.

* `quoteField`, `writeRow`, `writeRows` — the writer.
* `readFrom`, `readRows` — the reader.
* `readRows_writeRows` — the reader gives the rows back.
-/

namespace Csv

/-! ## Writing -/

/-- The characters that a field is quoted for. -/
def isSpecial (c : Char) : Bool := c = ',' || c = '"' || c = '\r' || c = '\n'

/-- A field with its quotation marks doubled. -/
def doubleQuotes (field : List Char) : List Char :=
  field.flatMap fun c => if c = '"' then ['"', '"'] else [c]

/-- A field, quoted only where it has to be. -/
def quoteField (field : List Char) : List Char :=
  if field.any isSpecial then '"' :: (doubleQuotes field ++ ['"']) else field

/-- The fields of a row after the first one. -/
def writeFields : List (List Char) → List Char
  | [] => ['\r', '\n']
  | field :: fields => ',' :: (quoteField field ++ writeFields fields)

/-- A row.  An empty field that is alone is quoted. -/
def writeRow : List (List Char) → List Char
  | [] => ['\r', '\n']
  | [[]] => ['"', '"', '\r', '\n']
  | field :: fields => quoteField field ++ writeFields fields

/-- Rows one after the other. -/
def writeRows (rows : List (List (List Char))) : List Char := rows.flatMap writeRow

/-! ## Reading -/

/-- Where the reader is. -/
inductive ReaderState where
  | startRow
  | startField
  | plain
  | quoted
  | closing
  | endRow
  deriving DecidableEq, Repr

/-- The reader from a state on, with the field and the fields of the row so far. -/
def readFrom : ReaderState → List Char → List (List Char) → List Char →
    Option (List (List (List Char)))
  | .startRow, _, _, [] => some []
  | _, _, _, [] => none
  | .endRow, _, row, c :: chars =>
      if c = '\n' then (readFrom .startRow [] [] chars).map (row :: ·) else none
  | .quoted, field, row, c :: chars =>
      if c = '"' then readFrom .closing field row chars
      else readFrom .quoted (field ++ [c]) row chars
  | .closing, field, row, c :: chars =>
      if c = '"' then readFrom .quoted (field ++ [c]) row chars
      else if c = ',' then readFrom .startField [] (row ++ [field]) chars
      else if c = '\r' then readFrom .endRow [] (row ++ [field]) chars
      else none
  | .plain, field, row, c :: chars =>
      if c = ',' then readFrom .startField [] (row ++ [field]) chars
      else if c = '\r' then readFrom .endRow [] (row ++ [field]) chars
      else if c = '"' ∨ c = '\n' then none
      else readFrom .plain (field ++ [c]) row chars
  | .startRow, _, row, c :: chars | .startField, _, row, c :: chars =>
      if c = '"' then readFrom .quoted [] row chars
      else if c = ',' then readFrom .startField [] (row ++ [[]]) chars
      else if c = '\r' then readFrom .endRow [] (row ++ [[]]) chars
      else if c = '\n' then none
      else readFrom .plain [c] row chars

attribute [local simp] readFrom

/-- The rows of a text. -/
def readRows (chars : List Char) : Option (List (List (List Char))) :=
  readFrom .startRow [] [] chars

/-! ## The round trip -/

/-- What follows a field. -/
def afterField (row : List (List Char)) : List Char → Option (List (List (List Char)))
  | [] => none
  | c :: chars =>
      if c = ',' then readFrom .startField [] row chars
      else if c = '\r' then readFrom .endRow [] row chars
      else none

/-- A text that ends a field. -/
def EndsField (rest : List Char) : Prop := ∃ chars, rest = ',' :: chars ∨ rest = '\r' :: chars

theorem afterField_plain {rest : List Char} (hrest : EndsField rest) (field : List Char)
    (row : List (List Char)) :
    readFrom .plain field row rest = afterField (row ++ [field]) rest := by
  obtain ⟨chars, rfl | rfl⟩ := hrest
  · simp [afterField]
  · simp [afterField]

theorem afterField_closing {rest : List Char} (hrest : EndsField rest) (field : List Char)
    (row : List (List Char)) :
    readFrom .closing field row rest = afterField (row ++ [field]) rest := by
  obtain ⟨chars, rfl | rfl⟩ := hrest
  · simp [afterField]
  · simp [afterField]

theorem readFrom_plain {chars rest : List Char} (hchars : chars.any isSpecial = false)
    (hrest : EndsField rest) (field : List Char) (row : List (List Char)) :
    readFrom .plain field row (chars ++ rest) = afterField (row ++ [field ++ chars]) rest := by
  induction chars generalizing field with
  | nil => rw [List.nil_append, List.append_nil, afterField_plain hrest]
  | cons c chars ih =>
      simp only [List.any_cons, Bool.or_eq_false_iff, isSpecial, decide_eq_false_iff_not] at hchars
      obtain ⟨⟨⟨⟨hcomma, hquote⟩, hreturn⟩, hfeed⟩, hrest'⟩ := hchars
      rw [List.cons_append, readFrom, if_neg hcomma, if_neg hreturn,
        if_neg (not_or.mpr ⟨hquote, hfeed⟩),
        ih (by simpa [isSpecial] using hrest'), List.append_assoc, List.singleton_append]

theorem readFrom_quoted (chars : List Char) {rest : List Char} (hrest : EndsField rest)
    (field : List Char) (row : List (List Char)) :
    readFrom .quoted field row (doubleQuotes chars ++ '"' :: rest) =
      afterField (row ++ [field ++ chars]) rest := by
  induction chars generalizing field with
  | nil =>
      rw [List.append_nil, ← afterField_closing hrest]
      simp [doubleQuotes]
  | cons c chars ih =>
      have hcons : doubleQuotes (c :: chars) =
          (if c = '"' then ['"', '"'] else [c]) ++ doubleQuotes chars := rfl
      rw [hcons]
      by_cases hquote : c = '"'
      · subst hquote
        rw [if_pos rfl]
        simp only [List.cons_append, List.nil_append, readFrom, if_pos]
        rw [ih, List.append_assoc, List.singleton_append]
      · rw [if_neg hquote]
        simp only [List.cons_append, List.nil_append, readFrom, if_neg hquote]
        rw [ih, List.append_assoc, List.singleton_append]

/-- A field is read back where a field starts. -/
theorem readFrom_quoteField {state : ReaderState} (hstate : state = .startRow ∨ state = .startField)
    (field : List Char) {rest : List Char} (hrest : EndsField rest) (row : List (List Char)) :
    readFrom state [] row (quoteField field ++ rest) = afterField (row ++ [field]) rest := by
  unfold quoteField
  split
  · have hquoted := readFrom_quoted field hrest [] row
    rw [List.nil_append] at hquoted
    rcases hstate with rfl | rfl
    · simpa using hquoted
    · simpa using hquoted
  · rename_i hspecial
    have hplain : field.any isSpecial = false := by simpa using hspecial
    cases field with
    | nil =>
        obtain ⟨chars, rfl | rfl⟩ := hrest
        · rcases hstate with rfl | rfl
          · simp [afterField]
          · simp [afterField]
        · rcases hstate with rfl | rfl
          · simp [afterField]
          · simp [afterField]
    | cons c chars =>
        simp only [List.any_cons, Bool.or_eq_false_iff, isSpecial, decide_eq_false_iff_not]
          at hplain
        obtain ⟨⟨⟨⟨hcomma, hquote⟩, hreturn⟩, hfeed⟩, hchars⟩ := hplain
        have hrest' := readFrom_plain (by simpa [isSpecial] using hchars) hrest [c] row
        rcases hstate with rfl | rfl
        · simpa [hcomma, hquote, hreturn, hfeed] using hrest'
        · simpa [hcomma, hquote, hreturn, hfeed] using hrest'

theorem endsField_writeFields (fields : List (List Char)) (rest : List Char) :
    EndsField (writeFields fields ++ rest) := by
  cases fields with
  | nil => exact ⟨_, .inr rfl⟩
  | cons field fields => exact ⟨_, .inl rfl⟩

theorem afterField_writeFields (fields row : List (List Char)) (rest : List Char) :
    afterField row (writeFields fields ++ rest) =
      (readRows rest).map ((row ++ fields) :: ·) := by
  induction fields generalizing row with
  | nil => simp [writeFields, afterField, readRows]
  | cons field fields ih =>
      show readFrom .startField [] row ((quoteField field ++ writeFields fields) ++ rest) = _
      rw [List.append_assoc, readFrom_quoteField (.inr rfl) field (endsField_writeFields fields rest),
        ih, List.append_assoc, List.singleton_append]

/-- A row is read back. -/
theorem readRows_writeRow {row : List (List Char)} (hrow : row ≠ []) (rest : List Char) :
    readRows (writeRow row ++ rest) = (readRows rest).map (row :: ·) := by
  have hgeneral : ∀ field fields, readRows (quoteField field ++ writeFields fields ++ rest) =
      (readRows rest).map ((field :: fields) :: ·) := by
    intro field fields
    rw [readRows, List.append_assoc,
      readFrom_quoteField (.inl rfl) field (endsField_writeFields fields rest),
      afterField_writeFields, List.nil_append, List.singleton_append]
  match row, hrow with
  | [[]], _ => simp [writeRow, readRows]
  | [] :: field :: fields, _ => exact hgeneral [] (field :: fields)
  | (c :: field) :: fields, _ => exact hgeneral (c :: field) fields

/-- Rows are read back. -/
theorem readRows_writeRows {rows : List (List (List Char))} (hrows : ∀ row ∈ rows, row ≠ []) :
    readRows (writeRows rows) = some rows := by
  induction rows with
  | nil => rfl
  | cons row rows ih =>
      have hrest := ih fun other hother => hrows other (List.mem_cons_of_mem _ hother)
      rw [writeRows, List.flatMap_cons, readRows_writeRow (hrows row List.mem_cons_self)]
      rw [show rows.flatMap writeRow = writeRows rows from rfl, hrest]
      rfl

end Csv
