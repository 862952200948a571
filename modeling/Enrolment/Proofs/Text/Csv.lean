import Enrolment.Text.Csv
import Mathlib.Tactic.SplitIfs

set_option autoImplicit false

namespace Enrolment.Csv

inductive Place
  -- Before a record, or at the end of the text.
  | recordStart
  | fieldStart
  -- In a field without quotes.
  | bare
  | quoted
  -- Behind a quote in a quoted field, which is doubled here or has closed the field.
  | behindQuote
  -- Behind the carriage return that ends a record.
  | behindReturn
  deriving DecidableEq

structure Reading where
  place : Place := .recordStart
  field : List Char := []
  fields : List (List Char) := []
  records : List (List (List Char)) := []

namespace Reading

def add (reading : Reading) (place : Place) (char : Char) : Reading :=
  { reading with place, field := reading.field ++ [char] }

def endField (reading : Reading) : Reading :=
  { reading with place := .fieldStart, field := [], fields := reading.fields ++ [reading.field] }

def endRecord (reading : Reading) : Reading where
  records := reading.records ++ [reading.fields ++ [reading.field]]

def stepOutside (reading : Reading) (text : Option Reading) (char : Char) : Option Reading :=
  if char = ',' then some reading.endField
  else if char = '\r' then some { reading with place := .behindReturn }
  else text

def bareText (reading : Reading) (char : Char) : Option Reading :=
  if isSpecial char then none else some (reading.add .bare char)

def step (reading : Reading) (char : Char) : Option Reading :=
  match reading.place with
  | .recordStart | .fieldStart =>
    if char = '"' then some { reading with place := .quoted }
    else reading.stepOutside (reading.bareText char) char
  | .bare => reading.stepOutside (reading.bareText char) char
  | .quoted =>
    if char = '"' then some { reading with place := .behindQuote }
    else some (reading.add .quoted char)
  | .behindQuote =>
    if char = '"' then some (reading.add .quoted char) else reading.stepOutside none char
  | .behindReturn => if char = '\n' then some reading.endRecord else none

def run (reading : Reading) (chars : List Char) : Option Reading := chars.foldlM step reading

def finish (reading : Reading) : Option (List (List (List Char))) :=
  match reading.place with
  | .recordStart => some reading.records
  | .fieldStart | .bare | .behindQuote => some reading.endRecord.records
  | .quoted | .behindReturn => none

end Reading

def parse? (text : String) : Option (List (List (List Char))) :=
  (Reading.run {} text.toList).bind Reading.finish

example : parse? "a,\"b\"\"\r\n\"\r\n,c d" =
    some [[['a'], ['b', '"', '\r', '\n']], [[], "c d".toList]] := by
  decide

example : parse? "a\"b" = none ∧ parse? "\"a\"b" = none ∧ parse? "a\nb" = none := by decide

namespace Place

def takesText : Place → Bool
  | recordStart | fieldStart | bare => true
  | quoted | behindQuote | behindReturn => false

def endsField : Place → Bool
  | recordStart | fieldStart | bare | behindQuote => true
  | quoted | behindReturn => false

theorem endsField_of_takesText {place : Place} (takes : place.takesText = true) :
    place.endsField = true := by
  cases place with
  | recordStart | fieldStart | bare => rfl
  | quoted | behindQuote | behindReturn => cases takes

end Place

namespace Reading

variable (reading : Reading)

theorem run_append (front rest : List Char) :
    reading.run (front ++ rest) = (reading.run front).bind fun later => later.run rest :=
  List.foldlM_append

theorem run_cons (char : Char) (rest : List Char) :
    reading.run (char :: rest) = (reading.step char).bind fun later => later.run rest :=
  List.foldlM_cons

structure Starts : Prop where
  place : reading.place = .recordStart ∨ reading.place = .fieldStart
  field : reading.field = []

theorem starts_endField : reading.endField.Starts := ⟨.inr rfl, rfl⟩

variable {reading}

theorem step_comma (ends : reading.place.endsField = true) :
    reading.step ',' = some reading.endField := by
  obtain ⟨place, field, fields, records⟩ := reading
  cases place with
  | recordStart | fieldStart | bare | behindQuote => rfl
  | quoted | behindReturn => cases ends

theorem run_lineBreak (ends : reading.place.endsField = true) (rest : List Char) :
    reading.run ('\r' :: '\n' :: rest) = reading.endRecord.run rest := by
  obtain ⟨place, field, fields, records⟩ := reading
  cases place with
  | recordStart | fieldStart | bare | behindQuote => rfl
  | quoted | behindReturn => cases ends

theorem step_text {char : Char} (takes : reading.place.takesText = true)
    (plain : isSpecial char = false) : reading.step char = some (reading.add .bare char) := by
  have apart := plain
  simp only [isSpecial, Bool.or_eq_false_iff, decide_eq_false_iff_not] at apart
  obtain ⟨place, field, fields, records⟩ := reading
  cases place with
  | recordStart | fieldStart | bare => simp [step, stepOutside, bareText, plain, apart]
  | quoted | behindQuote | behindReturn => cases takes

theorem run_text (reading : Reading) {chars : List Char} (plain : ∀ char ∈ chars, isSpecial char = false)
    (takes : reading.place.takesText = true) :
    ∃ place, place.takesText = true ∧
      reading.run chars = some { reading with place, field := reading.field ++ chars } := by
  induction chars generalizing reading with
  | nil => exact ⟨reading.place, takes, by simp [run]⟩
  | cons char more ih =>
    obtain ⟨place, takesStill, later⟩ := ih (reading.add .bare char)
      (fun other member => plain other (List.mem_cons_of_mem _ member)) rfl
    refine ⟨place, takesStill, ?_⟩
    rw [run_cons, step_text takes (plain char List.mem_cons_self), Option.bind_some, later]
    simp [add]

theorem run_doubled (reading : Reading) (quoted : reading.place = .quoted) (chars : List Char) :
    reading.run (doubleQuotes chars) = some { reading with field := reading.field ++ chars } := by
  induction chars generalizing reading with
  | nil => simp [doubleQuotes, run]
  | cons char more ih =>
    have later := ih (reading.add .quoted char) rfl
    have taken : reading.run (if char = '"' then ['"', '"'] else [char]) =
        some (reading.add .quoted char) := by
      split
      next same =>
        subst same
        simp [run, step, quoted, add]
      next other => simp [run, step, quoted, other]
    rw [doubleQuotes, List.flatMap_cons, run_append, taken, Option.bind_some, ← doubleQuotes, later]
    simp [add, quoted]

theorem run_field (starts : reading.Starts) (chars : List Char) :
    ∃ place, place.endsField = true ∧
      reading.run (Csv.field chars) = some { reading with place, field := chars } := by
  have takes : reading.place.takesText = true := by
    rcases starts.place with place | place <;> rw [place] <;> rfl
  unfold Csv.field
  split
  next special =>
    have opened : reading.step '"' = some { reading with place := .quoted } := by
      rcases starts.place with place | place <;> simp [step, place]
    refine ⟨.behindQuote, rfl, ?_⟩
    rw [List.cons_append, run_cons, opened, Option.bind_some, run_append, run_doubled _ rfl]
    simp [run, step, starts.field]
  next plain =>
    obtain ⟨place, takesStill, read⟩ := run_text reading (by simpa using plain) takes
    refine ⟨place, Place.endsField_of_takesText takesStill, ?_⟩
    rw [read, starts.field, List.nil_append]

theorem run_fields (reading : Reading) (starts : reading.Starts) (first : List Char)
    (more : List (List Char)) (rest : List Char) :
    reading.run (List.intercalate [','] ((first :: more).map Csv.field) ++ '\r' :: '\n' :: rest) =
      Reading.run { records := reading.records ++ [reading.fields ++ first :: more] } rest := by
  induction more generalizing reading first with
  | nil =>
    obtain ⟨place, ends, read⟩ := run_field starts first
    rw [List.map_singleton, List.intercalate_singleton, run_append, read, Option.bind_some,
      run_lineBreak ends]
    rfl
  | cons second more ih =>
    -- The comma ends the first field wherever it has led to, and the rest begins like a record.
    obtain ⟨place, ends, read⟩ := run_field starts first
    have later := ih { reading with place, field := first }.endField (starts_endField _) second
    rw [List.map_cons, List.map_cons, List.intercalate_cons_cons, List.append_assoc,
      List.append_assoc, run_append, read, Option.bind_some, List.singleton_append, run_cons,
      step_comma ends, Option.bind_some, ← List.map_cons, later]
    simp [endField]

theorem run_records (written : List (List (List Char))) (filled : ∀ record ∈ written, record ≠ [])
    (read : List (List (List Char))) :
    Reading.run { records := read } (written.flatMap record) =
      some { records := read ++ written } := by
  induction written generalizing read with
  | nil => simp [run]
  | cons fields more ih =>
    obtain ⟨first, others, rfl⟩ := List.exists_cons_of_ne_nil (filled fields List.mem_cons_self)
    have later := ih (fun other member => filled other (List.mem_cons_of_mem _ member))
      (read ++ [first :: others])
    rw [List.flatMap_cons, record, List.append_assoc, List.cons_append, List.singleton_append,
      run_fields _ ⟨.inl rfl, rfl⟩]
    simpa using later

end Reading

theorem parse?_document (records : List (List (List Char)))
    (filled : ∀ record ∈ records, record ≠ []) : parse? (document records) = some records := by
  have read := Reading.run_records records filled []
  rw [parse?, document, String.toList_ofList, read]
  rfl

end Enrolment.Csv
