import IndustrialGateway.Lib.OrderedDict
import Mathlib.Tactic.Common

/-!
# Comma-separated values

Python's `csv` module in its default dialect, with a newline after each row: the
writer, the reader as the state machine that it is, and the reader of rows as
dictionaries. What the writer wrote the reader reads back.
-/

namespace Csv

-- ---------------------------------------------------------------------------
-- The writer
-- ---------------------------------------------------------------------------

def isNewline (c : Char) : Bool := c = '\n' || c = '\r'

def isSpecial (c : Char) : Bool := c = ',' || c = '"' || isNewline c

def escape (cs : List Char) : List Char := cs.flatMap fun c => if c = '"' then ['"', '"'] else [c]

def quoted (cs : List Char) : List Char := '"' :: escape cs ++ ['"']

/-- A field is quoted when it holds a special character. -/
def writeField (s : String) : List Char :=
  if s.toList.any isSpecial then quoted s.toList else s.toList

def writeFields : List String → List Char
  | [] => []
  | [s] => writeField s
  | s :: rest => writeField s ++ ',' :: writeFields rest

/-- `writer.writerow`; a row that would be empty is quoted. -/
def writeRow (fields : List String) : List Char :=
  (if fields = [""] then quoted [] else writeFields fields) ++ ['\n']

def write (rows : List (List String)) : String := String.ofList (rows.flatMap writeRow)

-- ---------------------------------------------------------------------------
-- The reader
-- ---------------------------------------------------------------------------

inductive State where
  | startRecord
  | startField
  | inField
  | inQuotedField
  | quoteInQuotedField
  | eatCrnl
  deriving DecidableEq

structure Parser where
  state : State
  field : List Char
  fields : List String
  deriving DecidableEq

def Parser.start : Parser := ⟨.startRecord, [], []⟩

def Parser.add (p : Parser) (c : Char) (state : State) : Parser :=
  { p with state, field := p.field ++ [c] }

def Parser.save (p : Parser) (state : State) : Parser :=
  ⟨state, [], p.fields ++ [String.ofList p.field]⟩

def newlineError : String :=
  "new-line character seen in unquoted field - do you need to open the file with newline=''?"

/-- The first character of a field, `none` at the end of the line. -/
def Parser.beginField (p : Parser) : Option Char → Parser
  | none => p.save .startRecord
  | some c =>
    if isNewline c then p.save .eatCrnl
    else if c = '"' then { p with state := .inQuotedField }
    else if c = ',' then p.save .startField
    else p.add c .inField

/-- One character of a line, or `none` at the end of the line. -/
def Parser.step (p : Parser) (c : Option Char) : Except String Parser :=
  match p.state with
  | .startRecord =>
    match c with
    | none => .ok p
    | some c => .ok (if isNewline c then { p with state := .eatCrnl } else p.beginField (some c))
  | .startField => .ok (p.beginField c)
  | .inField =>
    match c with
    | none => .ok (p.save .startRecord)
    | some c =>
      .ok (if isNewline c then p.save .eatCrnl
        else if c = ',' then p.save .startField
        else p.add c .inField)
  | .inQuotedField =>
    match c with
    | none => .ok p
    | some c =>
      .ok (if c = '"' then { p with state := .quoteInQuotedField } else p.add c .inQuotedField)
  | .quoteInQuotedField =>
    match c with
    | none => .ok (p.save .startRecord)
    | some c =>
      .ok (if c = '"' then p.add c .inQuotedField
        else if c = ',' then p.save .startField
        else if isNewline c then p.save .eatCrnl
        else p.add c .inField)
  | .eatCrnl =>
    match c with
    | none => .ok { p with state := .startRecord }
    | some c => if isNewline c then .ok p else .error newlineError

/-- The rows that come out before an error, and the error. -/
abbrev Rows (α : Type) := List α × Option String

def Rows.cons (row : α) (rows : Rows α) : Rows α := (row :: rows.1, rows.2)

/-- At the end of a line a finished row comes out. -/
def endLine (p : Parser) (next : Parser → Rows (List String)) : Rows (List String) :=
  match p.step none with
  | .error e => ([], some e)
  | .ok p => if p.state = .startRecord then (next .start).cons p.fields else next p

/-- The text is out: an open quoted field is a row's last. -/
def endText (p : Parser) : Rows (List String) :=
  if p.field ≠ [] ∨ p.state = .inQuotedField then ([(p.save .startRecord).fields], none) else ([], none)

/-- The lines of the text go in with their newlines. `inLine` is whether the
last line has begun. -/
def run (p : Parser) (inLine : Bool) : List Char → Rows (List String)
  | [] => if inLine then endLine p endText else endText p
  | c :: cs =>
    match p.step (some c) with
    | .error e => ([], some e)
    | .ok p => if c = '\n' then endLine p fun p => run p false cs else run p true cs

/-- `csv.reader(io.StringIO(text))`. -/
def read (text : String) : Rows (List String) := run .start false text.toList

-- ---------------------------------------------------------------------------
-- Rows as dictionaries
-- ---------------------------------------------------------------------------

/-- `None` stands where a row is too short. -/
abbrev Row := OrderedDict String (Option String)

/-- `row.get(key) or ""`. -/
def Row.text (row : Row) (key : String) : String := (row.get? key).join.getD ""

def toRow (fieldnames fields : List String) : Row :=
  (OrderedDict.ofList (fieldnames.zip (fields.map some))).update
    ((fieldnames.drop fields.length).map fun key => (key, none))

/-- The header, `None` without a first row, and the rows of `csv.DictReader`.
Empty rows are skipped. -/
structure DictReader where
  fieldnames : Except String (Option (List String))
  rows : List Row
  error : Option String

def dictReader (text : String) : DictReader :=
  match read text with
  | ([], none) => ⟨.ok none, [], none⟩
  | ([], some e) => ⟨.error e, [], none⟩
  | (header :: rows, error) =>
    ⟨.ok (some header), (rows.filter fun row => !row.isEmpty).map (toRow header), error⟩

/-- `csv.DictWriter`: the header and a row for each dictionary. -/
def dictWriter (fieldnames : List String) (rows : List (String → String)) : String :=
  write (fieldnames :: rows.map fun row => fieldnames.map row)

-- ---------------------------------------------------------------------------
-- Reading back
-- ---------------------------------------------------------------------------

/-- A plain character in a field. -/
theorem run_inField {c : Char} (h : isSpecial c = false) (field : List Char) (fields : List String)
    (cs : List Char) : run ⟨.inField, field, fields⟩ true (c :: cs) =
      run ⟨.inField, field ++ [c], fields⟩ true cs := by
  simp only [isSpecial, isNewline, Bool.or_eq_false_iff, decide_eq_false_iff_not] at h
  obtain ⟨⟨hcomma, hquote⟩, hn, hr⟩ := h
  simp [run, Parser.step, isNewline, hcomma, hn, hr, Parser.add]

theorem run_inField_append {l : List Char} (h : ∀ c ∈ l, isSpecial c = false) (field : List Char)
    (fields : List String) (cs : List Char) : run ⟨.inField, field, fields⟩ true (l ++ cs) =
      run ⟨.inField, field ++ l, fields⟩ true cs := by
  induction l generalizing field with
  | nil => simp
  | cons c l ih =>
    rw [List.cons_append, run_inField (h c (by simp)), ih fun d hd => h d (by simp [hd]),
      List.append_assoc]
    rfl

/-- The inside of a quoted field, newlines and all. -/
theorem run_inQuotedField (l field : List Char) (fields : List String) (inLine : Bool)
    (cs : List Char) : run ⟨.inQuotedField, field, fields⟩ inLine (escape l ++ '"' :: cs) =
      run ⟨.quoteInQuotedField, field ++ l, fields⟩ true cs := by
  induction l generalizing field inLine with
  | nil => simp [escape, run, Parser.step]
  | cons c l ih =>
    rw [escape, List.flatMap_cons, List.append_assoc, ← escape]
    by_cases hc : c = '"'
    · subst hc
      simp [run, Parser.step, Parser.add, ih]
    · by_cases hn : c = '\n'
      · subst hn
        simp [run, Parser.step, Parser.add, endLine, ih]
      · simp [run, Parser.step, Parser.add, hc, hn, ih]

/-- A delimiter or the newline of the row ends the field. -/
theorem run_endField {state : State} (field : List Char) (fields : List String) (inLine : Bool)
    (h : state = .inField ∨ state = .quoteInQuotedField ∨ state = .startField) {c : Char}
    (hc : c = ',' ∨ c = '\n') (cs : List Char) : run ⟨state, field, fields⟩ inLine (c :: cs) =
      if c = ',' then run ⟨.startField, [], fields ++ [String.ofList field]⟩ true cs
      else (run .start false cs).cons (fields ++ [String.ofList field]) := by
  rcases h with rfl | rfl | rfl <;> rcases hc with rfl | rfl <;>
    simp [run, Parser.step, Parser.beginField, Parser.save, isNewline, endLine]

/-- A written field, up to the character after it. A row does not begin with its
newline. -/
theorem run_writeField {state : State} (fields : List String) (inLine : Bool) {s : String}
    (h : state = .startField ∨ state = .startRecord) {c : Char} (hc : c = ',' ∨ c = '\n')
    (hrow : state = .startRecord → c = '\n' → writeField s ≠ []) (cs : List Char) :
    run ⟨state, [], fields⟩ inLine (writeField s ++ c :: cs) =
      if c = ',' then run ⟨.startField, [], fields ++ [s]⟩ true cs
      else (run .start false cs).cons (fields ++ [s]) := by
  have hs : String.ofList s.toList = s := String.ofList_toList
  rw [writeField] at hrow ⊢
  split at hrow
  · rename_i hany
    rw [if_pos hany, quoted, List.cons_append, List.cons_append, List.append_assoc,
      List.singleton_append]
    have hopen : run ⟨state, [], fields⟩ inLine ('"' :: (escape s.toList ++ '"' :: c :: cs)) =
        run ⟨.inQuotedField, [], fields⟩ true (escape s.toList ++ '"' :: c :: cs) := by
      rcases h with rfl | rfl <;> simp [run, Parser.step, Parser.beginField, isNewline]
    rw [hopen, run_inQuotedField, List.nil_append, run_endField _ _ _ (by simp) hc, hs]
  · rename_i hany
    rw [if_neg hany]
    have hplain : ∀ d ∈ s.toList, isSpecial d = false := by
      intro d hd
      exact eq_false_of_ne_true fun ht => hany (List.any_eq_true.mpr ⟨d, hd, ht⟩)
    cases hl : s.toList with
    | nil =>
      rw [hl] at hs hrow
      rcases h with rfl | rfl
      · rw [List.nil_append, run_endField _ _ _ (by simp) hc, hs]
      · rcases hc with rfl | rfl
        · simp [run, Parser.step, Parser.beginField, Parser.save, isNewline, hs]
        · exact absurd rfl (hrow rfl rfl)
    | cons d l =>
      rw [hl] at hplain hs
      have hd := hplain d (by simp)
      simp only [isSpecial, isNewline, Bool.or_eq_false_iff, decide_eq_false_iff_not] at hd
      obtain ⟨⟨hcomma, hquote⟩, hn, hr⟩ := hd
      have hbegin : run ⟨state, [], fields⟩ inLine (d :: (l ++ c :: cs)) =
          run ⟨.inField, [d], fields⟩ true (l ++ c :: cs) := by
        rcases h with rfl | rfl <;>
          simp [run, Parser.step, Parser.beginField, Parser.add, isNewline, hcomma, hquote, hn, hr]
      rw [List.cons_append, hbegin, run_inField_append fun e he => hplain e (by simp [he]),
        run_endField _ _ _ (by simp) hc, List.singleton_append, hs]

theorem run_writeFields {fields : List String} (hne : fields ≠ []) {state : State}
    (done : List String) (inLine : Bool) (h : state = .startField ∨ state = .startRecord)
    (hrow : state = .startRecord → writeFields fields ≠ []) (cs : List Char) :
    run ⟨state, [], done⟩ inLine (writeFields fields ++ '\n' :: cs) =
      (run .start false cs).cons (done ++ fields) := by
  induction fields generalizing state done inLine with
  | nil => exact absurd rfl hne
  | cons s rest ih =>
    cases rest with
    | nil =>
      rw [writeFields, run_writeField done inLine h (.inr rfl) fun hs _ => hrow hs]
      rfl
    | cons t rest =>
      have hw : writeFields (s :: t :: rest) = writeField s ++ ',' :: writeFields (t :: rest) := rfl
      rw [hw, List.append_assoc, List.cons_append,
        run_writeField done inLine h (.inl rfl) (fun _ hc => by cases hc), if_pos rfl,
        ih (by simp) _ _ (.inl rfl) (fun hs => by cases hs), List.append_assoc]
      rfl

theorem run_writeRow {fields : List String} (hne : fields ≠ []) (cs : List Char) :
    run .start false (writeRow fields ++ cs) = (run .start false cs).cons fields := by
  rw [writeRow, List.append_assoc, List.singleton_append]
  split
  · rename_i h
    subst h
    have hw : writeField "" = [] := rfl
    simp [quoted, escape, run, Parser.start, Parser.step, Parser.beginField, Parser.save,
      isNewline, endLine]
  · rename_i h
    refine run_writeFields hne [] false (.inr rfl) (fun _ hw => ?_) cs
    cases fields with
    | nil => exact hne rfl
    | cons s rest =>
      cases rest with
      | cons t rest => simp [writeFields] at hw
      | nil =>
        rw [writeFields, writeField] at hw
        split at hw
        · simp [quoted] at hw
        · exact h (by rw [String.toList_eq_nil_iff.mp hw])

/-- What the writer wrote, the reader reads. -/
theorem read_write {rows : List (List String)} (h : ∀ row ∈ rows, row ≠ []) :
    read (write rows) = (rows, none) := by
  rw [read, write, String.toList_ofList]
  induction rows with
  | nil => rfl
  | cons row rows ih =>
    rw [List.flatMap_cons, run_writeRow (h row (by simp)), ih fun r hr => h r (by simp [hr])]
    rfl

example : read "a,\"b,\n\"\"c\"\n\nd" = ([["a", "b,\n\"c"], [], ["d"]], none) := by decide

theorem dictReader_dictWriter {fieldnames : List String} (h : fieldnames ≠ [])
    (rows : List (String → String)) :
    dictReader (dictWriter fieldnames rows) =
      ⟨.ok (some fieldnames),
        rows.map fun row => OrderedDict.ofList (fieldnames.map fun key => (key, some (row key))),
        none⟩ := by
  have hrows : ∀ row ∈ fieldnames :: rows.map (fun row => fieldnames.map row), row ≠ [] := by
    intro row hr
    rcases List.mem_cons.mp hr with rfl | hr
    · exact h
    · obtain ⟨f, -, rfl⟩ := List.mem_map.mp hr
      simpa using h
  have hread := read_write hrows
  simp only [dictReader, dictWriter, hread, List.filter_map, List.map_map]
  have hall : rows.filter ((fun row => !row.isEmpty) ∘ fun row => fieldnames.map row) = rows := by
    rw [List.filter_eq_self]
    intro row _
    simpa using h
  rw [hall]
  congr 1
  refine List.map_congr_left fun row _ => ?_
  have hzip : fieldnames.zip ((fieldnames.map row).map some) =
      fieldnames.map fun key => (key, some (row key)) := by
    rw [List.map_map, ← List.map_prod_left_eq_zip]
    rfl
  simp only [Function.comp_apply, toRow, hzip, List.length_map, List.drop_length, List.map_nil,
    OrderedDict.update_nil]

end Csv
