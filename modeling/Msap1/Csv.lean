import Mathlib.Data.List.Basic
import Mathlib.Tactic

/-! Records of fields as RFC 4180 reads them: fields apart by commas, records ended by CR LF, a
field in quotes where it holds a comma, a quote or a line end, and a quote in it doubled. Every
other byte stands for itself. -/

namespace Msap1.Csv

abbrev Bytes := List UInt8

def comma : UInt8 := 0x2c
def quote : UInt8 := 0x22
def carriageReturn : UInt8 := 0x0d
def lineFeed : UInt8 := 0x0a

/-- A byte that a field without quotes cannot hold. -/
def Special (byte : UInt8) : Prop :=
  byte = comma ∨ byte = quote ∨ byte = carriageReturn ∨ byte = lineFeed

instance (byte : UInt8) : Decidable (Special byte) := by
  unfold Special
  infer_instance

/-- Where in a field the reader stands: before it, in a bare or a quoted one, behind a quote in
a quoted one, or behind the CR that follows a field. -/
inductive Mode where
  | start
  | bare
  | quoted
  | closed
  | ending
  deriving DecidableEq, Repr

structure Reader where
  mode : Mode := .start
  field : Bytes := []
  record : List Bytes := []
  records : List (List Bytes) := []
  deriving DecidableEq, Repr

namespace Reader

def endField (reader : Reader) : Reader :=
  { reader with mode := .start, field := [], record := reader.record ++ [reader.field] }

def endRecord (reader : Reader) : Reader :=
  { records := reader.records ++ [reader.record ++ [reader.field]] }

def accept (reader : Reader) (mode : Mode) (byte : UInt8) : Reader :=
  { reader with mode, field := reader.field ++ [byte] }

/-- What may follow a complete field. -/
def separate (reader : Reader) (byte : UInt8) : Option Reader :=
  if byte = comma then some reader.endField
  else if byte = carriageReturn then some { reader with mode := .ending }
  else none

def step (reader : Reader) (byte : UInt8) : Option Reader :=
  match reader.mode with
  | .start =>
      if byte = quote then some { reader with mode := .quoted }
      else if Special byte then reader.separate byte
      else some (reader.accept .bare byte)
  | .bare => if Special byte then reader.separate byte else some (reader.accept .bare byte)
  | .quoted =>
      if byte = quote then some { reader with mode := .closed }
      else some (reader.accept .quoted byte)
  | .closed =>
      if byte = quote then some (reader.accept .quoted byte) else reader.separate byte
  | .ending => if byte = lineFeed then some reader.endRecord else none

def run (reader : Reader) (bytes : Bytes) : Option Reader := bytes.foldlM step reader

/-- The last record may lack its line end. -/
def finish (reader : Reader) : Option (List (List Bytes)) :=
  match reader.mode with
  | .start =>
      if reader.record = [] then some reader.records else some reader.endRecord.records
  | .bare | .closed => some reader.endRecord.records
  | .quoted | .ending => none

end Reader

def parse (bytes : Bytes) : Option (List (List Bytes)) := (Reader.run {} bytes).bind Reader.finish

/-- A text that the reader takes for the field `value`, wherever it stands. -/
def Denotes (text value : Bytes) : Prop :=
  ∀ record records, ∃ mode, (mode = .start ∨ mode = .bare ∨ mode = .closed) ∧
    Reader.run { record, records } text = some { mode, field := value, record, records }

def separated : List Bytes → Bytes
  | [] => []
  | [text] => text
  | text :: texts => text ++ comma :: separated texts

def line (texts : List Bytes) : Bytes := separated texts ++ [carriageReturn, lineFeed]

namespace Reader

theorem run_cons (reader : Reader) (byte : UInt8) (bytes : Bytes) :
    run reader (byte :: bytes) = (reader.step byte).bind fun after => run after bytes :=
  List.foldlM_cons

theorem run_append {reader after : Reader} {bytes : Bytes} (more : Bytes)
    (reached : run reader bytes = some after) : run reader (bytes ++ more) = run after more := by
  unfold run at reached ⊢
  rw [List.foldlM_append, reached]
  rfl

theorem run_bare {bytes : Bytes} (plain : ∀ byte ∈ bytes, ¬Special byte) (reader : Reader)
    (mode : reader.mode = .bare) :
    run reader bytes = some { reader with field := reader.field ++ bytes } := by
  induction bytes generalizing reader with
  | nil => simp [run]
  | cons byte bytes ih =>
      have accepted : reader.step byte = some (reader.accept .bare byte) := by
        simp [step, mode, plain byte List.mem_cons_self]
      rw [run_cons, accepted, Option.bind_some,
        ih (fun other member => plain other (List.mem_cons_of_mem _ member)) _ rfl]
      simp [accept, mode]

theorem separate_comma {reader : Reader} (mode : reader.mode = .start ∨ reader.mode = .bare ∨
    reader.mode = .closed) : reader.step comma = some reader.endField := by
  have special : Special comma := Or.inl rfl
  have other : comma ≠ quote := by decide
  rcases mode with mode | mode | mode <;> simp [step, mode, separate, special, other]

theorem separate_line {reader : Reader} (mode : reader.mode = .start ∨ reader.mode = .bare ∨
    reader.mode = .closed) :
    run reader [carriageReturn, lineFeed] = some reader.endRecord := by
  have special : Special carriageReturn := Or.inr (Or.inr (Or.inl rfl))
  have other : carriageReturn ≠ quote := by decide
  have apart : carriageReturn ≠ comma := by decide
  have ended : reader.step carriageReturn = some { reader with mode := .ending } := by
    rcases mode with mode | mode | mode <;> simp [step, mode, separate, special, other, apart]
  rw [run_cons, ended]
  rfl

end Reader

open Reader

theorem denotes_bare {text : Bytes} (plain : ∀ byte ∈ text, ¬Special byte) :
    Denotes text text := by
  intro record records
  cases text with
  | nil => exact ⟨.start, Or.inl rfl, rfl⟩
  | cons byte bytes =>
      have ordinary := plain byte List.mem_cons_self
      have other : byte ≠ quote := fun same => ordinary (Or.inr (Or.inl same))
      refine ⟨.bare, Or.inr (Or.inl rfl), ?_⟩
      rw [run_cons]
      simp only [step, other, ordinary, if_false, Option.bind_some]
      exact run_bare (fun other member => plain other (List.mem_cons_of_mem _ member)) _ rfl

/-- The doubling of quotes inside a quoted field. -/
def doubled (value : Bytes) : Bytes :=
  value.flatMap fun byte => if byte = quote then [quote, quote] else [byte]

theorem run_doubled (value : Bytes) (reader : Reader) (mode : reader.mode = .quoted) :
    run reader (doubled value) = some { reader with field := reader.field ++ value } := by
  induction value generalizing reader with
  | nil => simp [run, doubled]
  | cons byte value ih =>
      have read : run reader (if byte = quote then [quote, quote] else [byte]) =
          some (reader.accept .quoted byte) := by
        split
        · next same =>
            rw [same, run_cons]
            simp [step, mode, run, accept]
        · next other => simp [run, step, mode, other]
      rw [doubled, List.flatMap_cons, run_append _ read]
      exact (ih _ rfl).trans (by simp [accept, mode])

theorem denotes_quoted (value : Bytes) : Denotes (quote :: (doubled value ++ [quote])) value := by
  intro record records
  refine ⟨.closed, Or.inr (Or.inr rfl), ?_⟩
  have opened : Reader.step { record, records } quote =
      some { mode := .quoted, record, records } := rfl
  rw [run_cons, opened, Option.bind_some, run_append _ (run_doubled value _ rfl)]
  rfl

theorem run_separated {texts values : List Bytes} (denoted : List.Forall₂ Denotes texts values)
    (some_texts : texts ≠ []) (record : List Bytes) (records : List (List Bytes)) :
    run { record, records } (line texts) =
      some { records := records ++ [record ++ values] } := by
  induction denoted generalizing record with
  | nil => exact absurd rfl some_texts
  | @cons text value texts values first rest ih =>
      obtain ⟨mode, complete, read⟩ := first record records
      cases rest with
      | nil =>
          rw [line, separated, run_append _ read]
          exact separate_line complete
      | cons second rest =>
          rw [line, separated, List.append_assoc, run_append _ read, List.cons_append, run_cons,
            separate_comma complete, Option.bind_some]
          · refine (ih (List.cons_ne_nil _ _) (record ++ [value])).trans ?_
            rw [List.append_assoc, List.singleton_append]
          · exact List.cons_ne_nil _ _

theorem run_lines {texts values : List (List Bytes)}
    (denoted : List.Forall₂ (List.Forall₂ Denotes) texts values)
    (some_texts : ∀ record ∈ texts, record ≠ []) (records : List (List Bytes)) :
    run { records } (texts.flatMap line) = some { records := records ++ values } := by
  induction denoted generalizing records with
  | nil => simp [run]
  | cons first rest ih =>
      rw [List.flatMap_cons,
        run_append _ (run_separated first (some_texts _ List.mem_cons_self) [] records),
        ih (fun other member => some_texts other (List.mem_cons_of_mem _ member)),
        List.append_assoc, List.nil_append]
      rfl

/-- The lines of the texts are read as the records of the fields that they stand for. -/
theorem parse_lines {texts values : List (List Bytes)}
    (denoted : List.Forall₂ (List.Forall₂ Denotes) texts values)
    (some_texts : ∀ record ∈ texts, record ≠ []) :
    parse (texts.flatMap line) = some values := by
  rw [parse, run_lines denoted some_texts]
  rfl

end Msap1.Csv
