import Mathlib.Data.List.Basic
import Mathlib.Tactic

/-! Little-endian fields written one after another and read back from the front of a byte
string, with the rules for whole formats: what a reader undoes, what the values it yields
satisfy, and that bytes it does not reach do not matter to it. -/

namespace Msap1.ByteCodec

abbrev Bytes := List UInt8

/-- A reader takes a value off the front of the bytes, or fails. -/
abbrev Reader := StateT Bytes Option

variable {α β : Type}

def toLittle : Nat → Nat → Bytes
  | 0, _ => []
  | width + 1, value => UInt8.ofNat (value % 256) :: toLittle width (value / 256)

def ofLittle : Bytes → Nat
  | [] => 0
  | byte :: bytes => byte.toNat + 256 * ofLittle bytes

@[simp] theorem length_toLittle (width value : Nat) : (toLittle width value).length = width := by
  induction width generalizing value with
  | zero => rfl
  | succ width ih => simp [toLittle, ih]

theorem ofLittle_toLittle (width value : Nat) (bound : value < 256 ^ width) :
    ofLittle (toLittle width value) = value := by
  induction width generalizing value with
  | zero =>
      simp only [pow_zero, Nat.lt_one_iff] at bound
      rw [bound]
      rfl
  | succ width ih =>
      have smaller : value / 256 < 256 ^ width := by
        rw [Nat.div_lt_iff_lt_mul (by decide)]
        rwa [pow_succ] at bound
      have low : (UInt8.ofNat (value % 256)).toNat = value % 256 := by
        simp
      rw [toLittle, ofLittle, ih _ smaller, low]
      exact Nat.mod_add_div value 256

theorem ofLittle_lt (bytes : Bytes) : ofLittle bytes < 256 ^ bytes.length := by
  induction bytes with
  | nil => simp [ofLittle]
  | cons byte bytes ih =>
      have small := byte.toNat_lt
      rw [ofLittle, List.length_cons, pow_succ]
      omega

def take (size : Nat) : Reader Bytes := fun input =>
  if size ≤ input.length then some (input.take size, input.drop size) else none

def require (condition : Bool) : Reader Unit := fun input =>
  if condition then some ((), input) else none

def many (reader : Reader α) : Nat → Reader (List α)
  | 0 => pure []
  | count + 1 => do
      let first ← reader
      let rest ← many reader count
      pure (first :: rest)

def little (width : Nat) : Reader Nat := do
  let bytes ← take width
  pure (ofLittle bytes)

/-- A field that is there when a flag says so. -/
def optional (present : Bool) (reader : Reader α) : Reader (Option α) :=
  if present then do
    let value ← reader
    pure (some value)
  else pure none

def writeOptional (write : α → Bytes) (value : Option α) : Bytes := value.elim [] write

def u8 : Reader UInt8 := do
  let value ← little 1
  pure (UInt8.ofNat value)

def u16 : Reader UInt16 := do
  let value ← little 2
  pure (UInt16.ofNat value)

def u32 : Reader UInt32 := do
  let value ← little 4
  pure (UInt32.ofNat value)

def u64 : Reader UInt64 := do
  let value ← little 8
  pure (UInt64.ofNat value)

def i64 : Reader Int64 := do
  let value ← u64
  pure value.toInt64

def writeU8 (value : UInt8) : Bytes := toLittle 1 value.toNat
def writeU16 (value : UInt16) : Bytes := toLittle 2 value.toNat
def writeU32 (value : UInt32) : Bytes := toLittle 4 value.toNat
def writeU64 (value : UInt64) : Bytes := toLittle 8 value.toNat
def writeI64 (value : Int64) : Bytes := writeU64 value.toUInt64

/-- The reader undoes the bytes, whatever follows them. -/
def Reads (reader : Reader α) (bytes : Bytes) (value : α) : Prop :=
  ∀ rest, reader.run (bytes ++ rest) = some (value, rest)

section Reads

variable {reader : Reader α} {next : α → Reader β} {bytes : Bytes} {fields : List Bytes}
  {value : α} {result : β}

theorem reads_pure : Reads (pure value) [] value := fun _ => rfl

theorem reads_bind {more : Bytes} (first : Reads reader bytes value)
    (second : Reads (next value) more result) : Reads (reader >>= next) (bytes ++ more) result := by
  intro rest
  rw [StateT.run_bind, List.append_assoc, first (more ++ rest)]
  exact second rest

theorem reads_next (first : Reads reader bytes value)
    (second : Reads (next value) fields.flatten result) :
    Reads (reader >>= next) (bytes :: fields).flatten result :=
  reads_bind first second

theorem reads_last (first : Reads reader bytes value) : Reads reader [bytes].flatten value := by
  rw [List.flatten_cons, List.flatten_nil, List.append_nil]
  exact first

theorem reads_map (first : Reads reader bytes value) (same : next value = pure result) :
    Reads (reader >>= next) bytes result := by
  intro rest
  rw [StateT.run_bind, first rest]
  simp [same]

theorem reads_require {condition : Bool} {next : Unit → Reader β}
    (holds : condition = true) (second : Reads (next ()) bytes result) :
    Reads (require condition >>= next) bytes result := by
  intro rest
  rw [StateT.run_bind]
  simp only [require, StateT.run, holds, if_true]
  exact second rest

theorem reads_many {write : α → Bytes} {values : List α}
    (each : ∀ value ∈ values, Reads reader (write value) value) :
    Reads (many reader values.length) (values.map write).flatten values := by
  induction values with
  | nil => exact reads_pure
  | cons value values ih =>
      have tail := ih fun other member => each other (List.mem_cons_of_mem value member)
      exact reads_next (each value List.mem_cons_self) (reads_map tail rfl)

theorem reads_optional {present : Bool} {write : α → Bytes} {field : Option α}
    (same : present = field.isSome) (each : ∀ value ∈ field, Reads reader (write value) value) :
    Reads (optional present reader) (writeOptional write field) field := by
  cases field with
  | none =>
      rw [same]
      exact reads_pure
  | some value =>
      rw [same]
      exact reads_map (each value rfl) rfl

theorem reads_take (bytes : Bytes) : Reads (take bytes.length) bytes bytes := by
  intro rest
  simp [take, StateT.run]

theorem reads_little {width number : Nat} (bound : number < 256 ^ width) :
    Reads (little width) (toLittle width number) number := by
  have taken := reads_take (toLittle width number)
  rw [length_toLittle] at taken
  exact reads_map taken (by rw [ofLittle_toLittle width number bound])

theorem reads_u8 (field : UInt8) : Reads u8 (writeU8 field) field :=
  reads_map (reads_little field.toNat_lt) (by simp)

theorem reads_u16 (field : UInt16) : Reads u16 (writeU16 field) field :=
  reads_map (reads_little field.toNat_lt) (by simp)

theorem reads_u32 (field : UInt32) : Reads u32 (writeU32 field) field :=
  reads_map (reads_little field.toNat_lt) (by simp)

theorem reads_u64 (field : UInt64) : Reads u64 (writeU64 field) field :=
  reads_map (reads_little field.toNat_lt) (by simp)

theorem reads_i64 (field : Int64) : Reads i64 (writeI64 field) field :=
  reads_map (reads_u64 field.toUInt64) (by simp)

end Reads

/-- What every value that a reader yields satisfies. -/
def Yields (reader : Reader α) (Holds : α → Prop) : Prop :=
  ∀ input value rest, reader.run input = some (value, rest) → Holds value

section Yields

variable {reader : Reader α} {next : α → Reader β} {Holds : α → Prop} {Then : β → Prop}

theorem yields_bind (first : Yields reader Holds)
    (second : ∀ value, Holds value → Yields (next value) Then) :
    Yields (reader >>= next) Then := by
  intro input result rest read
  rw [StateT.run_bind] at read
  obtain ⟨⟨value, left⟩, taken, final⟩ := Option.bind_eq_some_iff.mp read
  exact second value (first input value left taken) left result rest final

/-- A field that the result's condition does not look at. -/
theorem yields_skip (second : ∀ value, Yields (next value) Then) :
    Yields (reader >>= next) Then :=
  yields_bind (fun _ _ _ _ => trivial) fun value (_ : True) => second value

theorem yields_pure {value : α} (holds : Holds value) : Yields (pure value) Holds := by
  intro input result rest read
  cases read
  exact holds

theorem yields_require {condition : Bool} {next : Unit → Reader β}
    (second : condition = true → Yields (next ()) Then) :
    Yields (require condition >>= next) Then := by
  intro input result rest read
  rw [StateT.run_bind] at read
  obtain ⟨⟨⟨⟩, left⟩, taken, final⟩ := Option.bind_eq_some_iff.mp read
  cases holds : condition with
  | false => simp [require, StateT.run, holds] at taken
  | true => exact second holds left result rest final

theorem yields_many (each : Yields reader Holds) (count : Nat) :
    Yields (many reader count) fun values => values.length = count ∧ ∀ value ∈ values,
      Holds value := by
  induction count with
  | zero => exact yields_pure ⟨rfl, by simp⟩
  | succ count ih =>
      refine yields_bind each fun first holds => ?_
      refine yields_bind ih fun rest both => yields_pure ⟨by simp [both.1], ?_⟩
      intro value member
      rcases List.mem_cons.mp member with rfl | later
      · exact holds
      · exact both.2 value later

theorem yields_optional (each : Yields reader Holds) (present : Bool) :
    Yields (optional present reader) fun field => ∀ value ∈ field, Holds value := by
  cases present with
  | false => exact yields_pure (by simp)
  | true => exact yields_bind each fun value holds => yields_pure (by simpa using holds)

theorem yields_take (size : Nat) : Yields (take size) fun bytes => bytes.length = size := by
  intro input value rest read
  simp only [take, StateT.run] at read
  split at read
  · next enough =>
    cases read
    exact List.length_take_of_le enough
  · cases read

end Yields

/-- Bytes behind what a reader takes do not change what it takes. -/
class Local (reader : Reader α) : Prop where
  extend : ∀ input value rest more, reader.run input = some (value, rest) →
    reader.run (input ++ more) = some (value, rest ++ more)

section Local

instance local_pure (value : α) : Local (pure value : Reader α) where
  extend := by
    intro input result rest more read
    cases read
    rfl

instance local_bind (reader : Reader α) (next : α → Reader β) [Local reader]
    [∀ value, Local (next value)] : Local (reader >>= next) where
  extend := by
    intro input result rest more read
    rw [StateT.run_bind] at read ⊢
    obtain ⟨⟨value, left⟩, taken, final⟩ := Option.bind_eq_some_iff.mp read
    rw [Local.extend input value left more taken]
    exact Local.extend left result rest more final

instance local_take (size : Nat) : Local (take size) where
  extend := by
    intro input value rest more read
    simp only [take, StateT.run] at read ⊢
    split at read
    · next enough =>
      cases read
      have longer : size ≤ (input ++ more).length := by
        rw [List.length_append]
        omega
      rw [if_pos longer, List.take_append_of_le_length enough,
        List.drop_append_of_le_length enough]
    · cases read

instance local_require (condition : Bool) : Local (require condition) where
  extend := by
    intro input value rest more read
    simp only [require, StateT.run] at read ⊢
    split at read
    · next holds =>
      cases read
      rw [if_pos holds]
    · cases read

instance local_ite (condition : Prop) [Decidable condition] (first second : Reader α)
    [one : Local first] [two : Local second] :
    Local (if condition then first else second) := by
  split
  · exact one
  · exact two

instance local_many (reader : Reader α) [Local reader] : ∀ count, Local (many reader count)
  | 0 => local_pure []
  | count + 1 => by
      have := local_many reader count
      rw [many]
      infer_instance

instance local_optional (present : Bool) (reader : Reader α) [Local reader] :
    Local (optional present reader) := by
  unfold optional
  infer_instance

instance local_little (width : Nat) : Local (little width) := by unfold little; infer_instance

instance local_u8 : Local u8 := by unfold u8; infer_instance
instance local_u16 : Local u16 := by unfold u16; infer_instance
instance local_u32 : Local u32 := by unfold u32; infer_instance
instance local_u64 : Local u64 := by unfold u64; infer_instance
instance local_i64 : Local i64 := by unfold i64; infer_instance

end Local

/-- A payload decoder: the reader, and then the end of the bytes. -/
def finished (reader : Reader α) (input : Bytes) : Option α :=
  match reader.run input with
  | some (value, []) => some value
  | _ => none

theorem finished_of_reads {reader : Reader α} {bytes : Bytes} {value : α}
    (back : Reads reader bytes value) : finished reader bytes = some value := by
  have whole := back []
  rw [List.append_nil] at whole
  rw [finished, whole]

theorem holds_of_finished {reader : Reader α} {Holds : α → Prop} {input : Bytes} {value : α}
    (yields : Yields reader Holds) (accepted : finished reader input = some value) :
    Holds value := by
  rw [finished] at accepted
  split at accepted
  · next read =>
    cases accepted
    exact yields input value [] read
  · cases accepted

/-- The reader gives the value back from its encoding and takes no more than that, and the
payload decoder refuses every proper prefix and every extension of it. -/
structure Lossless (encoding : Bytes) (reader : Reader α) (value : α) : Prop where
  back : Reads reader encoding value
  prefixes : ∀ first second, first ++ second = encoding → second ≠ [] →
    finished reader first = none
  extensions : ∀ more, more ≠ [] → finished reader (encoding ++ more) = none

theorem lossless_of_reads {encoding : Bytes} {reader : Reader α} [Local reader] {value : α}
    (back : Reads reader encoding value) : Lossless encoding reader value where
  back := back
  prefixes := by
    intro first second split proper
    rw [finished]
    split
    · next other read =>
      have longer := Local.extend first other [] second read
      have whole := back []
      rw [List.append_nil, ← split, longer] at whole
      simp only [List.nil_append, Option.some.injEq, Prod.mk.injEq] at whole
      exact absurd whole.2 proper
    · rfl
  extensions := by
    intro more proper
    rw [finished, back more]
    cases more with
    | nil => exact absurd rfl proper
    | cons byte bytes => rfl

/-- An encoding is lossless for exactly the values that the reader can yield. -/
theorem lossless_iff {encode : α → Bytes} {reader : Reader α} [Local reader] {Fits : α → Prop}
    (yields : Yields reader Fits) (reads : ∀ value, Fits value → Reads reader (encode value) value)
    (value : α) : Lossless (encode value) reader value ↔ Fits value := by
  constructor
  · intro lossless
    exact yields (encode value ++ []) value [] (lossless.back [])
  · intro fits
    exact lossless_of_reads (reads value fits)

end Msap1.ByteCodec
