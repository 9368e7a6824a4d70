import Msap1.Arithmetic
import Msap1.Sqlite
import Msap1.Meter.Values

/-! Column encodings of the ledger database: little-endian blobs, hexadecimal texts,
packed flags and the truncated sample rate. Each has its reader and a round trip. -/

namespace Msap1.Ledger

open Arithmetic Meter

abbrev Blob := List UInt8

def encodeArray {count : Nat} (values : Fin count → UInt64) : Blob :=
  List.ofFn (n := count * 8) (fun position =>
    UInt8.ofNat (byteAt (values ⟨position / 8, by omega⟩).toNat (position % 8)))

def decodeArray (count : Nat) (bytes : Blob) (name : String) :
    Except Failure (Fin count → UInt64) :=
  if bytes.length ≠ count * 8 then
    .error (.runtimeError (name ++ " ledger blob size mismatch"))
  else
    .ok (fun index => UInt64.ofNat
      (wordOf (fun place => (bytes.getD (index * 8 + place) 0).toNat) 8))

theorem encodeArray_getD {count : Nat} (values : Fin count → UInt64) (index : Fin count)
    (place : Nat) (bound : place < 8) :
    ((encodeArray values).getD (index * 8 + place) 0).toNat =
      byteAt (values index).toNat place := by
  have inside : index.val * 8 + place < count * 8 := by omega
  have quotient : (index.val * 8 + place) / 8 = index.val := by omega
  have remainder : (index.val * 8 + place) % 8 = place := by omega
  have small := byteAt_lt (values index).toNat place
  simp only [encodeArray, List.getD_eq_getElem?_getD, List.getElem?_ofFn, inside, dite_true,
    Option.getD_some, quotient, remainder, Fin.eta]
  exact UInt8.toNat_ofNat_of_lt' small

theorem decodeArray_encodeArray {count : Nat} (values : Fin count → UInt64) (name : String) :
    decodeArray count (encodeArray values) name = .ok values := by
  have length : (encodeArray values).length = count * 8 := by simp [encodeArray]
  rw [decodeArray, if_neg (not_not.mpr length)]
  congr 1
  funext index
  have bytes : wordOf (fun place => ((encodeArray values).getD (index * 8 + place) 0).toNat) 8 =
      wordOf (byteAt (values index).toNat) 8 := by
    unfold wordOf
    apply List.foldl_ext
    intro word place member
    have byte := encodeArray_getD values index place (by simpa using member)
    simp only [byte]
  rw [bytes, wordOf_byteAt, Nat.mod_eq_of_lt, UInt64.ofNat_toNat]
  exact lt_of_lt_of_eq (values index).toNat_lt (by norm_num)

def encodeSigned {count : Nat} (values : Fin count → Int64) : Blob :=
  encodeArray (fun index => (values index).toUInt64)

def decodeSigned (count : Nat) (bytes : Blob) (name : String) :
    Except Failure (Fin count → Int64) := do
  let words ← decodeArray count bytes name
  return fun index => (words index).toInt64

@[simp] theorem decodeSigned_encodeSigned {count : Nat} (values : Fin count → Int64)
    (name : String) : decodeSigned count (encodeSigned values) name = .ok values := by
  rw [decodeSigned, encodeSigned, decodeArray_encodeArray]
  simp [bind, Except.bind, pure, Except.pure]

def hexValue (character : Char) : Option Nat :=
  if '0' ≤ character ∧ character ≤ '9' then some (character.toNat - '0'.toNat)
  else if 'a' ≤ character ∧ character ≤ 'f' then some (character.toNat - 'a'.toNat + 10)
  else if 'A' ≤ character ∧ character ≤ 'F' then some (character.toNat - 'A'.toNat + 10)
  else none

def hex64 (value : UInt64) : String :=
  String.ofList ((digitsOf 16 16 value.toNat).map Nat.digitChar)

/-- `std::from_chars` in base 16 over the whole text: digits only, no sign, no overflow. -/
def parseHex64 (text : String) (name : String) : Except Failure UInt64 :=
  match text.toList.mapM hexValue with
  | some (digit :: digits) =>
      if positional 16 (digit :: digits) < 2 ^ 64 then
        .ok (UInt64.ofNat (positional 16 (digit :: digits)))
      else .error (.runtimeError (name ++ " is not a uint64 hex value"))
  | _ => .error (.runtimeError (name ++ " is not a uint64 hex value"))

theorem hexValue_digitChar (digit : Nat) (bound : digit < 16) :
    hexValue (Nat.digitChar digit) = some digit := by
  interval_cases digit <;> decide

theorem mapM_hexValue (digits : List Nat) (bound : ∀ digit ∈ digits, digit < 16) :
    (digits.map Nat.digitChar).mapM hexValue = some digits := by
  induction digits with
  | nil => rfl
  | cons digit digits ih =>
      have tail := ih (fun later member => bound later (List.mem_cons_of_mem digit member))
      rw [List.map_cons, List.mapM_cons, hexValue_digitChar digit (bound digit List.mem_cons_self),
        tail]
      rfl

@[simp] theorem parseHex64_hex64 (value : UInt64) (name : String) :
    parseHex64 (hex64 value) name = .ok value := by
  have bounded : ∀ digit ∈ digitsOf 16 16 value.toNat, digit < 16 := by
    intro digit member
    obtain ⟨place, -, rfl⟩ := List.mem_map.mp member
    exact Nat.mod_lt _ (by decide)
  have parsed := mapM_hexValue _ bounded
  have numeral : positional 16 (digitsOf 16 16 value.toNat) = value.toNat := by
    rw [positional_digitsOf, Nat.mod_eq_of_lt]
    exact lt_of_lt_of_eq value.toNat_lt (by norm_num)
  have shape : ∃ digit digits, digitsOf 16 16 value.toNat = digit :: digits := ⟨_, _, rfl⟩
  obtain ⟨digit, digits, shape⟩ := shape
  rw [shape] at parsed numeral
  rw [parseHex64, hex64, shape, String.toList_ofList, parsed]
  simp only [numeral, value.toNat_lt, if_true, UInt64.ofNat_toNat]

def qualityByte : MeasurementQuality → UInt8
  | .unavailable => 0
  | .valid => 1
  | .invalid => 2
  | .outOfRange => 3
  | .timedOut => 4
  | .arithmeticError => 5

/-- The cast back from a stored byte. Only bytes of `qualityByte` are ever stored. -/
def qualityOfByte (byte : UInt8) : MeasurementQuality :=
  if byte = 1 then .valid
  else if byte = 2 then .invalid
  else if byte = 3 then .outOfRange
  else if byte = 4 then .timedOut
  else if byte = 5 then .arithmeticError
  else .unavailable

theorem qualityOfByte_qualityByte (quality : MeasurementQuality) :
    qualityOfByte (qualityByte quality) = quality := by
  cases quality <;> decide

def encodeQualities {count : Nat} (readings : Fin count → Reading) : Blob :=
  List.ofFn (fun index => qualityByte (readings index).quality)

def decodeQualities (count : Nat) (bytes : Blob) (name : String) :
    Except Failure (Fin count → MeasurementQuality) :=
  if bytes.length ≠ count then
    .error (.runtimeError (name ++ " quality ledger blob size mismatch"))
  else .ok (fun index => qualityOfByte (bytes.getD index 0))

@[simp] theorem decodeQualities_encodeQualities {count : Nat} (readings : Fin count → Reading)
    (name : String) :
    decodeQualities count (encodeQualities readings) name =
      .ok (fun index => (readings index).quality) := by
  have length : (encodeQualities readings).length = count := by simp [encodeQualities]
  rw [decodeQualities, if_neg (not_not.mpr length)]
  congr 1
  funext index
  simp [encodeQualities, List.getD_eq_getElem?_getD, qualityOfByte_qualityByte]

theorem encodeQualities_eq_iff {count : Nat} (left right : Fin count → Reading) :
    encodeQualities left = encodeQualities right ↔
      ∀ index, (left index).quality = (right index).quality := by
  constructor
  · intro same index
    have decoded := congrArg (fun bytes => decodeQualities count bytes "") same
    simp only [decodeQualities_encodeQualities, Except.ok.injEq] at decoded
    exact congrFun decoded index
  · intro same
    simp [encodeQualities, same]

/-- A 32-bit column value: widened for SQLite and cast back when read. -/
def integer32 (value : UInt32) : Int64 := value.toUInt64.toInt64

def unsigned32 (column : Int64) : UInt32 := column.toUInt64.toUInt32

@[simp] theorem unsigned32_integer32 (value : UInt32) : unsigned32 (integer32 value) = value := by
  simp [unsigned32, integer32]

def packFlags (flags : List Bool) : UInt32 :=
  flags.zipIdx.foldl (fun packed entry =>
    packed ||| (if entry.1 then 1 else 0) <<< UInt32.ofNat entry.2) 0

def flagSet (flags mask : UInt32) : Bool := flags &&& mask != 0

theorem packFlags_three (first second third : Bool) :
    flagSet (packFlags [first, second, third]) 1 = first ∧
      flagSet (packFlags [first, second, third]) 2 = second ∧
      flagSet (packFlags [first, second, third]) 4 = third := by
  cases first <;> cases second <;> cases third <;> decide

theorem packFlags_five (first second third fourth fifth : Bool) :
    flagSet (packFlags [first, second, third, fourth, fifth]) 1 = first ∧
      flagSet (packFlags [first, second, third, fourth, fifth]) 2 = second ∧
      flagSet (packFlags [first, second, third, fourth, fifth]) 4 = third ∧
      flagSet (packFlags [first, second, third, fourth, fifth]) 8 = fourth ∧
      flagSet (packFlags [first, second, third, fourth, fifth]) 16 = fifth := by
  cases first <;> cases second <;> cases third <;> cases fourth <;> cases fifth <;> decide

def nanosecondsPerSecond : Nat := 1000000000

/-- `source_window` of `energy_demand.cpp` for a block of `sampleCount` samples. -/
def sourceWindow (sampleCount sampleRateHz : UInt32) : Except Failure SampleWindow :=
  if sampleRateHz = 0 then .error (.invalidArgument "energy/demand sample rate is zero")
  else
    let nanoseconds := sampleCount.toNat * nanosecondsPerSecond / sampleRateHz.toNat
    if nanoseconds ≤ int64Max.toNat then
      .ok ⟨sampleCount, Int64.ofNat nanoseconds⟩
    else .error (.invalidArgument "energy/demand source window exceeds duration range")

/-- The whole rate that is stored in place of the duration. -/
def sampleRate (window : SampleWindow) : UInt32 :=
  if window.sampleCount = 0 ∨ window.duration ≤ 0 then 0
  else
    let result := window.sampleCount.toNat * nanosecondsPerSecond / window.duration.toInt.toNat
    if result > 4294967295 then 0 else UInt32.ofNat result

def storedWindow (sampleCount sampleRate : Int64) : SampleWindow :=
  ⟨unsigned32 sampleCount,
    Int64.ofInt ((sampleCount.toInt * nanosecondsPerSecond).tdiv (max sampleRate.toInt 1))⟩

def sameWindow (left right : SampleWindow) : Bool :=
  left.sampleCount = right.sampleCount ∧ left.duration = right.duration

theorem sameWindow_iff (left right : SampleWindow) :
    sameWindow left right = true ↔ left = right := by
  cases left
  cases right
  simp [sameWindow]

theorem toInt_integer32 (value : UInt32) : (integer32 value).toInt = value.toNat := by
  have small := value.toNat_lt
  rw [integer32, Int64.toInt, UInt64.toBitVec_toInt64, BitVec.toInt_eq_toNat_bmod,
    UInt64.toNat_toBitVec, UInt32.toNat_toUInt64]
  apply Int.bmod_eq_of_le <;> omega

/-- A family window as the record decoder produces it: at least one sample, and a rate
the acquisition accepts. -/
def FamilyWindow (window : SampleWindow) : Prop :=
  ∃ sampleCount sampleRateHz : UInt32, 1 ≤ sampleCount.toNat ∧ 1 ≤ sampleRateHz.toNat ∧
    sampleRateHz.toNat ≤ 128000 ∧ sourceWindow sampleCount sampleRateHz = .ok window

/-- The duration of a family window is the rounded quotient, and it is long enough that
the stored rate cannot leave 32 bits. -/
theorem familyWindow_duration {window : SampleWindow} (family : FamilyWindow window) :
    ∃ rate : Nat, 1 ≤ window.sampleCount.toNat ∧ 1 ≤ rate ∧ rate ≤ 128000 ∧
      window.duration.toInt =
        ((window.sampleCount.toNat * nanosecondsPerSecond / rate : Nat) : Int) := by
  obtain ⟨sampleCount, sampleRateHz, counted, positive, bounded, produced⟩ := family
  unfold sourceWindow at produced
  split at produced
  · cases produced
  · simp only at produced
    split at produced
    · next fits =>
        cases produced
        refine ⟨sampleRateHz.toNat, counted, positive, bounded, ?_⟩
        apply Int64.toInt_ofNat_of_lt
        have limit : int64Max.toNat = 9223372036854775807 := by decide
        omega
    · cases produced

theorem storedWindow_sampleRate {window : SampleWindow} (family : FamilyWindow window) :
    storedWindow (integer32 window.sampleCount) (integer32 (sampleRate window)) = window := by
  obtain ⟨rate, counted, positive, bounded, duration⟩ := familyWindow_duration family
  obtain ⟨sampleCount, length⟩ := window
  simp only at counted duration
  have second : nanosecondsPerSecond = 1000000000 := rfl
  generalize quotient : sampleCount.toNat * nanosecondsPerSecond / rate = wait at duration
  have long : 7812 ≤ wait := by
    rw [← quotient, Nat.le_div_iff_mul_le (by omega), second]
    nlinarith
  have positiveQuotient : 0 < sampleCount.toNat * nanosecondsPerSecond / rate := by omega
  have stored := div_div_div_self _ _ positiveQuotient
  have upper := div_div_le _ _ positiveQuotient
  rw [quotient] at stored upper
  generalize recomputed : sampleCount.toNat * nanosecondsPerSecond / wait = whole at stored upper
  have small : rate / wait ≤ 16 := by
    rw [Nat.div_le_iff_le_mul_add_pred (by omega)]
    omega
  have wholePositive : 0 < whole := by
    rcases Nat.eq_zero_or_pos whole with zero | pos
    · rw [zero, Nat.div_zero] at stored
      omega
    · exact pos
  have rateColumn : sampleRate ⟨sampleCount, length⟩ = UInt32.ofNat whole := by
    have nonzero : ¬ (sampleCount = 0 ∨ length ≤ 0) := by
      rintro (zero | short)
      · rw [zero] at counted
        simp at counted
      · rw [Int64.le_iff_toInt_le, duration] at short
        simp at short
        omega
    simp only [sampleRate, if_neg nonzero, duration, Int.toNat_natCast, recomputed]
    rw [if_neg (by omega)]
  have column : (integer32 (UInt32.ofNat whole)).toInt = whole := by
    rw [toInt_integer32, UInt32.toNat_ofNat_of_lt' (by simp [UInt32.size]; omega)]
  rw [rateColumn, storedWindow, unsigned32_integer32, column, toInt_integer32,
    max_eq_left (by omega)]
  congr 1
  have product : ((sampleCount.toNat : Int) * (nanosecondsPerSecond : Nat)).tdiv whole =
      ((sampleCount.toNat * nanosecondsPerSecond / whole : Nat) : Int) := by
    rw [← Int.natCast_mul, ← Int.ofNat_tdiv]
  rw [product, stored, ← duration, Int64.ofInt_toInt]

end Msap1.Ledger
