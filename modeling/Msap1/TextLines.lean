import Mathlib.Data.Nat.Digits.Lemmas
import Mathlib.Data.Nat.Log
import Msap1.ByteCodec
import Msap1.Rounding

/-! ASCII text in lines that end with CR and LF: numbers in it, the lines and numbers that a reader
takes from it, and that the reader sees the lines the writer meant. -/

namespace Msap1.TextLines

open ByteCodec Rounding

def carriageReturn : UInt8 := 0x0D

def crlf : Bytes := [carriageReturn, 0x0A]

/-- The bytes of a text, all of them ASCII. -/
def ascii (literal : String) : Bytes := literal.toList.map fun character => character.toNat.toUInt8

def digitByte (digit : Nat) : UInt8 := 0x30 + digit.toUInt8

def decimal (number : Nat) : Bytes :=
  if number = 0 then [digitByte 0] else (Nat.digits 10 number).reverse.map digitByte

def signedDecimal (number : Int) : Bytes :=
  if number < 0 then ascii "-" ++ decimal number.natAbs else decimal number.natAbs

/-- A number with zeros in front of it, up to a width. -/
def padded (width number : Nat) : Bytes :=
  List.replicate (width - (decimal number).length) (digitByte 0) ++ decimal number

def hexDigit (value : Nat) : UInt8 := if value < 10 then digitByte value else 0x57 + value.toUInt8

def hexadecimal (bytes : Bytes) : Bytes :=
  bytes.flatMap fun byte => [hexDigit (byte.toNat / 16), hexDigit (byte.toNat % 16)]

/-- The power of ten of the first digit of a quotient that is not zero. -/
def order (numerator denominator : Nat) : Int :=
  if denominator ≤ numerator then Nat.log 10 (numerator / denominator)
  else -(Nat.clog 10 ((denominator + numerator - 1) / numerator) : Nat)

/-- The leading digits of a quotient that is not zero, as many as the places behind the point and
one more, rounded with ties to even, and the power of ten of the first. -/
def significand (places numerator denominator : Nat) : Nat × Int :=
  let exponent := order numerator denominator
  let rounded := divideTiesToEven (numerator * 10 ^ (places - exponent).toNat)
    (denominator * 10 ^ (exponent - places).toNat)
  if rounded = 10 ^ (places + 1) then (10 ^ places, exponent + 1) else (rounded, exponent)

/-- A quotient in scientific notation, with a number of places behind the point. -/
def scientific (places : Nat) (numerator : Int) (denominator : Nat) : Bytes :=
  let (digits, exponent) := if numerator = 0 then (0, 0)
    else significand places numerator.natAbs denominator
  (if numerator < 0 then ascii "-" else []) ++ (padded (places + 1) digits).take 1 ++
    ascii "." ++ (padded (places + 1) digits).drop 1 ++
    (if exponent < 0 then ascii "e-" else ascii "e+") ++ padded 2 exponent.natAbs

/-- One line off the front of a text. -/
def readLine : Bytes → Option (Bytes × Bytes)
  | 0x0D :: 0x0A :: rest => some ([], rest)
  | byte :: rest => (readLine rest).map fun (line, rest) => (byte :: line, rest)
  | [] => none

/-- What is behind a number of lines. -/
def skipLines : Nat → Bytes → Option Bytes
  | 0, text => some text
  | count + 1, text => (readLine text).bind fun (_, rest) => skipLines count rest

def digitValue (byte : UInt8) : Option Nat :=
  if 0x30 ≤ byte ∧ byte ≤ 0x39 then some (byte.toNat - 0x30) else none

def readDecimal (bytes : Bytes) : Option Nat :=
  if bytes = [] then none
  else (bytes.mapM digitValue).map fun digits => Nat.ofDigits 10 digits.reverse

/-- A number without a sign, with digits behind a point and an exponent. -/
def readScientific (bytes : Bytes) : Option ℚ := do
  let point := bytes.idxOf 0x2E
  let marker := bytes.idxOf 0x65
  let whole ← readDecimal (bytes.take point)
  let fraction ← readDecimal ((bytes.take marker).drop (point + 1))
  let exponent ← readDecimal (bytes.drop (marker + 2))
  let power : Int := if bytes[marker + 1]? = some 0x2D then -exponent else exponent
  return (whole + fraction / 10 ^ (marker - point - 1)) * (10 : ℚ) ^ power

/-- The bytes stay on one line. -/
def OneLine (bytes : Bytes) : Prop := carriageReturn ∉ bytes

section Lines

@[simp] theorem oneLine_nil : OneLine [] := by simp [OneLine]

@[simp] theorem oneLine_append {front back : Bytes} :
    OneLine (front ++ back) ↔ OneLine front ∧ OneLine back := by
  simp [OneLine]

@[simp] theorem oneLine_cons {byte : UInt8} {bytes : Bytes} :
    OneLine (byte :: bytes) ↔ byte ≠ carriageReturn ∧ OneLine bytes := by
  simp [OneLine, eq_comm]

theorem digitByte_plain {digit : Nat} (small : digit < 10) : digitByte digit ≠ carriageReturn := by
  revert digit
  decide

@[simp] theorem oneLine_decimal (number : Nat) : OneLine (decimal number) := by
  unfold OneLine decimal
  split
  · decide
  · simp only [List.mem_map, List.mem_reverse, not_exists, not_and]
    intro digit member
    exact digitByte_plain (Nat.digits_lt_base (by decide) member)

@[simp] theorem oneLine_signedDecimal (number : Int) : OneLine (signedDecimal number) := by
  have minus : OneLine (ascii "-") := by
    unfold OneLine
    decide
  unfold signedDecimal
  split
  · simp [minus]
  · simp

@[simp] theorem oneLine_padded (width number : Nat) : OneLine (padded width number) := by
  have zeros : OneLine (List.replicate (width - (decimal number).length) (digitByte 0)) := by
    intro member
    exact absurd (List.eq_of_mem_replicate member) (by decide)
  simp [padded, zeros]

theorem oneLine_sublist {part bytes : Bytes} (within : part.Sublist bytes)
    (whole : OneLine bytes) : OneLine part :=
  fun member => whole (within.subset member)

@[simp] theorem oneLine_scientific (places : Nat) (numerator : Int) (denominator : Nat) :
    OneLine (scientific places numerator denominator) := by
  have signs : OneLine (ascii "-") ∧ OneLine (ascii ".") ∧ OneLine (ascii "e-") ∧
      OneLine (ascii "e+") := by
    unfold OneLine
    decide
  rcases signs with ⟨minus, point, down, up⟩
  unfold scientific
  generalize (if numerator = 0 then ((0 : Nat), (0 : Int))
    else significand places numerator.natAbs denominator) = parts
  rcases parts with ⟨digits, exponent⟩
  have whole := oneLine_padded (places + 1) digits
  have first := oneLine_sublist (List.take_sublist 1 _) whole
  have others := oneLine_sublist (List.drop_sublist 1 _) whole
  dsimp only
  split <;> split <;>
    simp only [oneLine_append, oneLine_nil, oneLine_padded, minus, point, down, up, first, others,
      and_self]

@[simp] theorem oneLine_hexadecimal (bytes : Bytes) : OneLine (hexadecimal bytes) := by
  have plain : ∀ value < 16, hexDigit value ≠ carriageReturn := by decide
  unfold OneLine hexadecimal
  simp only [List.mem_flatMap, not_exists, not_and]
  intro byte _ member
  have small := byte.toNat_lt
  rcases List.mem_cons.mp member with high | low
  · exact plain _ (by omega) high.symm
  · exact plain _ (by omega) (List.mem_singleton.mp low).symm

theorem readLine_line {line : Bytes} (single : OneLine line) (rest : Bytes) :
    readLine (line ++ crlf ++ rest) = some (line, rest) := by
  induction line with
  | nil => rfl
  | cons byte line ih =>
      rw [oneLine_cons] at single
      rw [List.append_assoc, List.cons_append, ← List.append_assoc, readLine, ih single.2]
      · rfl
      · rintro others same -
        exact single.1 same

theorem skipLines_lines {lines : List Bytes} (single : ∀ line ∈ lines, OneLine line)
    (rest : Bytes) :
    skipLines lines.length ((lines.flatMap fun line => line ++ crlf) ++ rest) = some rest := by
  induction lines with
  | nil => rfl
  | cons line lines ih =>
      rw [List.flatMap_cons, List.append_assoc, List.length_cons, skipLines,
        readLine_line (single line List.mem_cons_self)]
      exact ih fun other member => single other (List.mem_cons_of_mem line member)

theorem digitValue_byte {digit : Nat} (small : digit < 10) :
    digitValue (digitByte digit) = some digit := by
  revert digit
  decide

theorem mapM_digits {digits : List Nat} (small : ∀ digit ∈ digits, digit < 10) :
    (digits.map digitByte).mapM digitValue = some digits := by
  induction digits with
  | nil => rfl
  | cons digit digits ih =>
      rw [List.map_cons, List.mapM_cons, digitValue_byte (small digit List.mem_cons_self),
        ih fun other member => small other (List.mem_cons_of_mem digit member)]
      rfl

theorem readDecimal_decimal (number : Nat) : readDecimal (decimal number) = some number := by
  unfold decimal readDecimal
  split
  · next zero =>
      rw [zero]
      rfl
  · next positive =>
      have written : (Nat.digits 10 number).reverse.map digitByte ≠ [] := by
        simpa using Nat.digits_ne_nil_iff_ne_zero.mpr positive
      rw [if_neg written, mapM_digits, Option.map_some, List.reverse_reverse, Nat.ofDigits_digits]
      intro digit member
      exact Nat.digits_lt_base (by decide) (List.mem_reverse.mp member)

theorem decimal_plain (number : Nat) : (0x2C : UInt8) ∉ decimal number := by
  have digits : ∀ digit < 10, digitByte digit ≠ 0x2C := by decide
  unfold decimal
  split
  · decide
  · simp only [List.mem_map, List.mem_reverse, not_exists, not_and]
    intro digit member
    exact digits digit (Nat.digits_lt_base (by decide) member)

end Lines

example : scientific 3 (-1) 8 = ascii "-1.250e-01" ∧ scientific 2 9999 10 = ascii "1.00e+03" ∧
    readScientific (scientific 3 1 8) = some (1 / 8) := by
  decide +kernel

end Msap1.TextLines
