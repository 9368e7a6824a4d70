import Mathlib.Data.List.Basic
import Mathlib.Tactic

/-! Reflected cyclic redundancy checks over a register of any width, shifted bit by bit. A
polynomial with its top bit set makes every shift invertible, so that a check sees each change
that fits into the register. -/

namespace Msap1.Crc

variable {width : Nat}

def shift (polynomial crc : BitVec width) : BitVec width :=
  (crc >>> 1) ^^^ (if crc.getLsbD 0 then polynomial else 0)

def shifts (polynomial : BitVec width) : Nat → BitVec width → BitVec width
  | 0, crc => crc
  | count + 1, crc => shifts polynomial count (shift polynomial crc)

def updateByte (polynomial crc : BitVec width) (byte : UInt8) : BitVec width :=
  shifts polynomial 8 (crc ^^^ byte.toBitVec.setWidth width)

def update (polynomial crc : BitVec width) (bytes : List UInt8) : BitVec width :=
  bytes.foldl (updateByte polynomial) crc

/-- The bytes as one register value, the first byte lowest. -/
def word (width : Nat) : List UInt8 → BitVec width
  | [] => 0
  | byte :: bytes => byte.toBitVec.setWidth width ^^^ (word width bytes <<< 8)

section Linear

variable (polynomial : BitVec width)

theorem getLsbD_shift (crc : BitVec width) (index : Nat) :
    (shift polynomial crc).getLsbD index =
      (crc.getLsbD (index + 1) ^^ (crc.getLsbD 0 && polynomial.getLsbD index)) := by
  rw [shift, BitVec.getLsbD_xor, BitVec.getLsbD_ushiftRight, Nat.add_comm 1 index]
  cases crc.getLsbD 0 <;> simp

theorem shift_xor (first second : BitVec width) :
    shift polynomial (first ^^^ second) = shift polynomial first ^^^ shift polynomial second := by
  apply BitVec.eq_of_getLsbD_eq
  intro index bound
  simp only [BitVec.getLsbD_xor, getLsbD_shift]
  cases first.getLsbD 0 <;> cases second.getLsbD 0 <;> cases polynomial.getLsbD index <;> simp

theorem shifts_xor (count : Nat) (first second : BitVec width) :
    shifts polynomial count (first ^^^ second) =
      shifts polynomial count first ^^^ shifts polynomial count second := by
  induction count generalizing first second with
  | zero => rfl
  | succ count ih => rw [shifts, shift_xor, ih, shifts, shifts]

theorem shifts_add (first second : Nat) (crc : BitVec width) :
    shifts polynomial (first + second) crc =
      shifts polynomial second (shifts polynomial first crc) := by
  induction first generalizing crc with
  | zero => rw [Nat.zero_add, shifts]
  | succ first ih => rw [Nat.succ_add, shifts, ih, shifts]

/-- Bits that were moved up without loss come back down without meeting the polynomial. -/
theorem shifts_shiftLeft (count : Nat) (crc : BitVec width)
    (clear : ∀ index, width - count ≤ index → crc.getLsbD index = false) :
    shifts polynomial count (crc <<< count) = crc := by
  induction count with
  | zero => simp [shifts]
  | succ count ih =>
      have down : shift polynomial (crc <<< (count + 1)) = crc <<< count := by
        apply BitVec.eq_of_getLsbD_eq
        intro index bound
        rw [getLsbD_shift]
        simp only [BitVec.getLsbD_shiftLeft]
        by_cases top : index + 1 < width
        · by_cases low : index < count
          · simp [low]
          · simp [low, top, bound, show index + 1 - (count + 1) = index - count by omega]
        · have zero : crc.getLsbD (index - count) = false := clear _ (by omega)
          simp [top, zero]
      rw [shifts, down]
      exact ih fun index bound => clear index (by omega)

end Linear

section Injective

variable {polynomial : BitVec width}

/-- The shift is invertible: the top bit tells whether the polynomial was added. -/
theorem shift_injective (top : polynomial.getLsbD (width - 1) = true) (first second : BitVec width)
    (same : shift polynomial first = shift polynomial second) : first = second := by
  have each : ∀ index, (shift polynomial first).getLsbD index =
      (shift polynomial second).getLsbD index := by
    intro index
    rw [same]
  simp only [getLsbD_shift] at each
  have positive : 0 < width := by
    by_contra none
    have zero : width = 0 := by omega
    subst zero
    simp at top
  have low : first.getLsbD 0 = second.getLsbD 0 := by
    have last := each (width - 1)
    rw [top, BitVec.getLsbD_of_ge first (width - 1 + 1) (by omega),
      BitVec.getLsbD_of_ge second (width - 1 + 1) (by omega)] at last
    simpa using last
  apply BitVec.eq_of_getLsbD_eq
  intro index bound
  cases index with
  | zero => exact low
  | succ index =>
      have here := each index
      rw [low] at here
      simpa using here

theorem shifts_injective (top : polynomial.getLsbD (width - 1) = true) (count : Nat)
    (first second : BitVec width)
    (same : shifts polynomial count first = shifts polynomial count second) : first = second := by
  induction count generalizing first second with
  | zero => exact same
  | succ count ih => exact shift_injective top first second (ih _ _ same)

theorem update_injective (top : polynomial.getLsbD (width - 1) = true) (bytes : List UInt8)
    (first second : BitVec width)
    (same : update polynomial first bytes = update polynomial second bytes) : first = second := by
  induction bytes generalizing first second with
  | nil => exact same
  | cons byte bytes ih =>
      have next := shifts_injective top 8 _ _ (ih _ _ same)
      exact (BitVec.xor_left_inj _).mp next

end Injective

theorem getLsbD_word_cons (byte : UInt8) (bytes : List UInt8) {index : Nat}
    (bound : index < width) :
    (word width (byte :: bytes)).getLsbD index =
      if index < 8 then byte.toBitVec.getLsbD index
      else (word width bytes).getLsbD (index - 8) := by
  rw [word, BitVec.getLsbD_xor, BitVec.getLsbD_setWidth, BitVec.getLsbD_shiftLeft]
  by_cases low : index < 8
  · simp [low, bound]
  · simp [low, bound, BitVec.getLsbD_of_ge byte.toBitVec index (by omega)]

theorem getLsbD_word_of_ge (bytes : List UInt8) (index : Nat) (beyond : 8 * bytes.length ≤ index) :
    (word width bytes).getLsbD index = false := by
  induction bytes generalizing index with
  | nil => simp [word]
  | cons byte bytes ih =>
      rw [List.length_cons] at beyond
      by_cases bound : index < width
      · rw [getLsbD_word_cons byte bytes bound, if_neg (by omega)]
        exact ih (index - 8) (by omega)
      · exact BitVec.getLsbD_of_ge _ _ (by omega)

theorem word_injective {first second : List UInt8} (fits : 8 * first.length ≤ width)
    (sizes : first.length = second.length) (same : word width first = word width second) :
    first = second := by
  induction first generalizing second with
  | nil =>
      rw [List.length_nil] at sizes
      exact (List.length_eq_zero_iff.mp sizes.symm).symm
  | cons byte bytes ih =>
      cases second with
      | nil => cases sizes
      | cons other others =>
          rw [List.length_cons] at fits
          rw [List.length_cons, List.length_cons, Nat.add_right_cancel_iff] at sizes
          have each : ∀ index < width, (word width (byte :: bytes)).getLsbD index =
              (word width (other :: others)).getLsbD index := by
            intro index _
            rw [same]
          have head : byte = other := by
            apply UInt8.toBitVec_inj.mp
            apply BitVec.eq_of_getLsbD_eq
            intro index bound
            have here := each index (by omega)
            rwa [getLsbD_word_cons byte bytes (by omega), getLsbD_word_cons other others
              (by omega), if_pos bound, if_pos bound] at here
          have tail : word width bytes = word width others := by
            apply BitVec.eq_of_getLsbD_eq
            intro index bound
            by_cases inside : index + 8 < width
            · have here := each (index + 8) inside
              rwa [getLsbD_word_cons byte bytes inside, getLsbD_word_cons other others inside,
                if_neg (by omega), if_neg (by omega), Nat.add_sub_cancel] at here
            · rw [getLsbD_word_of_ge bytes index (by omega),
                getLsbD_word_of_ge others index (by omega)]
          rw [head, ih (by omega) sizes tail]

/-- As long as they fit, the bytes act on the register as one word. -/
theorem update_word (polynomial : BitVec width) (bytes : List UInt8)
    (fits : 8 * bytes.length ≤ width) (crc : BitVec width) :
    update polynomial crc bytes =
      shifts polynomial (8 * bytes.length) (crc ^^^ word width bytes) := by
  induction bytes generalizing crc with
  | nil => simp [update, shifts, word]
  | cons byte bytes ih =>
      rw [List.length_cons] at fits
      have clear : ∀ index, width - 8 ≤ index → (word width bytes).getLsbD index = false :=
        fun index beyond => getLsbD_word_of_ge bytes index (by omega)
      have moved : shifts polynomial 8 (crc ^^^ word width (byte :: bytes)) =
          updateByte polynomial crc byte ^^^ word width bytes := by
        rw [word, ← BitVec.xor_assoc, shifts_xor, shifts_shiftLeft polynomial 8 _ clear,
          updateByte]
      calc update polynomial crc (byte :: bytes)
          = update polynomial (updateByte polynomial crc byte) bytes := rfl
        _ = shifts polynomial (8 * bytes.length)
              (updateByte polynomial crc byte ^^^ word width bytes) := ih (by omega) _
        _ = shifts polynomial (8 * (bytes.length + 1)) (crc ^^^ word width (byte :: bytes)) := by
              rw [Nat.mul_succ, Nat.add_comm, shifts_add, moved]

/-- The strings have one length and differ only inside a window of so many bytes. -/
def DifferWithin (size : Nat) (first second : List UInt8) : Prop :=
  first.length = second.length ∧ ∃ start, ∀ index, index < start ∨ start + size ≤ index →
    first[index]? = second[index]?

/-- A check sees every change inside a window that fits into its register. -/
theorem eq_of_update_eq {polynomial : BitVec width}
    (top : polynomial.getLsbD (width - 1) = true) {size : Nat} (fits : 8 * size ≤ width)
    {first second : List UInt8} (window : DifferWithin size first second) (crc : BitVec width)
    (same : update polynomial crc first = update polynomial crc second) : first = second := by
  obtain ⟨sizes, start, outside⟩ := window
  have before : first.take start = second.take start := by
    apply List.ext_getElem?
    intro index
    rw [List.getElem?_take, List.getElem?_take]
    split
    · next inside => exact outside index (.inl inside)
    · rfl
  have behind : (first.drop start).drop size = (second.drop start).drop size := by
    apply List.ext_getElem?
    intro index
    rw [List.drop_drop, List.drop_drop, List.getElem?_drop, List.getElem?_drop]
    exact outside _ (.inr (by omega))
  have inner : ((first.drop start).take size).length = ((second.drop start).take size).length := by
    simp [sizes]
  have parts : ∀ bytes : List UInt8, bytes =
      bytes.take start ++ ((bytes.drop start).take size ++ (bytes.drop start).drop size) := by
    intro bytes
    rw [List.take_append_drop, List.take_append_drop]
  have windowed : (first.drop start).take size = (second.drop start).take size := by
    have short : 8 * ((first.drop start).take size).length ≤ width := by
      have := List.length_take_le size (first.drop start)
      omega
    rw [parts first, parts second] at same
    simp only [update, List.foldl_append] at same
    rw [before, behind] at same
    have registers := update_injective top _ _ _ same
    change update _ _ _ = update _ _ _ at registers
    rw [update_word _ _ short, update_word _ _ (by omega), inner] at registers
    have words := shifts_injective top _ _ _ registers
    exact word_injective short inner ((BitVec.xor_right_inj _).mp words)
  rw [parts first, parts second, before, windowed, behind]

end Msap1.Crc
