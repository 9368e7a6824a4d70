import Msap1.Modbus.RegisterMap

/-! What validation promises about a register map, and that the binary search of an accepted
map finds the definition that owns an address. -/

namespace Msap1.Modbus

theorem precedes_iff (first second : RegisterDefinition) :
    precedes first second = true ↔
      first.function.code.toNat < second.function.code.toNat ∨
        (first.function.code.toNat = second.function.code.toNat ∧
          first.address.toNat < second.address.toNat) := by
  simp only [precedes, Bool.or_eq_true, Bool.and_eq_true, decide_eq_true_eq,
    UInt8.lt_iff_toNat_lt, UInt16.lt_iff_toNat_lt, ← UInt8.toNat_inj]

theorem precedes_trans {first second third : RegisterDefinition}
    (one : precedes first second = true) (two : precedes second third = true) :
    precedes first third = true := by
  rw [precedes_iff] at one two ⊢
  omega

theorem reaches_iff (function : FunctionCode) (address : UInt16) (entry : RegisterDefinition) :
    reaches function address entry = true ↔
      entry.function.code.toNat < function.code.toNat ∨
        (entry.function.code.toNat = function.code.toNat ∧
          entry.address.toNat ≤ address.toNat) := by
  simp only [reaches, Bool.or_eq_true, Bool.and_eq_true, decide_eq_true_eq,
    UInt8.lt_iff_toNat_lt, UInt16.le_iff_toNat_le, ← UInt8.toNat_inj]

theorem code_injective {first second : FunctionCode}
    (same : first.code.toNat = second.code.toNat) : first = second := by
  revert same
  cases first <;> cases second <;> decide

theorem toNat_definitionEnd (entry : RegisterDefinition) :
    (definitionEnd entry).toNat = entry.address.toNat + entry.words.toNat := by
  have low := entry.address.toNat_lt
  have high := entry.words.toNat_lt
  rw [definitionEnd, UInt32.toNat_add, UInt16.toNat_toUInt32, UInt16.toNat_toUInt32]
  omega

theorem owns_iff (function : FunctionCode) (address : UInt16) (entry : RegisterDefinition) :
    owns function address entry = true ↔ entry.function = function ∧
      entry.address.toNat ≤ address.toNat ∧
      address.toNat < entry.address.toNat + entry.words.toNat := by
  simp only [owns, Bool.and_eq_true, decide_eq_true_eq, UInt16.le_iff_toNat_le,
    UInt32.lt_iff_toNat_lt, toNat_definitionEnd, UInt16.toNat_toUInt32, and_assoc]

/-- What an accepted map promises about its entries. -/
structure Sound (entries : List RegisterDefinition) : Prop where
  sized : ∀ entry ∈ entries, entry.words = registerWidth entry.type ∧
    0 < entry.words.toNat ∧ entry.address.toNat + entry.words.toNat ≤ 0x10000
  sorted : entries.Pairwise fun first second => precedes first second = true
  apart : entries.Pairwise fun first second => first.function = second.function →
    first.address.toNat + first.words.toNat ≤ second.address.toNat ∨
      second.address.toNat + second.words.toNat ≤ first.address.toNat

theorem validEntry_sized {blocks : List RegisterBlock} {entry : RegisterDefinition}
    (valid : validEntry blocks entry = true) :
    entry.words = registerWidth entry.type ∧ 0 < entry.words.toNat ∧
      entry.address.toNat + entry.words.toNat ≤ 0x10000 := by
  simp only [validEntry, Bool.and_eq_true, Bool.not_eq_true', Bool.or_eq_false_iff,
    decide_eq_false_iff_not, bne_eq_false_iff_eq] at valid
  obtain ⟨⟨⟨filled, width⟩, bounded⟩, -⟩ := valid
  refine ⟨width, ?_, ?_⟩
  · rw [Nat.pos_iff_ne_zero]
    intro zero
    exact filled (UInt16.toNat_inj.mp zero)
  · rw [UInt32.lt_iff_toNat_lt, toNat_definitionEnd] at bounded
    exact Nat.le_of_not_lt bounded

theorem compatible_apart {entry candidate : RegisterDefinition}
    (good : compatible entry candidate = true) (same : entry.function = candidate.function) :
    entry.address.toNat + entry.words.toNat ≤ candidate.address.toNat ∨
      candidate.address.toNat + candidate.words.toNat ≤ entry.address.toNat := by
  simp only [compatible, overlaps, same, decide_true, Bool.true_and, Bool.and_eq_true,
    Bool.not_eq_true', Bool.and_eq_false_iff, decide_eq_false_iff_not, UInt32.lt_iff_toNat_lt,
    toNat_definitionEnd, UInt16.toNat_toUInt32] at good
  omega

theorem sound_of_validateEntries {blocks : List RegisterBlock}
    {previous : Option RegisterDefinition} {entries : List RegisterDefinition}
    (valid : validateEntries blocks previous entries = true) :
    Sound entries ∧ ∀ before ∈ previous, ∀ entry ∈ entries, precedes before entry = true := by
  induction entries generalizing previous with
  | nil => exact ⟨⟨by simp, .nil, .nil⟩, by simp⟩
  | cons entry entries ih =>
      simp only [validateEntries, Bool.and_eq_true, List.all_eq_true, Option.all_eq_true] at valid
      obtain ⟨⟨⟨alone, after⟩, others⟩, rest⟩ := valid
      obtain ⟨sound, ordered⟩ := ih rest
      constructor
      · constructor
        · intro other member
          rcases List.mem_cons.mp member with rfl | later
          · exact validEntry_sized alone
          · exact sound.sized other later
        · exact List.pairwise_cons.mpr ⟨ordered entry rfl, sound.sorted⟩
        · refine List.pairwise_cons.mpr ⟨?_, sound.apart⟩
          intro other later same
          exact compatible_apart (others other later) same
      · intro before first other member
        rcases List.mem_cons.mp member with rfl | later
        · exact after before first
        · exact precedes_trans (after before first) (ordered entry rfl other later)

theorem sound_of_validateRegisterMap {blocks : List RegisterBlock}
    {entries : List RegisterDefinition} (accepted : validateRegisterMap blocks entries = true) :
    Sound entries := by
  rw [validateRegisterMap, Bool.and_eq_true] at accepted
  exact (sound_of_validateEntries accepted.2).1

section Lookup

variable {entries : List RegisterDefinition} {function : FunctionCode} {address : UInt16}

theorem Sound.precedes_get (sound : Sound entries) {low high : Fin entries.length}
    (order : low < high) : precedes (entries.get low) (entries.get high) = true :=
  List.pairwise_iff_get.mp sound.sorted low high order

theorem Sound.owner_unique (sound : Sound entries) {first second : Fin entries.length}
    (one : owns function address (entries.get first) = true)
    (two : owns function address (entries.get second) = true) : first = second := by
  rw [owns_iff] at one two
  have apart := List.pairwise_iff_get.mp sound.apart
  rcases lt_trichotomy first second with before | same | after
  · have := apart first second before (one.1.trans two.1.symm)
    omega
  · exact same
  · have := apart second first after (two.1.trans one.1.symm)
    omega

theorem Sound.reaches_downward (sound : Sound entries) (low high : Nat) (order : low ≤ high)
    (bound : high < entries.length)
    (reached : entries[high]?.any (reaches function address) = true) :
    entries[low]?.any (reaches function address) = true := by
  have inside : low < entries.length := by omega
  rw [List.getElem?_eq_getElem bound, Option.any_some, reaches_iff] at reached
  rw [List.getElem?_eq_getElem inside, Option.any_some, reaches_iff]
  rcases Nat.eq_or_lt_of_le order with rfl | strict
  · exact reached
  · have before := sound.precedes_get (show (⟨low, inside⟩ : Fin _) < ⟨high, bound⟩ from strict)
    rw [precedes_iff] at before
    simp only [List.get_eq_getElem] at before
    omega

theorem Sound.last_reached (sound : Sound entries) {position later : Fin entries.length}
    (order : position < later)
    (owned : (entries.get position).function = function ∧
      (entries.get position).address.toNat ≤ address.toNat ∧
      address.toNat < (entries.get position).address.toNat + (entries.get position).words.toNat)
    (reached : reaches function address (entries.get later) = true) : False := by
  rw [reaches_iff] at reached
  have before := sound.precedes_get order
  rw [precedes_iff, owned.1] at before
  have same : (entries.get later).function = function := code_injective (by omega)
  have apart := List.pairwise_iff_get.mp sound.apart position later order
    (owned.1.trans same.symm)
  have filled := (sound.sized _ (List.get_mem entries later)).2.1
  rw [same] at before reached
  omega

theorem findDefinition_iff (sound : Sound entries) (position : Fin entries.length) :
    findDefinition entries function address = some position ↔
      owns function address (entries.get position) = true := by
  have found : ∀ position : Fin entries.length,
      findDefinition entries function address = some position →
        owns function address (entries.get position) = true := by
    intro position same
    simp only [findDefinition] at same
    split at same
    · split at same
      · next owned =>
        cases same
        exact (Bool.and_eq_true_iff.mp owned).2
      · cases same
    · cases same
  constructor
  · exact found position
  · intro owned
    have splits : Splits (fun middle => entries[middle]?.any (reaches function address)) 0
        entries.length (partitionPoint (fun middle =>
          entries[middle]?.any (reaches function address)) entries.length 0 entries.length) :=
      partitionPoint_splits entries.length sound.reaches_downward (Nat.zero_le _) (by omega)
    rw [findDefinition]
    generalize partitionPoint (fun middle => entries[middle]?.any (reaches function address))
      entries.length 0 entries.length = point at splits ⊢
    have holds := (owns_iff function address (entries.get position)).mp owned
    have reached : reaches function address (entries.get position) = true := by
      rw [reaches_iff, holds.1]
      exact .inr ⟨rfl, holds.2.1⟩
    have below : position.val < point := by
      by_contra beyond
      have failed := splits.fails position.val (by omega) position.isLt
      rw [List.getElem?_eq_getElem position.isLt, Option.any_some] at failed
      exact absurd reached (by rw [List.get_eq_getElem, failed]; decide)
    have inside : point - 1 < entries.length := by
      have := splits.upper
      omega
    have same : position = ⟨point - 1, inside⟩ := by
      by_contra other
      have strict : position < ⟨point - 1, inside⟩ := by
        rw [Fin.lt_def]
        have := Fin.val_ne_of_ne other
        simp only at this ⊢
        omega
      exact sound.last_reached strict holds
        (by simpa [inside] using splits.passes (point - 1) (by omega) (by omega))
    simp only [dif_pos inside]
    rw [← same, if_pos]
    rw [Bool.and_eq_true, decide_eq_true_eq]
    exact ⟨by omega, owned⟩

theorem findDefinition_linear (sound : Sound entries) (function : FunctionCode)
    (address : UInt16) :
    (findDefinition entries function address).map (fun position => entries.get position) =
      entries.find? (owns function address) := by
  cases found : findDefinition entries function address with
  | none =>
      symm
      rw [Option.map_none, List.find?_eq_none]
      intro entry member owned
      obtain ⟨position, rfl⟩ := List.get_of_mem member
      rw [(findDefinition_iff sound position).mpr owned] at found
      cases found
  | some position =>
      have owned := (findDefinition_iff sound position).mp found
      cases first : entries.find? (owns function address) with
      | none => exact absurd owned (List.find?_eq_none.mp first _ (List.get_mem _ _))
      | some entry =>
          obtain ⟨other, rfl⟩ := List.get_of_mem (List.mem_of_find?_eq_some first)
          rw [Option.map_some, sound.owner_unique owned (List.find?_some first)]

end Lookup

end Msap1.Modbus
