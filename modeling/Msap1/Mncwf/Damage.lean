import Msap1.Mncwf.OnDemand

/-! A file that is accepted as a whole is not one after a small change: the checksums see what the
fixed fields and the zero padding do not. -/

namespace Msap1.Mncwf

open ByteCodec ByteLayout

section Strings

theorem ofLittle_injective {first second : Bytes} (sizes : first.length = second.length)
    (same : ofLittle first = ofLittle second) : first = second := by
  induction first generalizing second with
  | nil => exact (List.eq_nil_of_length_eq_zero sizes.symm).symm
  | cons byte bytes ih =>
      cases second with
      | nil => cases sizes
      | cons other others =>
          rw [ofLittle, ofLittle] at same
          have low := byte.toNat_lt
          have high := other.toNat_lt
          have head : byte = other := UInt8.toNat_inj.mp (by omega)
          rw [head, ih (Nat.succ.inj sizes) (by omega)]

/-- Two strings have the same bytes in a range. -/
def SameIn (first second : Bytes) (low high : Nat) : Prop :=
  ∀ index, low ≤ index → index < high → first[index]? = second[index]?

theorem SameIn.slice_eq {first second : Bytes} {low high offset size : Nat}
    (same : SameIn first second low high) (above : low ≤ offset) (below : offset + size ≤ high) :
    slice first offset size = slice second offset size := by
  rw [slice_eq_iff]
  exact fun index bound => same _ (by omega) (by omega)

theorem sameIn_of_slice_eq {first second : Bytes} {offset size : Nat}
    (same : slice first offset size = slice second offset size) :
    SameIn first second offset (offset + size) := by
  intro index above below
  have each := slice_eq_iff.mp same (index - offset) (by omega)
  rw [Nat.add_sub_cancel' above] at each
  exact each

theorem SameIn.append {first second : Bytes} {low middle high : Nat}
    (one : SameIn first second low middle) (two : SameIn first second middle high) :
    SameIn first second low high := by
  intro index above below
  by_cases left : index < middle
  · exact one index above left
  · exact two index (Nat.le_of_not_lt left) below

theorem sameIn_of_natAt {first second : Bytes} (width offset : Nat)
    (sizes : first.length = second.length) (inside : offset + width ≤ first.length)
    (same : natAt width first offset = natAt width second offset) :
    SameIn first second offset (offset + width) := by
  apply sameIn_of_slice_eq
  apply ofLittle_injective _ same
  rw [length_slice inside, length_slice (by omega)]

theorem mncwfCrc32c_injective {first second : Bytes} (window : Crc.DifferWithin 4 first second)
    (same : mncwfCrc32c first = mncwfCrc32c second) : first = second := by
  have top : crc32cPolynomial.getLsbD 31 = true := by decide
  apply Crc.eq_of_update_eq top (by decide) window 0xffffffff
  exact (BitVec.xor_left_inj _).mp same

theorem differWithin_slice {first second : Bytes} {size : Nat}
    (window : Crc.DifferWithin size first second) (offset count : Nat) :
    Crc.DifferWithin size (slice first offset count) (slice second offset count) := by
  rcases window with ⟨sizes, start, outside⟩
  refine ⟨by simp [slice, sizes], start - offset, ?_⟩
  intro index beyond
  rw [getElem?_slice, getElem?_slice]
  split
  · apply outside
    omega
  · rfl

theorem natAt_lt (width : Nat) (bytes : Bytes) (offset : Nat) :
    natAt width bytes offset < 256 ^ width := by
  apply lt_of_lt_of_le (ofLittle_lt _)
  apply Nat.pow_le_pow_right (by decide)
  rw [slice, List.length_take]
  exact Nat.min_le_left _ _

theorem natAt_of_bitVec {first second : Bytes} {one two : Nat}
    (same : BitVec.ofNat 32 (natAt 4 first one) = BitVec.ofNat 32 (natAt 4 second two)) :
    natAt 4 first one = natAt 4 second two := by
  have numbers := congrArg BitVec.toNat same
  have low : natAt 4 first one < 2 ^ 32 := natAt_lt 4 first one
  have high : natAt 4 second two < 2 ^ 32 := natAt_lt 4 second two
  rw [BitVec.toNat_ofNat, BitVec.toNat_ofNat, Nat.mod_eq_of_lt low, Nat.mod_eq_of_lt high]
    at numbers
  exact numbers

end Strings

section Header

/-- What the header of an accepted file says. -/
structure Sealed (bytes : Bytes) : Prop where
  whole : 64 ≤ bytes.length
  size : natAt 8 bytes 40 = bytes.length
  reserved : natAt 4 bytes 60 = 0
  headerCheck : mncwfCrc32c (put (bytes.take 64) ⟨56, zeros 4⟩) =
    BitVec.ofNat 32 (natAt 4 bytes 56)
  directory : 64 + natAt 4 bytes 20 * 56 ≤ bytes.length
  directoryCheck : mncwfCrc32c (slice bytes 64 (natAt 4 bytes 20 * 56)) =
    BitVec.ofNat 32 (natAt 4 bytes 52)

/-- What is read behind the checksums of the header. -/
structure OpenedContainer (bytes : Bytes) (container : Container) : Prop where
  isSealed : Sealed bytes
  entries : readEntries bytes (natAt 4 bytes 8) (slice bytes 64 (natAt 4 bytes 20 * 56))
    (natAt 4 bytes 20) 0 [] = .ok container.sections
  extents : ∃ extents, container.sections.mapM sectionExtent = .ok extents ∧
    checkExtents bytes (aligned (64 + natAt 4 bytes 20 * 56)) (extents.insertionSort extentLe) =
      .ok ()
  checks : ∀ info ∈ container.sections, mncwfCrc32c info.data = info.crc32c

theorem alignEight_ok {value result : Nat} (raised : alignEight value = .ok result) :
    result = aligned value := by
  rcases Loops.bind_ok raised with ⟨sum, added, raised⟩
  cases raised
  rw [checkedAdd_ok added, aligned]

theorem readContainer_ok {bytes : Bytes} {container : Container}
    (read : readContainer .complete bytes = .ok container) : OpenedContainer bytes container := by
  rcases Loops.bind_ok read with ⟨header, headed, read⟩
  rcases Loops.bind_ok read with ⟨directory, ranged, read⟩
  rcases Loops.bind_ok read with ⟨⟨⟩, directoryChecked, read⟩
  rcases Loops.bind_ok read with ⟨sections, entries, read⟩
  rcases Loops.bind_ok read with ⟨extents, extended, read⟩
  rcases Loops.bind_ok read with ⟨directoryEnd, ended, read⟩
  rcases Loops.bind_ok read with ⟨first, begun, read⟩
  rcases Loops.bind_ok read with ⟨⟨⟩, tiled, read⟩
  rcases Loops.bind_ok read with ⟨⟨⟩, checked, read⟩
  cases read
  unfold readHeader at headed
  rcases Loops.bind_ok headed with ⟨⟨⟩, long, headed⟩
  rcases Loops.bind_ok headed with ⟨⟨⟩, -, headed⟩
  rcases Loops.bind_ok headed with ⟨⟨⟩, -, headed⟩
  rcases Loops.bind_ok headed with ⟨⟨⟩, -, headed⟩
  rcases Loops.bind_ok headed with ⟨⟨⟩, -, headed⟩
  rcases Loops.bind_ok headed with ⟨⟨⟩, reserved, headed⟩
  rcases Loops.bind_ok headed with ⟨⟨⟩, -, headed⟩
  rcases Loops.bind_ok headed with ⟨expected, multiplied, headed⟩
  rcases Loops.bind_ok headed with ⟨⟨⟩, geometry, headed⟩
  rcases Loops.bind_ok headed with ⟨⟨⟩, headerChecked, headed⟩
  cases headed
  dsimp only at ranged directoryChecked entries ended
  have plain := rejectIf_ok reserved
  have placed := rejectIf_ok geometry
  have sized := checkedMultiply_ok multiplied
  simp only [Bool.or_eq_false_iff, bne_eq_false_iff_eq] at plain placed
  rcases placed with ⟨⟨offset, length⟩, file⟩
  rw [offset, length, sized, headerBytes, directoryEntryBytes] at ranged
  rw [offset, length, sized, headerBytes, directoryEntryBytes] at ended
  rcases range_ok ranged with ⟨inside, rfl⟩
  rw [alignEight_ok begun, checkedAdd_ok ended] at tiled
  have long := rejectIf_ok long
  have header := rejectIf_ok headerChecked
  have listed := rejectIf_ok directoryChecked
  rw [decide_eq_false_iff_not, not_lt] at long
  rw [bne_eq_false_iff_eq] at header listed
  refine ⟨⟨long, file, plain.1, header, inside, listed⟩, entries, ⟨extents, extended, tiled⟩, ?_⟩
  intro info member
  have each := List.any_eq_false.mp (rejectIf_ok checked) info member
  simp only [show (ValidationMode.complete == ValidationMode.metadataOnly) = false from rfl,
    Bool.false_and, Bool.not_false, Bool.true_and, bne_iff_ne, ne_eq, not_not] at each
  exact each

theorem put_header (bytes : Bytes) : put (bytes.take 64) ⟨56, zeros 4⟩ =
    bytes.take 56 ++ (zeros 4 ++ slice bytes 60 4) := by
  rw [put, List.take_take, slice, List.drop_take]
  rfl

theorem getElem?_header {bytes : Bytes} (whole : 64 ≤ bytes.length) (index : Nat) :
    (put (bytes.take 64) ⟨56, zeros 4⟩)[index]? =
      if index < 64 then if 56 ≤ index ∧ index < 60 then some 0 else bytes[index]? else none := by
  have left : (bytes.take 56).length = 56 := by
    rw [List.length_take]
    omega
  have middle : (zeros 4).length = 4 := rfl
  rw [put_header]
  by_cases low : index < 56
  · rw [List.getElem?_append_left (by omega), List.getElem?_take, if_pos low, if_pos (by omega),
      if_neg (by omega)]
  · rw [List.getElem?_append_right (by omega), left]
    by_cases check : index < 60
    · rw [List.getElem?_append_left (by omega), zeros, List.getElem?_replicate, if_pos (by omega),
        if_pos (by omega), if_pos (by omega)]
    · rw [List.getElem?_append_right (by omega), middle, getElem?_slice]
      by_cases last : index < 64
      · rw [if_pos (by omega), if_pos last, if_neg (by omega)]
        congr 1
        omega
      · rw [if_neg (by omega), if_neg last]

variable {bytes changed : Bytes}

theorem header_unchanged (one : Sealed bytes) (two : Sealed changed)
    (window : Crc.DifferWithin 4 bytes changed) : SameIn bytes changed 0 64 := by
  rcases window with ⟨sizes, start, outside⟩
  have whole := one.whole
  have wholeToo := two.whole
  have apart : ∀ {low high : Nat}, high ≤ start ∨ start + 4 ≤ low →
      SameIn bytes changed low high := by
    intro low high beyond index above below
    exact outside index (by omega)
  have last : SameIn bytes changed 60 64 :=
    sameIn_of_natAt 4 60 sizes (by omega) (one.reserved.trans two.reserved.symm)
  -- equal checksums make the rest equal, and the rest the checksums
  have checked : natAt 4 bytes 56 = natAt 4 changed 56 →
      SameIn bytes changed 0 56 := by
    intro same
    have headers : put (bytes.take 64) ⟨56, zeros 4⟩ = put (changed.take 64) ⟨56, zeros 4⟩ := by
      apply mncwfCrc32c_injective
      · refine ⟨?_, start, ?_⟩
        · rw [put_header, put_header]
          simp [sizes, slice]
        · intro index beyond
          rw [getElem?_header whole, getElem?_header wholeToo, outside index beyond]
      · rw [one.headerCheck, two.headerCheck, same]
    intro index _ below
    have each := congrArg (fun list : Bytes => list[index]?) headers
    rw [getElem?_header whole, getElem?_header wholeToo, if_pos (by omega), if_neg (by omega),
      if_pos (by omega), if_neg (by omega)] at each
    exact each
  by_cases away : start + 4 ≤ 56 ∨ 60 ≤ start
  · have field : SameIn bytes changed 56 60 := apart (by omega)
    have numbers : natAt 4 bytes 56 = natAt 4 changed 56 := by
      rw [natAt, natAt, field.slice_eq (le_refl _) (le_refl _)]
    exact (checked numbers).append (field.append last)
  · -- the change is not behind the header, so the directory is what it was
    have before : SameIn bytes changed 0 52 := apart (by omega)
    have count : natAt 4 bytes 20 = natAt 4 changed 20 := by
      rw [natAt, natAt, before.slice_eq (by omega) (by omega)]
    have listed : slice bytes 64 (natAt 4 bytes 20 * 56) =
        slice changed 64 (natAt 4 changed 20 * 56) := by
      rw [← count]
      have behind : SameIn bytes changed 64 (64 + natAt 4 bytes 20 * 56) := apart (by omega)
      exact behind.slice_eq (le_refl _) (le_refl _)
    have field : SameIn bytes changed 52 56 := by
      apply sameIn_of_natAt 4 52 sizes (by omega)
      apply natAt_of_bitVec
      rw [← one.directoryCheck, ← two.directoryCheck, listed]
    have headers : put (bytes.take 64) ⟨56, zeros 4⟩ = put (changed.take 64) ⟨56, zeros 4⟩ := by
      apply List.ext_getElem?
      intro index
      rw [getElem?_header whole, getElem?_header wholeToo]
      split
      · split
        · rfl
        · by_cases low : index < 56
          · exact (before.append field) index (Nat.zero_le _) low
          · exact last index (by omega) (by omega)
      · rfl
    have check : SameIn bytes changed 56 60 := by
      apply sameIn_of_natAt 4 56 sizes (by omega)
      apply natAt_of_bitVec
      rw [← one.headerCheck, ← two.headerCheck, headers]
    exact (before.append field).append (check.append last)

end Header

section Sections

/-- Where a directory entry says that its section is, and the checksum that it gives. -/
def entryPlace (entry : Bytes) : Nat × Nat × BitVec 32 :=
  (natAt 8 entry 8, natAt 8 entry 16, BitVec.ofNat 32 (natAt 4 entry 44))

def SectionInfo.place (info : SectionInfo) : Nat × Nat × BitVec 32 :=
  (info.offset, info.storedBytes, info.crc32c)

theorem readEntry_ok {bytes entry : Bytes} {version : Nat} {present : List Nat}
    {info : SectionInfo} (read : readEntry bytes version entry present = .ok info) :
    info.place = entryPlace entry ∧ info.data = slice bytes info.offset info.storedBytes := by
  unfold readEntry at read
  dsimp only at read
  rcases Loops.bind_ok read with ⟨⟨⟩, -, read⟩
  split at read
  all_goals
    rcases Loops.bind_ok read with ⟨expected, -, read⟩
    rcases Loops.bind_ok read with ⟨⟨⟩, -, read⟩
    rcases Loops.bind_ok read with ⟨⟨⟩, -, read⟩
    split at read
    · rcases Loops.bind_ok read with ⟨⟨⟩, -, read⟩
      rcases Loops.bind_ok read with ⟨⟨⟩, -, read⟩
      rcases Loops.bind_ok read with ⟨⟨⟩, -, read⟩
      rcases Loops.bind_ok read with ⟨data, ranged, read⟩
      cases read
      exact ⟨rfl, (range_ok ranged).2⟩
    · rcases Loops.bind_ok read with ⟨data, ranged, read⟩
      cases read
      exact ⟨rfl, (range_ok ranged).2⟩

theorem readEntries_ok {bytes directory : Bytes} {version count index : Nat} {present : List Nat}
    {infos : List SectionInfo}
    (read : readEntries bytes version directory count index present = .ok infos) :
    infos.map SectionInfo.place = (List.range' index count).map (fun index =>
      entryPlace (slice directory (index * directoryEntryBytes) directoryEntryBytes)) ∧
    ∀ info ∈ infos, info.data = slice bytes info.offset info.storedBytes := by
  induction count generalizing index present infos with
  | zero =>
      rcases Loops.bind_ok read with ⟨⟨⟩, -, read⟩
      cases read
      exact ⟨rfl, fun info member => absurd member List.not_mem_nil⟩
  | succ count ih =>
      rcases Loops.bind_ok read with ⟨info, first, read⟩
      rcases Loops.bind_ok read with ⟨rest, later, read⟩
      cases read
      rcases readEntry_ok first with ⟨placed, data⟩
      rcases ih later with ⟨places, each⟩
      constructor
      · rw [List.map_cons, List.range'_succ, List.map_cons, placed, places]
      · intro other member
        rcases List.mem_cons.mp member with rfl | tail
        · exact data
        · exact each other tail

theorem sectionExtents_ok {infos : List SectionInfo} {extents : List (Nat × Nat)}
    (extended : infos.mapM sectionExtent = .ok extents) :
    extents = (infos.map SectionInfo.place).map fun place => (place.1, place.1 + place.2.1) := by
  induction infos generalizing extents with
  | nil =>
      cases extended
      rfl
  | cons info infos ih =>
      rw [List.mapM_cons] at extended
      rcases Loops.bind_ok extended with ⟨extent, first, extended⟩
      rcases Loops.bind_ok extended with ⟨rest, later, extended⟩
      cases extended
      rcases Loops.bind_ok first with ⟨finish, added, first⟩
      cases first
      rw [List.map_cons, List.map_cons, ← ih later, checkedAdd_ok added]
      rfl

variable {bytes changed : Bytes}

theorem checkExtents_ok {cursor : Nat} {extents : List (Nat × Nat)}
    (one : checkExtents bytes cursor extents = .ok ())
    (two : checkExtents changed cursor extents = .ok ()) {index : Nat} (behind : cursor ≤ index)
    (inside : index < bytes.length) :
    (∃ extent ∈ extents, extent.1 ≤ index ∧ index < extent.2) ∨
      bytes[index]? = changed[index]? := by
  induction extents generalizing cursor with
  | nil =>
      have finished := rejectIf_ok one
      rw [bne_eq_false_iff_eq] at finished
      omega
  | cons extent extents ih =>
      rcases extent with ⟨start, finish⟩
      rcases Loops.bind_ok one with ⟨⟨⟩, placed, one⟩
      rcases Loops.bind_ok one with ⟨next, raised, one⟩
      rcases Loops.bind_ok one with ⟨⟨⟩, -, one⟩
      rcases Loops.bind_ok one with ⟨padding, ranged, one⟩
      rcases Loops.bind_ok one with ⟨⟨⟩, zero, one⟩
      rcases Loops.bind_ok two with ⟨⟨⟩, -, two⟩
      rcases Loops.bind_ok two with ⟨nextToo, raisedToo, two⟩
      rcases Loops.bind_ok two with ⟨⟨⟩, -, two⟩
      rcases Loops.bind_ok two with ⟨paddingToo, rangedToo, two⟩
      rcases Loops.bind_ok two with ⟨⟨⟩, zeroToo, two⟩
      cases Except.ok.inj (raised.symm.trans raisedToo)
      have starts := rejectIf_ok placed
      rw [bne_eq_false_iff_eq] at starts
      by_cases before : index < finish
      · exact .inl ⟨(start, finish), List.mem_cons_self, by omega, before⟩
      · by_cases padded : index < next
        · right
          have zeros : ∀ {file data : Bytes}, finish + (next - finish) ≤ file.length ∧
              data = slice file finish (next - finish) → allZero data = true →
              file[index]? = some 0 := by
            rintro file data ⟨fits, rfl⟩ zero
            have own := getElem?_slice file finish (next - finish) (index - finish)
            rw [if_pos (by omega), Nat.add_sub_cancel' (by omega)] at own
            have there : index < file.length := by omega
            rw [List.getElem?_eq_getElem there] at own ⊢
            have member := List.mem_of_getElem? own
            rw [beq_iff_eq.mp (List.all_eq_true.mp zero _ member)]
          have blank := rejectIf_ok zero
          have blankToo := rejectIf_ok zeroToo
          rw [Bool.not_eq_false_eq_eq_true] at blank blankToo
          rw [zeros (range_ok ranged) blank, zeros (range_ok rangedToo) blankToo]
        · rcases ih one two (by omega) with ⟨extent, member, covers⟩ | same
          · exact .inl ⟨extent, List.mem_cons_of_mem _ member, covers⟩
          · exact .inr same

theorem unchanged {container other : Container} (one : OpenedContainer bytes container)
    (two : OpenedContainer changed other) (window : Crc.DifferWithin 4 bytes changed) :
    changed = bytes := by
  have header := header_unchanged one.isSealed two.isSealed window
  have sizes := window.1
  have numbers : ∀ {width offset : Nat}, offset + width ≤ 64 →
      natAt width bytes offset = natAt width changed offset := by
    intro width offset inside
    rw [natAt, natAt, header.slice_eq (Nat.zero_le _) inside]
  have count := @numbers 4 20 (by omega)
  have directory : slice bytes 64 (natAt 4 bytes 20 * 56) =
      slice changed 64 (natAt 4 bytes 20 * 56) := by
    apply mncwfCrc32c_injective (differWithin_slice window _ _)
    rw [one.isSealed.directoryCheck, @numbers 4 52 (by omega), count,
      two.isSealed.directoryCheck]
  rcases readEntries_ok one.entries with ⟨places, data⟩
  rcases readEntries_ok two.entries with ⟨placesToo, dataToo⟩
  rw [← count, ← directory, ← places] at placesToo
  rcases one.extents with ⟨extents, extended, tiled⟩
  rcases two.extents with ⟨extentsToo, extendedToo, tiledToo⟩
  rw [← count] at tiledToo
  rw [sectionExtents_ok extended] at tiled
  rw [sectionExtents_ok extendedToo, placesToo] at tiledToo
  have kept : ∀ info ∈ container.sections,
      SameIn bytes changed info.offset (info.offset + info.storedBytes) := by
    intro info member
    have place : info.place ∈ other.sections.map SectionInfo.place := by
      rw [placesToo]
      exact List.mem_map_of_mem member
    rcases List.mem_map.mp place with ⟨twin, twinMember, same⟩
    simp only [SectionInfo.place, Prod.mk.injEq] at same
    rcases same with ⟨offset, stored, check⟩
    apply sameIn_of_slice_eq
    apply mncwfCrc32c_injective (differWithin_slice window _ _)
    rw [← data info member, one.checks info member, ← check, ← two.checks twin twinMember,
      dataToo twin twinMember, offset, stored]
  apply List.ext_getElem?
  intro index
  by_cases inside : index < bytes.length
  · symm
    by_cases low : index < 64
    · exact header index (Nat.zero_le _) low
    · by_cases listed : index < 64 + natAt 4 bytes 20 * 56
      · exact sameIn_of_slice_eq directory index (by omega) listed
      · by_cases padded : index < aligned (64 + natAt 4 bytes 20 * 56)
        · unfold aligned at padded
          omega
        · rcases checkExtents_ok tiled tiledToo (by omega) inside with
            ⟨extent, member, covers⟩ | same
          · rw [List.mem_insertionSort, List.map_map, List.mem_map] at member
            rcases member with ⟨info, section_, rfl⟩
            exact kept info section_ index covers.1 covers.2
          · exact same
  · rw [List.getElem?_eq_none (by omega), List.getElem?_eq_none (by omega)]

/-- Four bytes in a row or fewer are others, or the end is missing, or something follows it. -/
def Damaged (bytes changed : Bytes) : Prop :=
  changed ≠ bytes ∧ (Crc.DifferWithin 4 bytes changed ∨ changed <+: bytes ∨ bytes <+: changed)

theorem same_length {container other : Container} (one : OpenedContainer bytes container)
    (two : OpenedContainer changed other) (same : SameIn bytes changed 0 64) :
    bytes.length = changed.length := by
  rw [← one.isSealed.size, ← two.isSealed.size, natAt, natAt,
    same.slice_eq (Nat.zero_le _) (by omega)]

theorem sameIn_of_prefix {shorter longer : Bytes} (start : shorter <+: longer) {high : Nat}
    (inside : high ≤ shorter.length) : SameIn shorter longer 0 high := by
  rcases start with ⟨rest, rfl⟩
  intro index _ below
  rw [List.getElem?_append_left (by omega)]

/-- The complete reader rejects a damaged file, wherever the damage is. -/
theorem damage_rejected (zstd : Zstd) {contents : Contents}
    (accepted : readFile zstd .complete bytes = .ok contents) (damaged : Damaged bytes changed) :
    ∃ reason, readFile zstd .complete changed = .error reason := by
  rcases damaged with ⟨different, kind⟩
  cases read : readFile zstd .complete changed with
  | error reason => exact ⟨reason, rfl⟩
  | ok others =>
      rcases Loops.bind_ok accepted with ⟨container, opened, -⟩
      rcases Loops.bind_ok read with ⟨other, openedToo, -⟩
      have one := readContainer_ok opened
      have two := readContainer_ok openedToo
      refine absurd ?_ different
      rcases kind with window | cut | longer
      · exact unchanged one two window
      · have header := sameIn_of_prefix cut two.isSealed.whole
        exact cut.eq_of_length (same_length two one header)
      · have header := sameIn_of_prefix longer one.isSealed.whole
        exact (longer.eq_of_length (same_length one two header)).symm

/-- The last byte of its last chunk is another, or the padding behind it is missing. -/
theorem soundFile_damage_rejected :
    (∃ reason, readFile noZstd .complete (soundFile.set 1784 3) = .error reason) ∧
      ∃ reason, readFile noZstd .complete soundFile.dropLast = .error reason := by
  cases accepted : readFile noZstd .complete soundFile with
  | error reason =>
      have sound := soundFile_accepted
      rw [accepted] at sound
      cases sound
  | ok contents =>
      constructor
      · refine damage_rejected noZstd accepted ⟨by decide +kernel, .inl ⟨?_, 1784, ?_⟩⟩
        · exact List.length_set.symm
        · intro index outside
          rw [List.getElem?_set_ne (by omega)]
      · exact damage_rejected noZstd accepted ⟨by decide +kernel, .inr (.inl
          (List.dropLast_prefix soundFile))⟩

end Sections

end Msap1.Mncwf
