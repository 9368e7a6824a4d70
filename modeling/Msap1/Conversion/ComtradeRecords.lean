import Msap1.Conversion.ComtradeExact

/-! The records of a DAT part, read back, and how they depend on the source. -/

namespace Msap1.Conversion

open ByteCodec Rounding

/-- A BINARY32 record. -/
structure DatRecord where
  sampleNumber : UInt32
  timestamp : UInt32
  samples : List Int32
  digital : List UInt16
  deriving DecidableEq, Repr

def i32 : Reader Int32 := do
  let value ← u32
  pure value.toInt32

def readRecord (channels words : Nat) : Reader DatRecord := do
  let sampleNumber ← u32
  let timestamp ← u32
  let samples ← many i32 channels
  let digital ← many u16 words
  pure { sampleNumber, timestamp, samples, digital }

def decodeDat (channels words records : Nat) (dat : Bytes) : Option (List DatRecord) :=
  finished (many (readRecord channels words) records) dat

def DatRecord.active (record : DatRecord) (index : Nat) : Bool :=
  (record.digital.getD (index / 16) 0).toNat.testBit (index % 16)

/-- What the record of a frame is made of. -/
structure FrameFacts (metadata : WaveformMetadata) (start : BigRational) (tick frame : Nat)
    (row : List Int64) (record : DatRecord) : Prop where
  number : record.sampleNumber.toNat = frame + 1
  time : ∃ utc, utcForFrame metadata frame = .ok utc ∧
    NearestEven ((subtract utc start).value / tick) record.timestamp.toNat
  samples : record.samples.map Int32.toInt = row.map Int64.toInt
  digital : ∃ range, sequenceRangeForFrame metadata frame = .ok range ∧
    record.digital =
      (List.range (digitalWords metadata)).map (digitalWord metadata range.1 range.2)

section Records

theorem reads_i32 (field : Int32) : Reads i32 (writeU32 field.toUInt32) field :=
  reads_map (reads_u32 field.toUInt32) (by simp)

theorem sampleWord_ok {value : Int64} {word : Int32} (taken : sampleWord value = .ok word) :
    word.toInt = value.toInt := by
  unfold sampleWord at taken
  split at taken
  · cases taken
  · next inside =>
      push Not at inside
      cases taken
      rw [Int32.toInt_ofInt]
      exact Int.bmod_eq_of_le (by norm_num; omega) (by norm_num; omega)

theorem sampleWords_ok {row : List Int64} {words : List Int32}
    (taken : row.mapM sampleWord = .ok words) :
    words.length = row.length ∧ words.map Int32.toInt = row.map Int64.toInt := by
  induction row generalizing words with
  | nil =>
      cases taken
      exact ⟨rfl, rfl⟩
  | cons value row ih =>
      rw [List.mapM_cons] at taken
      rcases Loops.bind_ok taken with ⟨word, first, taken⟩
      rcases Loops.bind_ok taken with ⟨rest, remaining, taken⟩
      cases taken
      rcases ih remaining with ⟨length, same⟩
      exact ⟨congrArg Nat.succ length,
        by rw [List.map_cons, List.map_cons, sampleWord_ok first, same]⟩

theorem frameRecord_ok {metadata : WaveformMetadata} {start : BigRational} {tick frame : Nat}
    {row : List Int64} {bytes : Bytes}
    (written : frameRecord metadata start tick frame row = .ok bytes) :
    ∃ record, Reads (readRecord row.length (digitalWords metadata)) bytes record ∧
      FrameFacts metadata start tick frame row record := by
  rcases Loops.bind_ok written with ⟨⟨⟩, numbered, written⟩
  rcases Loops.bind_ok written with ⟨utc, timed, written⟩
  rcases Loops.bind_ok written with ⟨ticks, rounded, written⟩
  rcases Loops.bind_ok written with ⟨⟨⟩, fits, written⟩
  rcases Loops.bind_ok written with ⟨samples, taken, written⟩
  rcases Loops.bind_ok written with ⟨range, ranged, written⟩
  cases written
  rcases sampleWords_ok taken with ⟨length, same⟩
  have number := failIf_ok numbered
  have small := failIf_ok fits
  rw [decide_eq_false_iff_not, not_lt, uint32Max] at number small
  have nearest := roundHalfEven_ok rounded
  rw [scaled_value] at nearest
  let words := (List.range (digitalWords metadata)).map (digitalWord metadata range.1 range.2)
  refine ⟨⟨UInt32.ofNat (frame + 1), UInt32.ofNat ticks, samples, words⟩, ?_, ?_⟩
  · rw [← length]
    have count : words.length = digitalWords metadata := by
      rw [List.length_map, List.length_range]
    have encoded : ((List.range (digitalWords metadata)).map fun word =>
        writeU16 (digitalWord metadata range.1 range.2 word)) = words.map writeU16 := by
      rw [List.map_map]
      rfl
    rw [encoded, ← count]
    refine reads_next (reads_u32 _) ?_
    refine reads_next (reads_u32 _) ?_
    refine reads_next (reads_many fun sample _ => reads_i32 sample) ?_
    exact reads_last (reads_map (reads_many fun word _ => reads_u16 word) rfl)
  · refine ⟨?_, ⟨utc, timed, ?_⟩, same, ⟨range, ranged, rfl⟩⟩
    · rw [UInt32.toNat_ofNat']
      exact Nat.mod_eq_of_lt (by omega)
    · have whole : (UInt32.ofNat ticks).toNat = ticks := by
        rw [UInt32.toNat_ofNat']
        exact Nat.mod_eq_of_lt (by omega)
      rw [whole]
      exact nearest

theorem records_ok {source : WaveformSource} {start : BigRational} {tick : Nat}
    {frames : List Nat} {parts : List Bytes}
    (written : frames.mapM (fun frame =>
      frameRecord source.metadata start tick frame (source.samples frame)) = .ok parts) :
    ∃ records, Reads (many (readRecord source.channelCount (digitalWords source.metadata))
        frames.length) parts.flatten records ∧
      List.Forall₂ (fun frame record =>
        FrameFacts source.metadata start tick frame (source.samples frame) record)
        frames records := by
  induction frames generalizing parts with
  | nil =>
      cases written
      exact ⟨[], reads_pure, .nil⟩
  | cons frame frames ih =>
      rw [List.mapM_cons] at written
      rcases Loops.bind_ok written with ⟨part, first, written⟩
      rcases Loops.bind_ok written with ⟨rest, remaining, written⟩
      cases written
      rcases frameRecord_ok first with ⟨record, read, facts⟩
      rcases ih remaining with ⟨records, reads, each⟩
      rw [source.width] at read
      exact ⟨record :: records, reads_next read (reads_map reads rfl), .cons facts each⟩

end Records

section Batches

theorem batch_records {source : WaveformSource} {compute : Nat → List Int64 → Checked Bytes}
    (base count position : Nat) :
    (((List.range' (base + position) count).map source.samples).zipIdx position).mapM
        (fun (row, position) => compute (base + position) row) =
      (List.range' (base + position) count).mapM fun frame =>
        compute frame (source.samples frame) := by
  induction count generalizing position with
  | zero => rfl
  | succ count ih =>
      rw [List.range'_succ, List.map_cons, List.zipIdx_cons, List.mapM_cons, List.mapM_cons]
      have rest := ih (position + 1)
      rw [← Nat.add_assoc] at rest
      rw [rest]

theorem convertBatches_ok {source : WaveformSource} {sink : OutputSink}
    {stopRequested : Nat → Bool} {start : BigRational} {tick batch rounds check processed : Nat}
    {written all : Bytes} (behind : source.frameCount ≤ processed + rounds)
    (inside : processed ≤ source.frameCount)
    (converted : convertBatches source sink stopRequested start tick batch rounds check processed
      written = .ok all) :
    ∃ parts, (List.range' processed (source.frameCount - processed)).mapM (fun frame =>
        frameRecord source.metadata start tick frame (source.samples frame)) = .ok parts ∧
      all = written ++ parts.flatten := by
  induction rounds generalizing check processed written with
  | zero =>
      cases converted
      rw [show source.frameCount - processed = 0 by omega]
      exact ⟨[], rfl, (List.append_nil _).symm⟩
  | succ rounds ih =>
      rw [convertBatches] at converted
      split at converted
      · next more =>
          rcases Loops.bind_ok converted with ⟨⟨⟩, -, converted⟩
          rcases Loops.bind_ok converted with ⟨rows, read, converted⟩
          rcases Loops.bind_ok converted with ⟨⟨⟩, counted, converted⟩
          rcases Loops.bind_ok converted with ⟨parts, recorded, converted⟩
          rcases Loops.bind_ok converted with ⟨longer, appended, converted⟩
          have sizes := failIf_ok counted
          rw [Bool.or_eq_false_iff, beq_eq_false_iff_ne, decide_eq_false_iff_not, not_lt] at sizes
          have rowsEqual := source.reads processed _ rows read
          have batched := @batch_records source
            (frameRecord source.metadata start tick) processed rows.length 0
          rw [Nat.add_zero, ← rowsEqual] at batched
          rw [batched] at recorded
          rcases ih (by omega) (by omega) converted with ⟨later, remaining, whole⟩
          have split : List.range' processed (source.frameCount - processed) =
              List.range' processed rows.length ++
                List.range' (processed + rows.length)
                  (source.frameCount - (processed + rows.length)) := by
            rw [List.range'_append_1]
            congr 1
            omega
          refine ⟨parts ++ later, ?_, ?_⟩
          · rw [split, List.mapM_append, recorded, remaining]
            rfl
          · unfold OutputSink.write at appended
            split at appended
            · cases appended
            · cases appended
              rw [whole, List.flatten_append, List.append_assoc]
      · next done =>
          cases converted
          rw [show source.frameCount - processed = 0 by omega]
          exact ⟨[], rfl, (List.append_nil _).symm⟩

end Batches

end Msap1.Conversion
