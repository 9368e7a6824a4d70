import Msap1.Mncwf.Selection

/-! What an accepted file promises about its samples: the chunks follow one another without gaps,
and the complete reader differs from the one for metadata in the decoded samples alone. -/

namespace Msap1.Mncwf

open ByteCodec ByteLayout

/-- Chunks that cover the frames from one on, each within the data of the section. -/
inductive Tiles (data : Bytes) (itemBytes total : Nat) : Nat → List ChunkInfo → Prop where
  | done : Tiles data itemBytes total total []
  | chunk {first : Nat} {chunk : ChunkInfo} {rest : List ChunkInfo}
      (begins : chunk.firstFrame = first)
      (logical : chunk.logicalBytes = chunk.frameCount * itemBytes)
      (raw : chunk.codec = .raw → chunk.storedBytes = chunk.logicalBytes)
      (inside : chunk.storedOffset + chunk.storedBytes ≤ data.length)
      (later : Tiles data itemBytes total (first + chunk.frameCount) rest) :
      Tiles data itemBytes total first (chunk :: rest)

theorem range_ok {bytes result : Bytes} {offset length : Nat} {label : String}
    (taken : range bytes offset length label = .ok result) :
    offset + length ≤ bytes.length ∧ result = slice bytes offset length := by
  rcases Loops.bind_ok taken with ⟨finish, added, taken⟩
  rcases Loops.bind_ok taken with ⟨⟨⟩, inside, taken⟩
  cases taken
  have bounded := rejectIf_ok inside
  simp only [decide_eq_false_iff_not, not_lt] at bounded
  rw [checkedAdd_ok added] at bounded
  exact ⟨bounded, rfl⟩

theorem readChunks_tiles {zstd : Zstd} {data : Bytes} {itemBytes itemCount count index first
    offset : Nat} {chunks : List ChunkInfo}
    (read : readChunks zstd data itemBytes itemCount count index first offset = .ok chunks) :
    Tiles data itemBytes itemCount first chunks := by
  induction count generalizing index first offset chunks with
  | zero =>
      rcases Loops.bind_ok read with ⟨⟨⟩, covered, read⟩
      cases read
      have whole := rejectIf_ok covered
      simp only [Bool.or_eq_false_iff, bne_eq_false_iff_eq] at whole
      rw [whole.1]
      exact .done
  | succ count ih =>
      rw [readChunks] at read
      generalize parseChunk (slice data (sectionHeaderBytes + index * chunkEntryBytes)
        chunkEntryBytes) = parsed at read
      rcases parsed with ⟨code, chunk⟩
      dsimp only at read
      rcases Loops.bind_ok read with ⟨expected, multiplied, read⟩
      rcases Loops.bind_ok read with ⟨⟨⟩, valid, read⟩
      rcases Loops.bind_ok read with ⟨stored, taken, read⟩
      replace read := Loops.when_ok read
      rcases Loops.bind_ok read with ⟨nextFrame, advanced, read⟩
      rcases Loops.bind_ok read with ⟨chunkEnd, -, read⟩
      rcases Loops.bind_ok read with ⟨nextOffset, -, read⟩
      rcases Loops.bind_ok read with ⟨⟨⟩, -, read⟩
      rcases Loops.bind_ok read with ⟨padding, -, read⟩
      rcases Loops.bind_ok read with ⟨⟨⟩, -, read⟩
      rcases Loops.bind_ok read with ⟨rest, later, read⟩
      cases read
      have plain := rejectIf_ok valid
      simp only [Bool.or_eq_false_iff, bne_eq_false_iff_eq] at plain
      rcases plain with ⟨⟨⟨⟨⟨⟨⟨⟨begins, -⟩, logical⟩, -⟩, -⟩, -⟩, -⟩, -⟩, codec⟩
      rw [checkedAdd_ok advanced] at later
      refine .chunk begins (logical.trans (checkedMultiply_ok multiplied)) ?_ (range_ok taken).1
        (ih later)
      intro raw
      rw [if_pos raw, Bool.or_eq_false_iff, bne_eq_false_iff_eq, bne_eq_false_iff_eq] at codec
      exact codec.2

theorem tiles_holds {data : Bytes} {itemBytes total first : Nat} {chunks : List ChunkInfo}
    (tiles : Tiles data itemBytes total first chunks) {absolute : Nat} (low : first ≤ absolute)
    (high : absolute < total) :
    ∃ chunk ∈ chunks, chunk.firstFrame ≤ absolute ∧
      absolute - chunk.firstFrame < chunk.frameCount := by
  induction tiles with
  | done => omega
  | @chunk first chunk rest begins logical raw inside later ih =>
      by_cases here : absolute < first + chunk.frameCount
      · exact ⟨chunk, List.mem_cons_self, by omega, by omega⟩
      · rcases ih (by omega) with ⟨found, member, holds⟩
        exact ⟨found, List.mem_cons_of_mem chunk member, holds⟩

theorem tiles_member {data : Bytes} {itemBytes total first : Nat} {chunks : List ChunkInfo}
    (tiles : Tiles data itemBytes total first chunks) {chunk : ChunkInfo}
    (member : chunk ∈ chunks) :
    first ≤ chunk.firstFrame ∧ chunk.logicalBytes = chunk.frameCount * itemBytes ∧
      (chunk.codec = .raw → chunk.storedBytes = chunk.logicalBytes) ∧
      chunk.storedOffset + chunk.storedBytes ≤ data.length := by
  induction tiles with
  | done => exact absurd member List.not_mem_nil
  | @chunk first found rest begins logical raw inside later ih =>
      rcases List.mem_cons.mp member with rfl | tail
      · exact ⟨by omega, logical, raw, inside⟩
      · rcases ih tail with ⟨after, facts⟩
        exact ⟨by omega, facts⟩

/-- What `decodeChunk` returns is the stored bytes of a raw chunk, or the content of its frame. -/
theorem decodeChunk_ok {zstd : Zstd} {data logical : Bytes} {chunk : ChunkInfo}
    (decoded : decodeChunk zstd data chunk = .ok logical) :
    (match chunk.codec with
      | .raw => logical = slice data chunk.storedOffset chunk.storedBytes
      | .zstd => zstd.decompress chunk.logicalBytes
          (slice data chunk.storedOffset chunk.storedBytes) = some logical ∧
            logical.length = chunk.logicalBytes) ∧
      mncwfCrc32c logical = chunk.logicalCrc32c := by
  rcases Loops.bind_ok decoded with ⟨stored, taken, decoded⟩
  have source := (range_ok taken).2
  cases codec : chunk.codec with
  | raw =>
      simp only [codec] at decoded
      rcases Loops.bind_ok decoded with ⟨produced, content, decoded⟩
      rcases Loops.bind_ok decoded with ⟨⟨⟩, matching, decoded⟩
      cases content
      cases decoded
      have crc := rejectIf_ok matching
      rw [bne_eq_false_iff_eq] at crc
      exact ⟨source, crc⟩
  | zstd =>
      simp only [codec] at decoded
      rcases Loops.bind_ok decoded with ⟨⟨⟩, -, decoded⟩
      rw [← source]
      split at decoded
      · cases decoded
      · next produced found =>
          rcases Loops.bind_ok decoded with ⟨⟨⟩, sized, decoded⟩
          rcases Loops.bind_ok decoded with ⟨same, content, decoded⟩
          rcases Loops.bind_ok decoded with ⟨⟨⟩, matching, decoded⟩
          cases content
          cases decoded
          have length := rejectIf_ok sized
          have crc := rejectIf_ok matching
          rw [bne_eq_false_iff_eq] at length crc
          exact ⟨⟨found, length⟩, crc⟩

theorem decodeChunk_length {zstd : Zstd} {data logical : Bytes} {chunk : ChunkInfo}
    (raw : chunk.codec = .raw → chunk.storedBytes = chunk.logicalBytes)
    (inside : chunk.storedOffset + chunk.storedBytes ≤ data.length)
    (decoded : decodeChunk zstd data chunk = .ok logical) :
    logical.length = chunk.logicalBytes := by
  have content := (decodeChunk_ok decoded).1
  cases codec : chunk.codec with
  | raw =>
      simp only [codec] at content
      rw [content, length_slice inside, raw codec]
  | zstd =>
      simp only [codec] at content
      exact content.2

theorem joined_frame {zstd : Zstd} {data : Bytes} {itemBytes total first : Nat}
    {chunks : List ChunkInfo} {parts : List Bytes} (tiles : Tiles data itemBytes total first chunks)
    (decoded : chunks.mapM (decodeChunk zstd data) = .ok parts) {absolute : Nat}
    {chunk : ChunkInfo} {content : Bytes} (member : chunk ∈ chunks)
    (decodes : decodeChunk zstd data chunk = .ok content) (low : chunk.firstFrame ≤ absolute)
    (high : absolute - chunk.firstFrame < chunk.frameCount) :
    slice parts.flatten ((absolute - first) * itemBytes) itemBytes =
      slice content ((absolute - chunk.firstFrame) * itemBytes) itemBytes := by
  induction tiles generalizing parts with
  | done => exact absurd member List.not_mem_nil
  | @chunk first head rest begins logical raw inside later ih =>
      rw [List.mapM_cons] at decoded
      rcases Loops.bind_ok decoded with ⟨part, leading, decoded⟩
      rcases Loops.bind_ok decoded with ⟨others, remaining, decoded⟩
      cases decoded
      have size := decodeChunk_length raw inside leading
      rw [logical] at size
      rw [List.flatten_cons]
      rcases List.mem_cons.mp member with rfl | tail
      · have same : part = content := Except.ok.inj (leading.symm.trans decodes)
        have within : (absolute - chunk.firstFrame) * itemBytes + itemBytes ≤ part.length := by
          rw [size, ← Nat.succ_mul]
          exact Nat.mul_le_mul_right itemBytes high
        rw [← begins, slice_append_left within, same]
      · have after := (tiles_member later tail).1
        have apart : (absolute - first) * itemBytes =
            part.length + (absolute - (first + head.frameCount)) * itemBytes := by
          rw [size, ← Nat.add_mul]
          congr 1
          omega
        rw [apart, slice_append_right]
        exact ih remaining tail

theorem parseSectionEnvelope_records {info : SectionInfo} {expected minimum maximum : Nat}
    {allowBlob : Bool} {parsed : ParsedSection}
    (read : parseSectionEnvelope info expected minimum maximum allowBlob = .ok parsed) :
    minimum ≤ info.itemCount ∧
      sectionHeaderBytes + info.itemCount * info.itemBytes ≤ info.data.length ∧
      parsed.records = slice info.data sectionHeaderBytes (info.itemCount * info.itemBytes) := by
  rcases Loops.bind_ok read with ⟨⟨⟩, -, read⟩
  rcases Loops.bind_ok read with ⟨⟨⟩, -, read⟩
  rcases Loops.bind_ok read with ⟨⟨⟩, geometry, read⟩
  rcases Loops.bind_ok read with ⟨⟨⟩, -, read⟩
  rcases Loops.bind_ok read with ⟨⟨⟩, -, read⟩
  rcases Loops.bind_ok read with ⟨recordsBytes, multiplied, read⟩
  rcases Loops.bind_ok read with ⟨recordsEnd, -, read⟩
  have bounds := rejectIf_ok geometry
  simp only [Bool.or_eq_false_iff, decide_eq_false_iff_not, not_lt] at bounds
  have taken : ∃ records label, range info.data sectionHeaderBytes recordsBytes label =
      .ok records ∧ parsed.records = records := by
    dsimp only at read
    split at read
    · rcases Loops.bind_ok read with ⟨⟨⟩, -, read⟩
      rcases Loops.bind_ok read with ⟨records, taken, read⟩
      cases read
      exact ⟨records, _, taken, rfl⟩
    · rcases Loops.bind_ok read with ⟨expectedOffset, -, read⟩
      rcases Loops.bind_ok read with ⟨blobEnd, -, read⟩
      rcases Loops.bind_ok read with ⟨⟨⟩, -, read⟩
      rcases Loops.bind_ok read with ⟨padding, -, read⟩
      rcases Loops.bind_ok read with ⟨⟨⟩, -, read⟩
      rcases Loops.bind_ok read with ⟨records, taken, read⟩
      rcases Loops.bind_ok read with ⟨blob, -, read⟩
      cases read
      exact ⟨records, _, taken, rfl⟩
  rcases taken with ⟨records, label, taken, same⟩
  rw [checkedMultiply_ok multiplied] at taken
  exact ⟨bounds.1.2, (range_ok taken).1, same.trans (range_ok taken).2⟩

/-- Whole bytes, and no more than fit a 64-bit word. -/
def Storable (channel : MncwfV4ChannelDefinition) : Prop :=
  0 < channel.storageBits.toNat ∧ channel.storageBits.toNat ≤ 64 ∧
    8 * (channel.storageBits.toNat / 8) = channel.storageBits.toNat

theorem checkChannel_storable {before : List MncwfV4ChannelDefinition}
    {channel : MncwfV4ChannelDefinition} {reserved : Bool} {done : Unit}
    (checked : checkChannel before channel reserved = .ok done) : Storable channel := by
  rcases Loops.bind_ok checked with ⟨⟨⟩, valid, -⟩
  have plain := rejectIf_ok valid
  simp only [Bool.or_eq_false_iff] at plain
  have zero := plain.1.1.1.1.1.1.1.2
  have wide := plain.1.1.1.1.1.1.2
  have whole := plain.1.1.1.1.1.2
  rw [beq_eq_false_iff_ne] at zero
  rw [decide_eq_false_iff_not, gt_iff_lt, UInt16.lt_iff_toNat_lt, not_lt] at wide
  rw [bne_eq_false_iff_eq, ← UInt16.toNat_inj, UInt16.toNat_mod] at whole
  have positive : channel.storageBits.toNat ≠ 0 := by
    intro nothing
    exact zero (UInt16.toNat_inj.mp nothing)
  have bits : (64 : UInt16).toNat = 64 := rfl
  have eight : (8 : UInt16).toNat = 8 := rfl
  have none : (0 : UInt16).toNat = 0 := rfl
  rw [bits] at wide
  rw [eight, none] at whole
  exact ⟨by omega, wide, by omega⟩

theorem readChannels_storable {records blob : Bytes} {count index : Nat}
    {before channels : List MncwfV4ChannelDefinition}
    (read : readChannels records blob count index before = .ok channels) :
    channels.length = count ∧ ∀ channel ∈ channels, Storable channel := by
  induction count generalizing index before channels with
  | zero =>
      cases read
      exact ⟨rfl, fun _ member => absurd member List.not_mem_nil⟩
  | succ count ih =>
      rcases Loops.bind_ok read with ⟨channel, -, read⟩
      rcases Loops.bind_ok read with ⟨⟨⟩, checked, read⟩
      rcases Loops.bind_ok read with ⟨rest, later, read⟩
      cases read
      rcases ih later with ⟨length, storable⟩
      refine ⟨congrArg Nat.succ length, ?_⟩
      intro other member
      rcases List.mem_cons.mp member with rfl | tail
      · exact checkChannel_storable checked
      · exact storable other tail

/-- What a reader that accepted a file knows about its samples and the section that holds them. -/
structure SampleFacts (zstd : Zstd) (mode : ValidationMode) (contents : Contents)
    (info : SectionInfo) : Prop where
  found : contents.sections.find? (fun info => info.type == SectionType.sampleData) = some info
  count : contents.sampleFrameCount = info.itemCount
  size : contents.sampleFrameBytes = info.itemBytes
  frame : contents.sampleFrameBytes = frameBytes contents.channels
  channels : contents.channels ≠ []
  storable : ∀ channel ∈ contents.channels, Storable channel
  segments : ∀ segment ∈ contents.timebaseSegments,
    SegmentInside contents.sampleFrameCount segment
  records : contents.version = v4Version →
    contents.sampleChunks = [] ∧
      sectionHeaderBytes + info.itemCount * info.itemBytes ≤ info.data.length ∧
      (mode = .complete → contents.sampleData =
        slice info.data sectionHeaderBytes (info.itemCount * info.itemBytes))
  tiles : contents.version ≠ v4Version →
    Tiles info.data info.itemBytes info.itemCount 0 contents.sampleChunks ∧
      (mode = .complete → ∃ parts,
        contents.sampleChunks.mapM (decodeChunk zstd info.data) = .ok parts ∧
          contents.sampleData = parts.flatten)

theorem readV5Samples_ok {zstd : Zstd} {mode : ValidationMode} {info : SectionInfo}
    {samples : List ChunkInfo × Bytes} (read : readV5Samples zstd mode info = .ok samples) :
    Tiles info.data info.itemBytes info.itemCount 0 samples.1 ∧
      (mode = .complete → ∃ parts,
        samples.1.mapM (decodeChunk zstd info.data) = .ok parts ∧ samples.2 = parts.flatten) := by
  rcases Loops.bind_ok read with ⟨⟨⟩, -, read⟩
  rcases Loops.bind_ok read with ⟨⟨⟩, -, read⟩
  rcases Loops.bind_ok read with ⟨⟨⟩, -, read⟩
  rcases Loops.bind_ok read with ⟨⟨⟩, -, read⟩
  rcases Loops.bind_ok read with ⟨tableEnd, -, read⟩
  rcases Loops.bind_ok read with ⟨table, -, read⟩
  rcases Loops.bind_ok read with ⟨firstOffset, -, read⟩
  rcases Loops.bind_ok read with ⟨chunks, tiled, read⟩
  split at read
  · rcases Loops.bind_ok read with ⟨parts, decoded, read⟩
    cases read
    exact ⟨readChunks_tiles tiled, fun _ => ⟨parts, decoded, rfl⟩⟩
  · next partly =>
      cases read
      exact ⟨readChunks_tiles tiled, fun complete => absurd complete partly⟩

theorem findSection_ok {sections : List SectionInfo} {type : Nat} {info : SectionInfo}
    (looked : findSection sections type = .ok info) :
    sections.find? (fun info => info.type == type) = some info := by
  unfold findSection at looked
  split at looked
  · cases looked
  · next found =>
      cases looked
      exact found

theorem readContents_samples {zstd : Zstd} {mode : ValidationMode} {container : Container}
    {contents : Contents} (read : readContents zstd mode container = .ok contents) :
    contents.version = container.header.version ∧
      ∃ info, SampleFacts zstd mode contents info := by
  rcases Loops.bind_ok read with ⟨captureInfo, -, read⟩
  rcases Loops.bind_ok read with ⟨captureSection, -, read⟩
  rcases Loops.bind_ok read with ⟨captureMetadata, -, read⟩
  rcases Loops.bind_ok read with ⟨timeInfo, -, read⟩
  rcases Loops.bind_ok read with ⟨timeSection, -, read⟩
  rcases Loops.bind_ok read with ⟨coveredFrames, segments, read⟩
  rcases Loops.bind_ok read with ⟨channelInfo, -, read⟩
  rcases Loops.bind_ok read with ⟨channelSection, envelope, read⟩
  rcases Loops.bind_ok read with ⟨channels, defined, read⟩
  rcases Loops.bind_ok read with ⟨eventInfo, -, read⟩
  rcases Loops.bind_ok read with ⟨eventSection, -, read⟩
  rcases Loops.bind_ok read with ⟨events, -, read⟩
  rcases Loops.bind_ok read with ⟨qualityInfo, -, read⟩
  rcases Loops.bind_ok read with ⟨qualitySection, -, read⟩
  rcases Loops.bind_ok read with ⟨qualityIntervals, -, read⟩
  rcases Loops.bind_ok read with ⟨lineageInfo, -, read⟩
  rcases Loops.bind_ok read with ⟨lineageSection, -, read⟩
  rcases Loops.bind_ok read with ⟨lineage, -, read⟩
  rcases Loops.bind_ok read with ⟨sampleInfo, looked, read⟩
  rcases Loops.bind_ok read with ⟨⟨⟩, sized, read⟩
  have size := rejectIf_ok sized
  rw [Bool.or_eq_false_iff, bne_eq_false_iff_eq] at size
  rcases readChannels_storable defined with ⟨length, storable⟩
  have several := (parseSectionEnvelope_records envelope).1
  have some : channels ≠ [] := by
    intro nothing
    rw [nothing] at length
    rw [← length] at several
    exact absurd several (by decide)
  have inside := (checkSegments_ok segments).2
  split at read
  · next old =>
      rcases Loops.bind_ok read with ⟨sampleSection, records, read⟩
      rcases Loops.bind_ok read with ⟨samples, taken, read⟩
      rcases Loops.bind_ok read with ⟨⟨⟩, covering, read⟩
      rcases Loops.bind_ok read with ⟨⟨⟩, -, read⟩
      rcases Loops.bind_ok read with ⟨⟨⟩, -, read⟩
      cases read
      cases taken
      have covered := rejectIf_ok covering
      rw [bne_eq_false_iff_eq] at covered
      rw [covered] at inside
      rcases parseSectionEnvelope_records records with ⟨-, within, whole⟩
      refine ⟨rfl, sampleInfo, ⟨findSection_ok looked, rfl, rfl, size.2, some, storable, inside,
        fun _ => ⟨rfl, within, ?_⟩, fun newer => absurd old newer⟩⟩
      intro complete
      exact (if_pos complete).trans whole
  · next newer =>
      rcases Loops.bind_ok read with ⟨samples, taken, read⟩
      rcases Loops.bind_ok read with ⟨⟨⟩, covering, read⟩
      rcases Loops.bind_ok read with ⟨⟨⟩, -, read⟩
      rcases Loops.bind_ok read with ⟨⟨⟩, -, read⟩
      cases read
      have covered := rejectIf_ok covering
      rw [bne_eq_false_iff_eq] at covered
      rw [covered] at inside
      exact ⟨rfl, sampleInfo, ⟨findSection_ok looked, rfl, rfl, size.2, some, storable, inside,
        fun old => absurd old newer, fun _ => readV5Samples_ok taken⟩⟩

end Msap1.Mncwf
