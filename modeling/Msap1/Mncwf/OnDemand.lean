import Msap1.Mncwf.Samples
import Msap1.Mncwf.WaveformSource

/-! Frames that are read on demand. The buffer of a source holds one decoded chunk, which its tag
names; a decode that fails leaves other bytes under the tag. -/

namespace Msap1.Mncwf

open ByteCodec ByteLayout

/-- The bytes of a frame, cut at the widths of the channels. -/
def splitChannels : List MncwfV4ChannelDefinition → Bytes → List Bytes
  | [], _ => []
  | channel :: channels, frame =>
      let width := channel.storageBits.toNat / 8
      frame.take width :: splitChannels channels (frame.drop width)

def frameRow (channels : List MncwfV4ChannelDefinition) (frame : Bytes) : List Int :=
  (splitChannels channels frame).map signedValue

section Layout

def offsetsFrom : Nat → List MncwfV4ChannelDefinition → List Nat
  | _, [] => []
  | offset, channel :: channels =>
      offset :: offsetsFrom (offset + channel.storageBits.toNat / 8) channels

theorem channelLayout_from (channels : List MncwfV4ChannelDefinition) (offsets : List Nat)
    (offset : Nat) :
    channels.foldl (fun (offsets, offset) channel =>
        (offsets ++ [offset], offset + channel.storageBits.toNat / 8)) (offsets, offset) =
      (offsets ++ offsetsFrom offset channels, offset + frameBytes channels) := by
  induction channels generalizing offsets offset with
  | nil => simp [offsetsFrom, frameBytes]
  | cons channel channels ih =>
      rw [List.foldl_cons, ih]
      simp [offsetsFrom, frameBytes, Nat.add_assoc]

theorem channelLayout_eq (channels : List MncwfV4ChannelDefinition) :
    channelLayout channels = (offsetsFrom 0 channels, frameBytes channels) := by
  rw [channelLayout, channelLayout_from, List.nil_append, Nat.zero_add]

theorem decodeSigned_channel {channel : MncwfV4ChannelDefinition} (storable : Storable channel)
    {bytes : Bytes} (length : bytes.length = channel.storageBits.toNat / 8) :
    (decodeSigned bytes channel.storageBits).toInt = signedValue bytes := by
  rcases storable with ⟨positive, most, whole⟩
  apply decodeSigned_toInt
  · rw [length, whole]
  · exact positive
  · exact most

theorem decoded_row {channels : List MncwfV4ChannelDefinition} {frame : Bytes} {offset : Nat}
    (storable : ∀ channel ∈ channels, Storable channel)
    (length : frame.length = offset + frameBytes channels) :
    (List.zipWith (fun channel offset =>
        decodeSigned (slice frame offset (channel.storageBits.toNat / 8)) channel.storageBits)
      channels (offsetsFrom offset channels)).map Int64.toInt =
      frameRow channels (frame.drop offset) := by
  induction channels generalizing offset with
  | nil => rfl
  | cons channel channels ih =>
      have total : frameBytes (channel :: channels) =
          channel.storageBits.toNat / 8 + frameBytes channels := by
        simp [frameBytes]
      rw [total] at length
      have here : (slice frame offset (channel.storageBits.toNat / 8)).length =
          channel.storageBits.toNat / 8 := length_slice (by omega)
      have first := decodeSigned_channel (storable channel List.mem_cons_self) here
      have rest := ih (fun other member => storable other (List.mem_cons_of_mem channel member))
        (show frame.length = offset + channel.storageBits.toNat / 8 + frameBytes channels by omega)
      rw [offsetsFrom, List.zipWith_cons_cons, List.map_cons, first, rest, ← List.drop_drop]
      rfl

end Layout

/-- A source, and the file that it was opened on. -/
structure Opened (zstd : Zstd) (bytes : Bytes) (source : WaveformSource) (info : SectionInfo) :
    Prop where
  read : readFile zstd (validationMode bytes) bytes = .ok source.contents
  complete : source.contents.version = v4Version → validationMode bytes = .complete
  facts : SampleFacts zstd (validationMode bytes) source.contents info
  samples : source.sampleSection = info.data
  offsets : source.channelOffsets = offsetsFrom 0 source.contents.channels
  inside : source.sourceFirstFrame + source.frameCount ≤ source.contents.sampleFrameCount

theorem readContainer_version {mode : ValidationMode} {bytes : Bytes} {container : Container}
    (read : readContainer mode bytes = .ok container) :
    container.header.version = natAt 4 bytes 8 := by
  rcases Loops.bind_ok read with ⟨header, headed, read⟩
  rcases Loops.bind_ok headed with ⟨⟨⟩, -, headed⟩
  rcases Loops.bind_ok headed with ⟨⟨⟩, -, headed⟩
  rcases Loops.bind_ok headed with ⟨⟨⟩, -, headed⟩
  rcases Loops.bind_ok headed with ⟨⟨⟩, -, headed⟩
  rcases Loops.bind_ok headed with ⟨⟨⟩, -, headed⟩
  rcases Loops.bind_ok headed with ⟨⟨⟩, -, headed⟩
  rcases Loops.bind_ok headed with ⟨⟨⟩, -, headed⟩
  rcases Loops.bind_ok headed with ⟨expected, -, headed⟩
  rcases Loops.bind_ok headed with ⟨⟨⟩, -, headed⟩
  rcases Loops.bind_ok headed with ⟨⟨⟩, -, headed⟩
  cases headed
  rcases Loops.bind_ok read with ⟨directory, -, read⟩
  rcases Loops.bind_ok read with ⟨⟨⟩, -, read⟩
  rcases Loops.bind_ok read with ⟨sections, -, read⟩
  rcases Loops.bind_ok read with ⟨extents, -, read⟩
  rcases Loops.bind_ok read with ⟨directoryEnd, -, read⟩
  rcases Loops.bind_ok read with ⟨first, -, read⟩
  rcases Loops.bind_ok read with ⟨⟨⟩, -, read⟩
  rcases Loops.bind_ok read with ⟨⟨⟩, -, read⟩
  cases read
  rfl

theorem readFile_samples {zstd : Zstd} {mode : ValidationMode} {bytes : Bytes}
    {contents : Contents} (read : readFile zstd mode bytes = .ok contents) :
    contents.version = natAt 4 bytes 8 ∧ ∃ info, SampleFacts zstd mode contents info := by
  rcases Loops.bind_ok read with ⟨container, contained, read⟩
  rcases readContents_samples read with ⟨version, facts⟩
  exact ⟨version.trans (readContainer_version contained), facts⟩

theorem selectFrames_inside {contents : Contents} {scope : ExportScope} {rest : Checked Unit}
    {frames : Nat × Nat} (inside : ∀ segment ∈ contents.timebaseSegments,
      SegmentInside contents.sampleFrameCount segment)
    (selected : selectFrames contents scope rest = .ok frames) :
    frames.1 + frames.2 ≤ contents.sampleFrameCount := by
  cases scope with
  | capture =>
      have whole : frames = (0, contents.sampleFrameCount) := by
        change captureFrames contents = .ok frames at selected
        unfold captureFrames at selected
        split at selected
        · exact (Except.ok.inj selected).symm
        · split at selected
          · cases selected
          · exact (Except.ok.inj selected).symm
      rw [whole]
      omega
  | event uuid =>
      cases uuid with
      | none => cases selected
      | some uuid =>
          rcases Loops.bind_ok (Loops.mapError_ok selected) with ⟨found, counted, selected⟩
          rcases Loops.bind_ok selected with ⟨⟨⟩, -, selected⟩
          cases selected
          exact eventFrames_inside inside counted

theorem openSource_ok {zstd : Zstd} {bytes : Bytes} {format : ExportFormat} {scope : ExportScope}
    {rest : Checked Unit} {source : WaveformSource}
    (opened : openSource zstd bytes format scope rest = .ok source) :
    ∃ info, Opened zstd bytes source info := by
  unfold openSource at opened
  dsimp only at opened
  rcases Loops.unless_ok opened with ⟨-, opened⟩
  rcases Loops.unless_ok opened with ⟨-, opened⟩
  rcases Loops.bind_ok opened with ⟨contents, read, opened⟩
  rcases Loops.bind_ok opened with ⟨frames, selected, opened⟩
  rcases Loops.unless_ok opened with ⟨-, opened⟩
  split at opened
  · cases opened
  · next sample found =>
      rcases Loops.unless_ok opened with ⟨-, opened⟩
      rcases Loops.unless_ok opened with ⟨-, opened⟩
      cases opened
      have accepted := Loops.mapError_ok read
      rcases readFile_samples accepted with ⟨version, info, facts⟩
      have same : info = sample := Option.some.inj (facts.found.symm.trans found)
      refine ⟨info, ⟨accepted, ?_, facts, congrArg SectionInfo.data same.symm, ?_, ?_⟩⟩
      · intro old
        have field : natAt 4 bytes 8 = v4Version := version.symm.trans old
        unfold validationMode
        split
        · rfl
        · rw [field]
          rfl
      · exact congrArg Prod.fst (channelLayout_eq contents.channels)
      · exact selectFrames_inside facts.segments selected

/-- The samples of a chunk, decoded from the file; `none` if they do not decode. -/
def chunkContent (zstd : Zstd) (data : Bytes) (chunk : ChunkInfo) : Option Bytes :=
  let stored := slice data chunk.storedOffset chunk.storedBytes
  let content := match chunk.codec with
    | .raw => some stored
    | .zstd => (zstd.decompress chunk.logicalBytes stored).filter fun produced =>
        produced.length = chunk.logicalBytes
  content.filter fun samples => mncwfCrc32c samples = chunk.logicalCrc32c

/-- A frame of the file, taken from the decoded content of the chunk that holds it. -/
def OwnFrame (zstd : Zstd) (source : WaveformSource) (absolute : Nat) (frame : Bytes) : Prop :=
  let size := source.contents.sampleFrameBytes
  if source.contents.version = v4Version then
    frame = slice source.sampleSection (sectionHeaderBytes + absolute * size) size
  else
    ∃ chunk ∈ source.contents.sampleChunks, Holds absolute chunk ∧
      ∃ content, chunkContent zstd source.sampleSection chunk = some content ∧
        frame = slice content ((absolute - chunk.firstFrame) * size) size

/-- The buffer holds the content of the chunk that its tag names. -/
def Intact (zstd : Zstd) (source : WaveformSource) (state : ChunkCache) : Prop :=
  ∀ index chunk, state.cachedChunk = some index →
    source.contents.sampleChunks[index]? = some chunk →
    chunkContent zstd source.sampleSection chunk = some state.cache

/-- The same, as far as one frame is concerned. -/
def IntactAt (zstd : Zstd) (source : WaveformSource) (absolute : Nat) (state : ChunkCache) :
    Prop :=
  ∀ index chunk, state.cachedChunk = some index →
    source.contents.sampleChunks[index]? = some chunk →
    Holds absolute chunk → chunkContent zstd source.sampleSection chunk = some state.cache

def decodeError (error : SourceError) : Bool :=
  error = decompressionFailed || error = logicalMismatch

/-- The chunk that a frame is looked up in, by its index. -/
def chunkIndex (source : WaveformSource) (absolute : Nat) : Option Nat :=
  (source.contents.sampleChunks.zipIdx.find? fun entry => Holds absolute entry.1).map Prod.snd

section Cache

variable {zstd : Zstd} {leftover : Bytes → Bytes → Bytes} {bytes : Bytes} {source : WaveformSource}
  {info : SectionInfo}

theorem length_resize (buffer : Bytes) (size : Nat) : (resize buffer size).length = size := by
  rw [resize, List.length_append, List.length_take, zeros, List.length_replicate]
  omega

theorem overwrite_whole {buffer written : Bytes} (length : written.length = buffer.length) :
    overwrite buffer written = written := by
  rw [overwrite, length, List.drop_length, List.append_nil]

theorem loadChunk_cases (opened : Opened zstd bytes source info)
    (newer : source.contents.version ≠ v4Version) {chunk : ChunkInfo}
    (member : chunk ∈ source.contents.sampleChunks) (buffer : Bytes) :
    (∃ content, chunkContent zstd source.sampleSection chunk = some content ∧
        source.loadChunk zstd leftover chunk buffer = (none, content)) ∨
      chunkContent zstd source.sampleSection chunk = none ∧
        ∃ error left, source.loadChunk zstd leftover chunk buffer = (some error, left) ∧
          decodeError error = true := by
  rcases tiles_member (opened.facts.tiles newer).1 member with ⟨-, -, raw, inside⟩
  rw [← opened.samples] at inside
  unfold chunkContent WaveformSource.loadChunk
  cases codec : chunk.codec with
  | raw =>
      have whole : (slice source.sampleSection chunk.storedOffset chunk.storedBytes).length =
          (resize buffer chunk.logicalBytes).length := by
        rw [length_slice inside, length_resize, raw codec]
      simp only [overwrite_whole whole]
      by_cases matching : mncwfCrc32c (slice source.sampleSection chunk.storedOffset
          chunk.storedBytes) = chunk.logicalCrc32c
      · left
        exact ⟨slice source.sampleSection chunk.storedOffset chunk.storedBytes,
          by simp [matching], by simp [matching]⟩
      · right
        exact ⟨by simp [matching], logicalMismatch, _, by simp [matching]; rfl, rfl⟩
  | zstd =>
      cases produced : zstd.decompress chunk.logicalBytes
          (slice source.sampleSection chunk.storedOffset chunk.storedBytes) with
      | none =>
          right
          exact ⟨by simp [produced], decompressionFailed, _, by simp [produced]; rfl, rfl⟩
      | some content =>
          by_cases sized : content.length = chunk.logicalBytes
          · by_cases matching : mncwfCrc32c content = chunk.logicalCrc32c
            · left
              exact ⟨content, by simp [produced, sized, matching],
                by simp [produced, sized, matching, length_resize]⟩
            · right
              exact ⟨by simp [produced, sized, matching], logicalMismatch, content,
                by simp [produced, sized, matching, length_resize], rfl⟩
          · right
            exact ⟨by simp [produced, sized], decompressionFailed, _,
              by simp [produced, sized, length_resize]; rfl, rfl⟩

theorem chunkContent_length (opened : Opened zstd bytes source info)
    (newer : source.contents.version ≠ v4Version) {chunk : ChunkInfo} {content : Bytes}
    (member : chunk ∈ source.contents.sampleChunks)
    (decoded : chunkContent zstd source.sampleSection chunk = some content) :
    content.length = chunk.frameCount * source.contents.sampleFrameBytes := by
  rcases tiles_member (opened.facts.tiles newer).1 member with ⟨-, logical, raw, inside⟩
  rw [← opened.samples] at inside
  rw [opened.facts.size, ← logical]
  rcases Option.filter_eq_some_iff.mp decoded with ⟨decoded, -⟩
  cases codec : chunk.codec with
  | raw =>
      simp only [codec, Option.some.injEq] at decoded
      rw [← decoded, length_slice inside, raw codec]
  | zstd =>
      simp only [codec] at decoded
      exact of_decide_eq_true (Option.filter_eq_some_iff.mp decoded).2

theorem lookup_some {chunks : List ChunkInfo} {absolute index : Nat} {chunk : ChunkInfo}
    (found : (chunks.zipIdx.find? fun entry => Holds absolute entry.1) = some (chunk, index)) :
    chunks[index]? = some chunk ∧ chunk ∈ chunks ∧ Holds absolute chunk := by
  have place := List.mk_mem_zipIdx_iff_getElem?.mp (List.mem_of_find?_eq_some found)
  have holds := List.find?_some found
  exact ⟨place, List.mem_of_getElem? place, of_decide_eq_true holds⟩

/-- What reading a frame can do, when it does not fail to decode a chunk: the buffer stays if the
frame is in its chunk, and otherwise another chunk is loaded. -/
theorem absoluteFrame_after (opened : Opened zstd bytes source info) {absolute : Nat}
    {state after : ChunkCache} {answer : Except SourceError Bytes}
    (read : source.absoluteFrame zstd leftover absolute state = (answer, after))
    (decodes : ∀ error, answer = .error error → decodeError error = false) :
    (after = state ∧
        ∀ frame, answer = .ok frame → chunkIndex source absolute = state.cachedChunk) ∨
      Intact zstd source after := by
  unfold WaveformSource.absoluteFrame at read
  split at read
  · next old =>
      right
      intro index chunk _ held
      rw [(opened.facts.records old).1] at held
      cases held
  · next newer =>
      dsimp only at read
      split at read
      · cases read
        exact .inl ⟨rfl, fun frame returned => by cases returned⟩
      · next chunk index found =>
          rcases lookup_some found with ⟨place, member, -⟩
          split at read
          · next cached =>
              cases read
              left
              refine ⟨rfl, fun frame _ => ?_⟩
              rw [chunkIndex, found, cached]
              rfl
          · rcases @loadChunk_cases zstd leftover bytes source info opened newer chunk member
              state.cache with ⟨content, decoded, loaded⟩ | ⟨-, error, left, loaded, failed⟩
            · rw [loaded] at read
              cases read
              right
              intro other tagged same held
              cases same
              rw [place] at held
              rw [← Option.some.inj held]
              exact decoded
            · rw [loaded] at read
              cases read
              rw [decodes error rfl] at failed
              cases failed

/-- A frame that is returned is the own frame of the file, and the next one is safe to read. -/
theorem absoluteFrame_own (opened : Opened zstd bytes source info) {absolute : Nat}
    {state after : ChunkCache} {frame : Bytes} (safe : IntactAt zstd source absolute state)
    (read : source.absoluteFrame zstd leftover absolute state = (.ok frame, after)) :
    OwnFrame zstd source absolute frame ∧
      frame.length = frameBytes source.contents.channels ∧ Intact zstd source after := by
  rw [← opened.facts.frame]
  unfold WaveformSource.absoluteFrame at read
  unfold OwnFrame
  split at read
  · next old =>
      rcases opened.facts.records old with ⟨none, inside, whole⟩
      have sampled := congrArg Prod.fst read
      unfold WaveformSource.sampleFrame at sampled
      split at sampled
      · cases sampled
      · next covered =>
          rw [opened.facts.count, not_le] at covered
          cases sampled
          have bound : absolute * info.itemBytes + info.itemBytes ≤
              info.itemCount * info.itemBytes := by
            rw [← Nat.succ_mul]
            exact Nat.mul_le_mul_right info.itemBytes covered
          rw [whole (opened.complete old), opened.facts.size, slice_slice info.data bound]
          simp only [old, if_true]
          refine ⟨by rw [opened.samples], length_slice (by omega), ?_⟩
          intro index chunk tagged held
          rw [none] at held
          cases held
  · next newer =>
      rw [if_neg newer]
      dsimp only at read
      split at read
      · cases read
      · next chunk index found =>
          rcases lookup_some found with ⟨place, member, holds⟩
          have within : ∀ content, chunkContent zstd source.sampleSection chunk = some content →
              (slice content ((absolute - chunk.firstFrame) * source.contents.sampleFrameBytes)
                source.contents.sampleFrameBytes).length = source.contents.sampleFrameBytes := by
            intro content decoded
            apply length_slice
            rw [chunkContent_length opened newer member decoded, ← Nat.succ_mul]
            exact Nat.mul_le_mul_right _ holds.2
          have tagged : ∀ content, chunkContent zstd source.sampleSection chunk = some content →
              Intact zstd source ⟨some index, content⟩ := by
            intro content decoded other held same kept
            cases same
            rw [place] at kept
            rw [← Option.some.inj kept]
            exact decoded
          split at read
          · next cached =>
              have decoded := safe index chunk cached place holds
              cases read
              refine ⟨⟨chunk, member, holds, state.cache, decoded, rfl⟩, within _ decoded, ?_⟩
              have here := tagged state.cache decoded
              rw [← cached] at here
              exact here
          · rcases @loadChunk_cases zstd leftover bytes source info opened newer chunk member
              state.cache with ⟨content, decoded, loaded⟩ | ⟨-, error, left, loaded, failed⟩
            · rw [loaded] at read
              cases read
              exact ⟨⟨chunk, member, holds, content, decoded, rfl⟩, within content decoded,
                tagged content decoded⟩
            · rw [loaded] at read
              cases read

theorem readLoop_own (opened : Opened zstd bytes source info) {count absolute : Nat}
    {state after : ChunkCache} {rows : List (List Int64)}
    (safe : 0 < count → IntactAt zstd source absolute state)
    (read : source.readLoop zstd leftover count absolute state = (.ok rows, after)) :
    ∃ frames, List.Forall₂ (OwnFrame zstd source) (List.range' absolute count) frames ∧
      rows.map (fun row => row.map Int64.toInt) =
        frames.map (frameRow source.contents.channels) := by
  induction count generalizing absolute state rows after with
  | zero =>
      cases read
      exact ⟨[], .nil, rfl⟩
  | succ count ih =>
      rw [WaveformSource.readLoop] at read
      split at read
      · cases read
      · next frame middle first =>
          split at read
          · cases read
          · next rest last remaining =>
              cases read
              rcases absoluteFrame_own opened (safe (Nat.succ_pos count)) first with
                ⟨own, length, intact⟩
              have next : IntactAt zstd source (absolute + 1) middle :=
                fun index chunk tagged held _ => intact index chunk tagged held
              rcases ih (fun _ => next) remaining with ⟨frames, each, same⟩
              refine ⟨frame :: frames, .cons own each, ?_⟩
              have row : (source.frameValues frame).map Int64.toInt =
                  frameRow source.contents.channels frame := by
                unfold WaveformSource.frameValues
                rw [opened.offsets, decoded_row opened.facts.storable (by omega), List.drop_zero]
              rw [List.map_cons, List.map_cons, row, same]

theorem readLoop_after (opened : Opened zstd bytes source info) {count absolute : Nat}
    {state after : ChunkCache} {answer : Except SourceError (List (List Int64))}
    (read : source.readLoop zstd leftover count absolute state = (answer, after))
    (decodes : ∀ error, answer = .error error → decodeError error = false) :
    (after = state ∧ ∀ rows, answer = .ok rows → ∀ frame ∈ List.range' absolute count,
        chunkIndex source frame = state.cachedChunk) ∨ Intact zstd source after := by
  induction count generalizing absolute state answer after with
  | zero =>
      refine .inl ⟨(congrArg Prod.snd read).symm, ?_⟩
      intro rows _ frame member
      cases member
  | succ count ih =>
      rw [WaveformSource.readLoop] at read
      split at read
      · next error middle first =>
          cases read
          have step := absoluteFrame_after opened first fun other failed => by
            cases failed
            exact decodes error rfl
          exact step.imp (fun same => ⟨same.1, fun rows returned => by cases returned⟩) id
      · next frame middle first =>
          have step := absoluteFrame_after opened first fun error failed => by cases failed
          split at read
          · next error last remaining =>
              cases read
              have rest := ih remaining fun other failed => by
                cases failed
                exact decodes error rfl
              rcases rest with ⟨rfl, -⟩ | intact
              · exact step.imp (fun same => ⟨same.1, fun rows returned => by cases returned⟩) id
              · exact .inr intact
          · next rows last remaining =>
              cases read
              have rest := ih remaining fun error failed => by cases failed
              rcases rest with ⟨rfl, others⟩ | intact
              · refine step.imp ?_ id
                rintro ⟨rfl, own⟩
                refine ⟨rfl, fun _ _ absolute member => ?_⟩
                rw [List.range'_succ] at member
                rcases List.mem_cons.mp member with rfl | later
                · exact own frame rfl
                · exact others rows rfl absolute later
              · exact .inr intact

theorem readLoop_total (opened : Opened zstd bytes source info)
    (decodes : ∀ chunk ∈ source.contents.sampleChunks,
      (chunkContent zstd source.sampleSection chunk).isSome = true) {count absolute : Nat}
    {state : ChunkCache} (intact : Intact zstd source state)
    (covered : absolute + count ≤ source.contents.sampleFrameCount) :
    ∃ rows after, source.readLoop zstd leftover count absolute state = (.ok rows, after) ∧
      Intact zstd source after := by
  induction count generalizing absolute state with
  | zero => exact ⟨[], state, rfl, intact⟩
  | succ count ih =>
      have first : ∃ frame middle,
          source.absoluteFrame zstd leftover absolute state = (.ok frame, middle) := by
        unfold WaveformSource.absoluteFrame
        split
        · have inside : ¬source.contents.sampleFrameCount ≤ absolute := by omega
          unfold WaveformSource.sampleFrame
          rw [if_neg inside]
          exact ⟨_, _, rfl⟩
        · next newer =>
            dsimp only
            split
            · next none =>
                have tiles := (opened.facts.tiles newer).1
                rw [← opened.facts.count] at tiles
                rcases tiles_holds tiles (Nat.zero_le absolute) (by omega) with
                  ⟨chunk, member, holds⟩
                rcases List.getElem?_of_mem member with ⟨index, place⟩
                have missed := List.find?_eq_none.mp none (chunk, index)
                  (List.mk_mem_zipIdx_iff_getElem?.mpr place)
                exact absurd (decide_eq_true (show Holds absolute chunk from holds)) missed
            · next chunk index found =>
                split
                · exact ⟨_, _, rfl⟩
                · rcases @loadChunk_cases zstd leftover bytes source info opened newer chunk
                    (lookup_some found).2.1 state.cache with
                    ⟨content, -, loaded⟩ | ⟨undecoded, -⟩
                  · rw [loaded]
                    exact ⟨_, _, rfl⟩
                  · have some := decodes chunk (lookup_some found).2.1
                    rw [undecoded] at some
                    cases some
      rcases first with ⟨frame, middle, first⟩
      have kept := (absoluteFrame_own opened
        (fun index chunk tagged held _ => intact index chunk tagged held) first).2.2
      rcases ih kept (show absolute + 1 + count ≤ source.contents.sampleFrameCount by omega) with
        ⟨rows, after, rest, still⟩
      refine ⟨source.frameValues frame :: rows, after, ?_, still⟩
      rw [WaveformSource.readLoop, first]
      dsimp only
      rw [rest]

end Cache

section Runs

/-- The frames that a call reads, by their numbers in the file. -/
def framesRead (source : WaveformSource) (call : WaveformSource.ReadCall) : List Nat :=
  if call.destinationSize / source.channelCount < call.frameCapacity then []
  else List.range' (source.sourceFirstFrame + call.firstFrame)
    (min call.frameCapacity (source.frameCount - call.firstFrame))

/-- A call that returns rows returns those of the own frames of the file. -/
def RightRows (zstd : Zstd) (source : WaveformSource) (call : WaveformSource.ReadCall)
    (answer : Except SourceError (List (List Int64))) : Prop :=
  ∀ rows, answer = .ok rows →
    ∃ frames, List.Forall₂ (OwnFrame zstd source) (framesRead source call) frames ∧
      rows.map (fun row => row.map Int64.toInt) = frames.map (frameRow source.contents.channels)

/-- A call returns the rows that the complete reader's frames say. -/
def WholeRows (source : WaveformSource) (whole : Contents) (call : WaveformSource.ReadCall)
    (answer : Except SourceError (List (List Int64))) : Prop :=
  ∃ rows frames, answer = .ok rows ∧
    List.Forall₂ (fun absolute frame => WaveformSource.sampleFrame whole absolute = .ok frame)
      (framesRead source call) frames ∧
    rows.map (fun row => row.map Int64.toInt) = frames.map (frameRow whole.channels)

/-- A call inside the selection, with room for the frames that it asks for. -/
def InsideSelection (source : WaveformSource) (call : WaveformSource.ReadCall) : Prop :=
  call.firstFrame ≤ source.frameCount ∧
    call.frameCapacity ≤ call.destinationSize / source.channelCount

instance (source : WaveformSource) (call : WaveformSource.ReadCall) :
    Decidable (InsideSelection source call) :=
  inferInstanceAs (Decidable (_ ∧ _))

/-- Some frame of the call is outside the chunk that the tag names. -/
def Loads (source : WaveformSource) (state : ChunkCache) (call : WaveformSource.ReadCall) : Prop :=
  ∃ absolute ∈ framesRead source call, chunkIndex source absolute ≠ state.cachedChunk

instance (source : WaveformSource) (state : ChunkCache) (call : WaveformSource.ReadCall) :
    Decidable (Loads source state call) :=
  inferInstanceAs (Decidable (∃ absolute ∈ framesRead source call, _ ≠ _))

/-- Whether a decode has failed since the last chunk was loaded. -/
def noteDecode (source : WaveformSource) (state : ChunkCache) (damaged : Bool)
    (call : WaveformSource.ReadCall) (answer : Except SourceError (List (List Int64))) : Bool :=
  match answer with
  | .error error => decodeError error || damaged
  | .ok _ => damaged && !decide (Loads source state call)

def watched (zstd : Zstd) (leftover : Bytes → Bytes → Bytes) (source : WaveformSource) :
    Machine (ChunkCache × Bool) WaveformSource.ReadCall (Except SourceError (List (List Int64))) :=
  (source.machine zstd leftover).traced (noteDecode source)

/-- After a failed decode, and until a chunk has been loaded, no call begins in the chunk that the
tag still names. -/
def AvoidsTag (source : WaveformSource) (state : ChunkCache × Bool)
    (call : WaveformSource.ReadCall) : Prop :=
  state.2 = true → ∀ absolute ∈ (framesRead source call).head?, ∀ index ∈ state.1.cachedChunk,
    ∀ chunk ∈ source.contents.sampleChunks[index]?, ¬Holds absolute chunk

instance (source : WaveformSource) (state : ChunkCache × Bool) (call : WaveformSource.ReadCall) :
    Decidable (AvoidsTag source state call) := by
  unfold AvoidsTag
  infer_instance

variable {zstd : Zstd} {leftover : Bytes → Bytes → Bytes} {bytes : Bytes} {source : WaveformSource}
  {info : SectionInfo}

theorem readFrames_right (opened : Opened zstd bytes source info) {state : ChunkCache}
    {call : WaveformSource.ReadCall}
    (safe : ∀ absolute ∈ (framesRead source call).head?, IntactAt zstd source absolute state) :
    RightRows zstd source call (source.readFrames zstd leftover call state).1 := by
  intro rows returned
  unfold WaveformSource.readFrames at returned
  unfold framesRead at safe ⊢
  split at returned
  · cases returned
  · split at returned
    · cases returned
    · next room =>
        rw [if_neg room] at safe ⊢
        refine readLoop_own opened ?_ (Prod.ext returned rfl)
        intro some
        apply safe
        rw [List.head?_range', if_neg (Nat.pos_iff_ne_zero.mp some)]
        rfl

theorem readFrames_after (opened : Opened zstd bytes source info) {state after : ChunkCache}
    {call : WaveformSource.ReadCall} {answer : Except SourceError (List (List Int64))}
    (read : source.readFrames zstd leftover call state = (answer, after))
    (decodes : ∀ error, answer = .error error → decodeError error = false) :
    (after = state ∧ ∀ rows, answer = .ok rows → ¬Loads source state call) ∨
      Intact zstd source after := by
  unfold WaveformSource.readFrames at read
  split at read
  · cases read
    exact .inl ⟨rfl, fun rows returned => by cases returned⟩
  · split at read
    · cases read
      exact .inl ⟨rfl, fun rows returned => by cases returned⟩
    · next room =>
        refine (readLoop_after opened read decodes).imp ?_ id
        rintro ⟨same, own⟩
        refine ⟨same, fun rows returned => ?_⟩
        rintro ⟨absolute, member, other⟩
        rw [framesRead, if_neg room] at member
        exact other (own rows returned absolute member)

theorem watched_intact (opened : Opened zstd bytes source info) (state : ChunkCache × Bool)
    (call : WaveformSource.ReadCall)
    (noted : state.2 = false → Intact zstd source state.1) :
    ((watched zstd leftover source).next state call).2 = false →
      Intact zstd source ((watched zstd leftover source).next state call).1 := by
  rcases state with ⟨state, damaged⟩
  intro unnoted
  change noteDecode source state damaged call
    (source.readFrames zstd leftover call state).1 = false at unnoted
  change Intact zstd source (source.readFrames zstd leftover call state).2
  cases answer : (source.readFrames zstd leftover call state).1 with
  | error error =>
      rw [answer, noteDecode, Bool.or_eq_false_iff] at unnoted
      have decodes : ∀ other, (source.readFrames zstd leftover call state).1 = .error other →
          decodeError other = false := by
        intro other failed
        rw [answer] at failed
        cases failed
        exact unnoted.1
      rcases readFrames_after opened Prod.mk.eta.symm decodes with ⟨same, -⟩ | intact
      · rw [same]
        exact noted unnoted.2
      · exact intact
  | ok rows =>
      rw [answer, noteDecode, Bool.and_eq_false_iff] at unnoted
      have decodes : ∀ other, (source.readFrames zstd leftover call state).1 = .error other →
          decodeError other = false := by
        intro other failed
        rw [answer] at failed
        cases failed
      rcases readFrames_after opened Prod.mk.eta.symm decodes with ⟨same, inside⟩ | intact
      · rcases unnoted with undamaged | loads
        · rw [same]
          exact noted undamaged
        · rw [Bool.not_eq_false', decide_eq_true_eq] at loads
          exact absurd loads (inside rows answer)
      · exact intact

theorem intact_start : Intact zstd source {} := by
  intro index chunk tagged
  cases tagged

theorem decodeChunk_content {data logical : Bytes} {chunk : ChunkInfo}
    (decoded : decodeChunk zstd data chunk = .ok logical) :
    chunkContent zstd data chunk = some logical := by
  rcases decodeChunk_ok decoded with ⟨content, crc⟩
  unfold chunkContent
  cases codec : chunk.codec with
  | raw =>
      simp only [codec] at content
      simp [← content, crc]
  | zstd =>
      simp only [codec] at content
      simp [content.1, content.2, crc]

theorem mapM_member {Failure Item Value : Type} {compute : Item → Except Failure Value}
    {items : List Item} {values : List Value} (computed : items.mapM compute = .ok values)
    {item : Item} (member : item ∈ items) : ∃ value, compute item = .ok value := by
  have each := Loops.mapM_ok computed
  clear computed
  induction each with
  | nil => cases member
  | cons first _ ih =>
      rcases List.mem_cons.mp member with rfl | later
      · exact ⟨_, first⟩
      · exact ih later

theorem forall₂_member {Item Value : Type} {First Second : Item → Value → Prop}
    {items : List Item} {values : List Value} (each : List.Forall₂ First items values)
    (stronger : ∀ item ∈ items, ∀ value, First item value → Second item value) :
    List.Forall₂ Second items values := by
  induction each with
  | nil => exact .nil
  | @cons item value items values here rest ih =>
      exact .cons (stronger item List.mem_cons_self value here)
        (ih fun other member => stronger other (List.mem_cons_of_mem item member))

/-- A file that the complete reader accepts: its chunks decode, and its frames are the own ones. -/
theorem whole_frames (opened : Opened zstd bytes source info) {whole : Contents}
    (accepted : readFile zstd .complete bytes = .ok whole) :
    whole.channels = source.contents.channels ∧
      (∀ chunk ∈ source.contents.sampleChunks,
        (chunkContent zstd source.sampleSection chunk).isSome = true) ∧
      ∀ absolute frame, absolute < source.contents.sampleFrameCount →
        OwnFrame zstd source absolute frame →
          WaveformSource.sampleFrame whole absolute = .ok frame := by
  rcases readFile_samples accepted with ⟨version, other, facts⟩
  have sameVersion : source.contents.version = whole.version :=
    (readFile_samples opened.read).1.trans version.symm
  have same : source.contents = whole ∨ source.contents = { whole with sampleData := [] } := by
    have read := opened.read
    cases mode : validationMode bytes with
    | complete =>
        rw [mode, accepted] at read
        exact .inl (Except.ok.inj read).symm
    | metadataOnly =>
        rcases readFile_undecoded zstd bytes whole accepted with ⟨second, again, undecoded⟩
        rw [mode, again] at read
        exact .inr ((Except.ok.inj read).symm.trans undecoded)
  have channels : source.contents.channels = whole.channels := by
    rcases same with same | same <;> rw [same]
  have chunks : source.contents.sampleChunks = whole.sampleChunks := by
    rcases same with same | same <;> rw [same]
  have count : source.contents.sampleFrameCount = whole.sampleFrameCount := by
    rcases same with same | same <;> rw [same]
  have size : source.contents.sampleFrameBytes = whole.sampleFrameBytes := by
    rcases same with same | same <;> rw [same]
  have sections : source.contents.sections = whole.sections := by
    rcases same with same | same <;> rw [same]
  have found := opened.facts.found
  rw [sections, facts.found] at found
  cases found
  refine ⟨channels.symm, ?_, ?_⟩
  · intro chunk member
    rw [chunks] at member
    by_cases old : whole.version = v4Version
    · rw [(facts.records old).1] at member
      exact absurd member List.not_mem_nil
    · rcases (facts.tiles old).2 rfl with ⟨parts, decoded, -⟩
      rcases mapM_member decoded member with ⟨content, decodes⟩
      rw [opened.samples, decodeChunk_content decodes]
      rfl
  · intro absolute frame covered own
    unfold WaveformSource.sampleFrame
    rw [if_neg (by omega)]
    unfold OwnFrame at own
    rw [sameVersion, size, chunks, opened.samples] at own
    rw [count, facts.count] at covered
    by_cases old : whole.version = v4Version
    · have bound : absolute * info.itemBytes + info.itemBytes ≤
          info.itemCount * info.itemBytes := by
        rw [← Nat.succ_mul]
        exact Nat.mul_le_mul_right info.itemBytes covered
      rw [if_pos old] at own
      rw [own, (facts.records old).2.2 rfl, facts.size, slice_slice info.data bound]
    · rw [if_neg old] at own
      rcases own with ⟨chunk, member, holds, content, decoded, rfl⟩
      rcases facts.tiles old with ⟨tiles, whole⟩
      rcases whole rfl with ⟨parts, joined, samples⟩
      rcases mapM_member joined member with ⟨again, decodes⟩
      have equal : content = again :=
        Option.some.inj (decoded.symm.trans (decodeChunk_content decodes))
      have frames := joined_frame tiles joined member decodes holds.1 holds.2
      rw [Nat.sub_zero] at frames
      rw [samples, facts.size, frames, equal]

/-- In a run that, after a failed decode, never begins in the chunk that the tag still names,
every call throws or returns the own frames; and a file that the complete reader accepts is read
as that reader reads it, whatever the calls. -/
theorem frames_read_on_demand (zstd : Zstd) (leftover : Bytes → Bytes → Bytes) (bytes : Bytes)
    (format : ExportFormat) (scope : ExportScope) (rest : Checked Unit) (source : WaveformSource)
    (opened : openSource zstd bytes format scope rest = .ok source)
    (calls : List WaveformSource.ReadCall) :
    ((watched zstd leftover source).Along (AvoidsTag source) ({}, false) calls →
      (watched zstd leftover source).Along (fun state call =>
        RightRows zstd source call ((watched zstd leftover source).answer state call))
        ({}, false) calls) ∧
      ∀ whole, readFile zstd .complete bytes = .ok whole →
        (source.machine zstd leftover).Along (fun state call => InsideSelection source call →
          WholeRows source whole call ((source.machine zstd leftover).answer state call))
          {} calls := by
  rcases openSource_ok opened with ⟨info, facts⟩
  constructor
  · intro avoiding
    refine Machine.along_shown _ (fun state => state.2 = false → Intact zstd source state.1)
      ?_ ?_ (fun _ => intact_start) avoiding
    · intro state call _ noted
      exact watched_intact facts state call noted
    · intro state call avoids noted
      rcases state with ⟨state, damaged⟩
      refine readFrames_right facts ?_
      intro absolute first index chunk tagged held holds
      cases damaged with
      | false => exact noted rfl index chunk tagged held
      | true => exact absurd holds (avoids rfl absolute first index tagged chunk held)
  · intro whole accepted
    rcases whole_frames facts accepted with ⟨channels, decodes, same⟩
    have returned : ∀ state call, Intact zstd source state → InsideSelection source call →
        ∃ rows after, source.readFrames zstd leftover call state = (.ok rows, after) ∧
          Intact zstd source after := by
      intro state call intact inside
      have room := facts.inside
      unfold WaveformSource.readFrames
      rw [if_neg (Nat.not_lt.mpr inside.1), if_neg (Nat.not_lt.mpr inside.2)]
      apply readLoop_total facts decodes intact
      have first := inside.1
      omega
    have outside : ∀ state call, Intact zstd source state → ¬InsideSelection source call →
        (source.readFrames zstd leftover call state).2 = state := by
      intro state call _ outside
      unfold WaveformSource.readFrames
      split
      · rfl
      · next first =>
          rw [if_pos]
          by_contra room
          exact outside ⟨Nat.not_lt.mp first, Nat.not_lt.mp room⟩
    refine Machine.along_shown _ (Intact zstd source) ?_ ?_ intact_start
      (Machine.along_trivial _ _ _)
    · intro state call _ intact
      change Intact zstd source (source.readFrames zstd leftover call state).2
      by_cases inside : InsideSelection source call
      · rcases returned state call intact inside with ⟨rows, after, read, kept⟩
        rw [read]
        exact kept
      · rw [outside state call intact inside]
        exact intact
    · intro state call _ intact inside
      rcases returned state call intact inside with ⟨rows, after, read, -⟩
      have right : RightRows zstd source call (source.readFrames zstd leftover call state).1 :=
        readFrames_right facts fun absolute _ index chunk tagged held _ =>
          intact index chunk tagged held
      rcases right rows (congrArg Prod.fst read) with ⟨frames, each, rowed⟩
      refine ⟨rows, frames, congrArg Prod.fst read, ?_, ?_⟩
      · refine forall₂_member each ?_
        intro absolute member frame own
        apply same absolute frame _ own
        have room := facts.inside
        unfold framesRead at member
        rw [if_neg (Nat.not_lt.mpr inside.2), List.mem_range'_1] at member
        omega
      · rw [rowed, channels]

def sparse : List (Nat × UInt8) → Bytes
  | [] => []
  | (gap, byte) :: bytes => zeros gap ++ byte :: sparse bytes

def flawedHeader : Bytes := sparse
  [(0, 77), (0, 78), (0, 67), (0, 87), (0, 70), (0, 49), (2, 5), (3, 64), (3, 56), (3, 7),
    (3, 64), (7, 136), (0, 1), (7, 7), (10, 232), (0, 136), (0, 249), (0, 157), (0, 152),
    (0, 81), (0, 125), (0, 104)] ++ zeros 4

def flawedDirectory : Bytes := sparse
  [(0, 1), (3, 1), (1, 1), (1, 200), (0, 1), (6, 49), (0, 1), (6, 49), (0, 1), (6, 1), (8, 1),
    (2, 198), (0, 252), (0, 35), (0, 22), (8, 2), (3, 1), (1, 1), (2, 3), (6, 176), (7, 176),
    (7, 1), (7, 128), (3, 23), (0, 135), (0, 162), (0, 180), (8, 3), (3, 1), (1, 1), (1, 176),
    (0, 3), (6, 1), (0, 1), (6, 1), (0, 1), (6, 1), (7, 208), (3, 170), (0, 34), (0, 149),
    (0, 60), (8, 4), (3, 1), (1, 1), (1, 184), (0, 4), (6, 49), (0, 1), (6, 49), (0, 1), (6, 1),
    (8, 1), (2, 42), (0, 72), (0, 127), (0, 248), (8, 5), (3, 1), (1, 1), (1, 240), (0, 5),
    (6, 48), (7, 48), (15, 64), (3, 63), (0, 86), (0, 15), (0, 243), (8, 6), (3, 1), (1, 1),
    (1, 32), (0, 6), (6, 48), (7, 48), (15, 64), (3, 51), (0, 113), (0, 116), (0, 215), (8, 7),
    (3, 2), (1, 1), (1, 80), (0, 6), (6, 176), (7, 2), (7, 2), (7, 1), (3, 211), (0, 125),
    (0, 73), (0, 163)] ++ zeros 8

def flawedCapture : Bytes := sparse
  [(0, 1), (3, 1), (1, 48), (6, 1), (2, 1), (7, 48), (0, 1), (6, 1), (15, 1), (15, 1), (15, 1),
    (31, 1), (47, 1), (7, 1), (7, 1), (7, 1), (51, 1), (7, 1), (7, 1), (7, 1), (7, 1), (7, 1),
    (27, 120)] ++ zeros 7

def flawedTimebase : Bytes := sparse
  [(0, 2), (3, 1), (1, 48), (5, 128), (3, 1), (39, 2), (15, 1), (7, 1), (7, 1), (7, 1), (7, 1),
    (23, 1), (23, 1), (7, 1), (1, 1), (5, 2)] ++ zeros 7

def flawedChannels : Bytes := sparse
  [(0, 3), (3, 1), (1, 48), (5, 208), (3, 1), (8, 1), (6, 1), (15, 1), (19, 87), (3, 1), (1, 2),
    (1, 2), (1, 1), (1, 8), (1, 8), (5, 1), (7, 1), (15, 1), (7, 1), (7, 1), (31, 1), (15, 1),
    (43, 1), (7, 1), (27, 120)] ++ zeros 7

def flawedEvents : Bytes := sparse
  [(0, 4), (3, 1), (1, 48), (6, 1), (2, 1), (7, 48), (0, 1), (6, 1), (15, 1), (15, 1), (1, 1),
    (1, 1), (3, 121), (3, 1), (199, 1), (7, 1), (7, 1), (11, 120)] ++ zeros 7

def flawedIntervals : Bytes := sparse
  [(0, 5), (3, 1), (1, 48), (5, 64), (35, 6), (3, 1), (1, 48), (5, 64)] ++ zeros 35

def flawedSamples : Bytes := sparse
  [(0, 7), (3, 2), (1, 48), (5, 1), (3, 2), (7, 48), (7, 112), (23, 1), (7, 160), (7, 1),
    (7, 1), (11, 82), (0, 208), (0, 22), (0, 160), (8, 1), (7, 1), (7, 168), (7, 1), (7, 1),
    (23, 1), (7, 2)] ++ zeros 7

/-- Two chunks of one frame each; the second does not have the checksum of its samples. -/
def flawedFile : Bytes :=
  flawedHeader ++ (flawedDirectory ++ (flawedCapture ++ (flawedTimebase ++ (flawedChannels ++
    (flawedEvents ++ (flawedIntervals ++ flawedSamples))))))

def noZstd : Zstd where
  compress := fun _ => none
  findFrameCompressedSize := fun _ => none
  frameContentSize := fun _ => none
  decompress := fun _ _ => none

def readFirst : WaveformSource.ReadCall := ⟨0, 1, 1⟩

def readSecond : WaveformSource.ReadCall := ⟨1, 1, 1⟩

/-- The first frame is one byte, and after a read of the second it is another. -/
def Misread (source : WaveformSource) : Prop :=
  source.contents.version ≠ v4Version ∧ source.contents.sampleFrameBytes = 1 ∧
    framesRead source readFirst = [0] ∧
    (∀ chunk ∈ source.contents.sampleChunks, Holds 0 chunk →
      chunkContent noZstd source.sampleSection chunk = some [1]) ∧
    frameRow source.contents.channels [1] = [1] ∧
    (let machine := source.machine noZstd fun _ buffer => buffer
     (machine.answer (machine.run {} [readFirst, readSecond]) readFirst).toOption = some [[2]]) ∧
    (watched noZstd (fun _ buffer => buffer) source).Along (AvoidsTag source) ({}, false)
      [readFirst, readSecond, readSecond]

instance (source : WaveformSource) : Decidable (Misread source) := by
  unfold Misread
  infer_instance

theorem flawed_misread :
    ∃ source ∈ (openSource noZstd flawedFile .comtrade .capture (.ok ())).toOption,
      Misread source := by
  decide +kernel

theorem flawed_opened : ∃ source,
    openSource noZstd flawedFile .comtrade .capture (.ok ()) = .ok source ∧ Misread source := by
  rcases flawed_misread with ⟨source, opened, misread⟩
  exact ⟨source, Loops.toOption_ok opened, misread⟩

/-- A failed read of the second frame, and the first frame reads as the second. -/
theorem damaged_buffer_read : ∃ source,
    openSource noZstd flawedFile .comtrade .capture (.ok ()) = .ok source ∧
      ¬(watched noZstd (fun _ buffer => buffer) source).Along (fun state call =>
        RightRows noZstd source call
          ((watched noZstd (fun _ buffer => buffer) source).answer state call))
        ({}, false) [readFirst, readSecond, readFirst] := by
  rcases flawed_opened with ⟨source, opened, newer, size, read, own, row, last, -⟩
  refine ⟨source, opened, ?_⟩
  rintro ⟨-, -, right, -⟩
  rcases right [[2]] (Loops.toOption_ok last) with ⟨frames, each, same⟩
  rw [read] at each
  cases each with
  | cons first rest =>
      cases rest
      unfold OwnFrame at first
      rw [if_neg newer, size] at first
      rcases first with ⟨chunk, member, holds, content, decoded, rfl⟩
      rw [own chunk member holds] at decoded
      cases decoded
      rw [Nat.zero_sub, Nat.zero_mul, show slice [1] 0 1 = [1] from rfl] at same
      simp only [List.map_cons, List.map_nil, row] at same
      exact absurd same (by decide)

/-- The capture of two chunks with the right checksum for the second one. -/
def soundFile : Bytes := patch flawedFile
  [⟨1764, toLittle 4 3007718310⟩, ⟨444, toLittle 4 4112877625⟩, ⟨52, toLittle 4 2353406906⟩,
    ⟨56, toLittle 4 1855287376⟩]

theorem soundFile_accepted : (readFile noZstd .complete soundFile).toOption.isSome = true := by
  decide +kernel

theorem soundFile_opened :
    ∃ source ∈ (openSource noZstd soundFile .comtrade .capture (.ok ())).toOption,
      InsideSelection source readFirst ∧ InsideSelection source readSecond := by
  decide +kernel

/-- The second frame fails again and again, and no call begins in the first. In the file without
the flaw both frames are read as the complete reader reads them. -/
theorem failed_frames_read_on_demand :
    (∃ source, openSource noZstd flawedFile .comtrade .capture (.ok ()) = .ok source ∧
      (watched noZstd (fun _ buffer => buffer) source).Along (fun state call =>
        RightRows noZstd source call
          ((watched noZstd (fun _ buffer => buffer) source).answer state call))
        ({}, false) [readFirst, readSecond, readSecond]) ∧
      ∃ source whole, openSource noZstd soundFile .comtrade .capture (.ok ()) = .ok source ∧
        readFile noZstd .complete soundFile = .ok whole ∧
        InsideSelection source readFirst ∧ InsideSelection source readSecond ∧
        (source.machine noZstd fun _ buffer => buffer).Along (fun state call =>
          InsideSelection source call → WholeRows source whole call
            ((source.machine noZstd fun _ buffer => buffer).answer state call))
          {} [readFirst, readSecond, readFirst] := by
  constructor
  · rcases flawed_opened with ⟨source, opened, -, -, -, -, -, -, avoiding⟩
    exact ⟨source, opened, (frames_read_on_demand noZstd _ flawedFile .comtrade .capture (.ok ())
      source opened [readFirst, readSecond, readSecond]).1 avoiding⟩
  · rcases soundFile_opened with ⟨source, opened, first, second⟩
    rcases Option.isSome_iff_exists.mp soundFile_accepted with ⟨whole, accepted⟩
    exact ⟨source, whole, Loops.toOption_ok opened, Loops.toOption_ok accepted, first, second,
      (frames_read_on_demand noZstd _ soundFile .comtrade .capture (.ok ()) source
        (Loops.toOption_ok opened) [readFirst, readSecond, readFirst]).2 whole
        (Loops.toOption_ok accepted)⟩

end Runs

end Msap1.Mncwf
