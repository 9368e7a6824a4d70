import Msap1.Conversion.ComtradeConverter

/-! What a reader of the CFG part takes as its time multiplier. -/

namespace Msap1.Conversion

open ByteCodec TextLines

/-- The time multiplier of an export, in microseconds: behind the station there are the number of
signals and their lines, the line frequency, the number of sample rates and their lines, two
timestamps and the type of the DAT part. -/
def declaredMultiplier (texts : Bytes) : Option ℚ := do
  let text ← skipLines 2 texts
  let (counts, text) ← readLine text
  let signals ← readDecimal (counts.takeWhile (· ≠ 0x2C))
  let text ← skipLines (signals + 1) text
  let (rates, text) ← readLine text
  let sampleRates ← readDecimal rates
  let text ← skipLines (sampleRates + 2) text
  let (fileType, text) ← readLine text
  let (multiplier, _) ← readLine text
  if fileType = ascii "BINARY32" then readScientific multiplier else none

section Plain

theorem cleanByte_plain (commas : Bool) (character : UInt8) :
    cleanByte commas character ≠ carriageReturn := by
  unfold cleanByte
  split
  · decide
  · next kept =>
      split
      · intro same
        rw [same] at kept
        exact kept (.inr (.inl (by decide)))
      · decide

@[simp] theorem oneLine_clean (value : Bytes) (maximum : Nat) : OneLine (clean value maximum) := by
  unfold OneLine clean
  simp only [List.mem_map, not_exists, not_and]
  exact fun character _ => cleanByte_plain true character

@[simp] theorem oneLine_comma : OneLine (ascii ",") := by
  unfold OneLine
  decide

theorem oneLine_decimalText {numerator : Int} {denominator : Nat} {written : Bytes}
    (printed : decimalText numerator denominator = .ok written) : OneLine written := by
  unfold decimalText at printed
  split at printed
  · cases printed
  · cases printed
    exact oneLine_scientific 36 numerator denominator

theorem oneLine_phaseName (phase : Phase) : OneLine (phaseName phase) := by
  unfold OneLine
  cases phase <;> decide

theorem oneLine_unitName (channel : ChannelDefinition) : OneLine (unitName channel) := by
  unfold unitName
  split
  · exact oneLine_clean _ _
  · unfold OneLine
    cases channel.siUnit <;> decide

theorem oneLine_uuidString (uuid : Uuid) : OneLine (uuidString uuid) := by
  have dash : OneLine (ascii "-") := by
    unfold OneLine
    decide
  simp [uuidString, dash]

theorem oneLine_timestampText {timestamp : BigRational} {written : Bytes}
    (printed : timestampText timestamp = .ok written) : OneLine written := by
  have marks : OneLine (ascii "/") ∧ OneLine (ascii ":") ∧ OneLine (ascii ".") := by
    unfold OneLine
    decide
  rcases marks with ⟨slash, colon, point⟩
  rcases Loops.bind_ok printed with ⟨rounded, -, printed⟩
  cases printed
  simp [slash, colon, point]

variable (metadata : WaveformMetadata)

theorem oneLine_stationLine : OneLine (stationLine metadata) := by
  have year : OneLine (ascii ",2013") := by
    unfold OneLine
    decide
  simp [stationLine, year]

theorem oneLine_countsLine : OneLine (countsLine metadata) := by
  have letters : OneLine (ascii "A,") ∧ OneLine (ascii "D") := by
    unfold OneLine
    decide
  simp [countsLine, letters.1, letters.2]

theorem oneLine_channelLine {channel : ChannelDefinition} {index : Nat} {line : Bytes}
    (printed : channelLine metadata channel index = .ok line) : OneLine line := by
  have marks : OneLine (ascii ",0,") ∧ OneLine (ascii ",P") := by
    unfold OneLine
    decide
  rcases Loops.bind_ok printed with ⟨gain, gained, printed⟩
  rcases Loops.bind_ok printed with ⟨offset, moved, printed⟩
  cases printed
  simp [marks.1, marks.2, oneLine_decimalText gained, oneLine_decimalText moved,
    oneLine_phaseName, oneLine_unitName]

theorem oneLine_eventLine (event : EventDescriptor) (index : Nat) :
    OneLine (eventLine metadata event index) := by
  have marks : OneLine (ascii ",event-") ∧ OneLine (ascii ",0") := by
    unfold OneLine
    decide
  simp [eventLine, marks.1, marks.2, oneLine_uuidString]

theorem oneLine_rateLine {segment : TimebaseSegment} {line : Bytes}
    (printed : rateLine segment = .ok line) : OneLine line := by
  rcases Loops.bind_ok printed with ⟨rate, rated, printed⟩
  cases printed
  simp [oneLine_decimalText rated]

theorem mapM_lines {Item : Type} {body : Item → Checked Bytes} {items : List Item}
    {lines : List Bytes} (printed : items.mapM body = .ok lines)
    (single : ∀ item line, body item = .ok line → OneLine line) :
    lines.length = items.length ∧ ∀ line ∈ lines, OneLine line := by
  have each := Loops.mapM_ok printed
  refine ⟨each.length_eq.symm, ?_⟩
  intro line member
  rcases List.mem_iff_get.mp member with ⟨place, here⟩
  have inside : place.val < items.length := by
    rw [each.length_eq]
    exact place.isLt
  have made := (List.forall₂_iff_get.mp each).2 place.val inside place.isLt
  rw [Fin.eta, here] at made
  exact single _ _ made

end Plain

theorem counts_read (metadata : WaveformMetadata) :
    readDecimal ((countsLine metadata).takeWhile (· ≠ 0x2C)) =
      some (metadata.channels.length + metadata.events.length) := by
  have front : (countsLine metadata).takeWhile (· ≠ 0x2C) =
      decimal (metadata.channels.length + metadata.events.length) := by
    rw [countsLine, List.flatten_cons, List.takeWhile_append_of_pos]
    · exact List.append_nil _
    · intro byte member
      rw [decide_eq_true_eq]
      intro comma
      rw [comma] at member
      exact decimal_plain _ member
  rw [front, readDecimal_decimal]

theorem skipLines_joined {lines : List Bytes} (single : ∀ line ∈ lines, OneLine line) {count : Nat}
    (counted : lines.length = count) (rest : Bytes) :
    skipLines count (joined lines ++ rest) = some rest := by
  rw [← counted]
  exact skipLines_lines single rest

/-- The lines of a CFG text as a reader takes them: those of the signals end with the frequency,
and those of the rates with the two timestamps. -/
structure CfgGroups (metadata : WaveformMetadata) (timemult : Bytes)
    (lines signals times : List Bytes) : Prop where
  signalCount : signals.length = metadata.channels.length + metadata.events.length + 1
  signalLines : ∀ line ∈ signals, OneLine line
  timeCount : times.length = metadata.timebaseSegments.length + 2
  timeLines : ∀ line ∈ times, OneLine line
  shape : lines = [stationLine metadata, countsLine metadata] ++ signals ++
    [decimal metadata.timebaseSegments.length] ++ times ++ [ascii "BINARY32", timemult,
      ascii "UTC," ++ offsetText (firstTimebase metadata).utcOffsetSeconds,
      qualityLine (firstTimebase metadata)]

section Groups

variable {metadata : WaveformMetadata} {start triggerUtc : BigRational} {timemult cfg : Bytes}
  {lines : List Bytes}

theorem cfgLines_groups (listed : cfgLines metadata start triggerUtc timemult = .ok lines) :
    ∃ signals times, CfgGroups metadata timemult lines signals times := by
  rcases Loops.bind_ok listed with ⟨channels, channelled, listed⟩
  rcases Loops.bind_ok listed with ⟨frequency, nominal, listed⟩
  rcases Loops.bind_ok listed with ⟨rates, rated, listed⟩
  rcases Loops.bind_ok listed with ⟨begins, begun, listed⟩
  rcases Loops.bind_ok listed with ⟨triggered, timed, listed⟩
  cases listed
  rcases mapM_lines channelled (fun _ _ => oneLine_channelLine metadata) with
    ⟨channelCount, channelLines⟩
  rcases mapM_lines rated (fun _ _ => oneLine_rateLine) with ⟨rateCount, rateLines⟩
  let events := metadata.events.zipIdx.map fun entry => eventLine metadata entry.1 entry.2
  have eventLines : ∀ line ∈ events, OneLine line := by
    intro line member
    rcases List.mem_map.mp member with ⟨⟨event, index⟩, -, same⟩
    rw [← same]
    exact oneLine_eventLine metadata event index
  refine ⟨channels ++ events ++ [frequency], rates ++ [begins, triggered], ?_, ?_, ?_, ?_, ?_⟩
  · simp only [events, List.length_append, channelCount, List.length_map, List.length_zipIdx,
      List.length_singleton]
  · intro line member
    rcases List.mem_append.mp member with inside | last
    · rcases List.mem_append.mp inside with channel | event
      · exact channelLines line channel
      · exact eventLines line event
    · rw [List.mem_singleton.mp last]
      exact oneLine_decimalText nominal
  · rw [List.length_append, rateCount]
    rfl
  · intro line member
    rcases List.mem_append.mp member with rate | last
    · exact rateLines line rate
    · simp only [List.mem_cons, List.not_mem_nil, or_false] at last
      rcases last with same | same
      · rw [same]
        exact oneLine_timestampText begun
      · rw [same]
        exact oneLine_timestampText timed
  · simp only [events, List.append_assoc, List.cons_append, List.nil_append]

/-- The file as its reader sees it: the groups of lines up to the multiplier, and the rest. -/
theorem prefixText_groups {signals times : List Bytes}
    (groups : CfgGroups metadata timemult lines signals times) (inf hdr : Bytes) (datBytes : Nat) :
    ∃ rest, prefixText (joined lines) inf hdr datBytes =
      joined [ascii "--- file type: CFG ---", stationLine metadata] ++
        (countsLine metadata ++ crlf ++ (joined signals ++
          (decimal metadata.timebaseSegments.length ++ crlf ++ (joined times ++
            (ascii "BINARY32" ++ crlf ++ (timemult ++ crlf ++ rest)))))) := by
  refine ⟨joined [ascii "UTC," ++ offsetText (firstTimebase metadata).utcOffsetSeconds,
    qualityLine (firstTimebase metadata)] ++ [ascii "--- file type: INF ---", crlf, inf,
      ascii "--- file type: HDR ---", crlf, hdr, ascii "--- file type: DAT BINARY32: ",
        decimal datBytes, ascii " ---", crlf].flatten, ?_⟩
  rw [groups.shape]
  simp only [prefixText, joined, List.flatten_cons, List.flatten_nil, List.flatMap_append,
    List.flatMap_cons, List.flatMap_nil, List.append_assoc, List.append_nil,
    List.cons_append, List.nil_append]

theorem declaredMultiplier_prefix (printed : cfgText metadata start triggerUtc timemult = .ok cfg)
    (single : OneLine timemult) (inf hdr : Bytes) (datBytes : Nat) :
    declaredMultiplier (prefixText cfg inf hdr datBytes) = readScientific timemult := by
  rcases Loops.bind_ok printed with ⟨lines, listed, printed⟩
  cases printed
  rcases cfgLines_groups listed with ⟨signals, times, groups⟩
  rcases prefixText_groups groups inf hdr datBytes with ⟨rest, shape⟩
  have titles : OneLine (ascii "--- file type: CFG ---") ∧ OneLine (ascii "BINARY32") := by
    unfold OneLine
    decide
  have header : ∀ rest, skipLines 2
      (joined [ascii "--- file type: CFG ---", stationLine metadata] ++ rest) = some rest := by
    intro rest
    apply skipLines_joined
    · simp [titles.1, oneLine_stationLine]
    · rfl
  have printedAs : declaredMultiplier (prefixText (joined lines) inf hdr datBytes) =
      readScientific timemult := by
    rw [shape, declaredMultiplier, header]
    simp only [Option.bind_eq_bind, Option.bind_some, readLine_line (oneLine_countsLine metadata),
      counts_read metadata, skipLines_joined groups.signalLines groups.signalCount,
      readLine_line (oneLine_decimal _), readDecimal_decimal,
      skipLines_joined groups.timeLines groups.timeCount, readLine_line titles.2,
      readLine_line single, if_pos]
  exact printedAs

end Groups

end Msap1.Conversion
