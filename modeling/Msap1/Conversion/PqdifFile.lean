import Msap1.Conversion.PqdifBody

/-! The records of a PQDIF file: the two passes over them, the links between their headers, and that
a reader of the links finds the trees again. -/

namespace Msap1.Conversion.Pqdif

open ByteCodec ByteLayout

/-- What zlib computes of a body: its compressed form, and the checksum of a form. -/
structure Zlib where
  deflate : Bytes → Bytes
  adler32 : Bytes → UInt32

structure Record where
  type : Guid
  root : Element
  compressed : Bool

/-- A record with what the first pass finds of it. -/
structure Measured where
  record : Record
  body : Layout
  bytes : Nat
  checksum : UInt32

structure Limits where
  maximumOutputBytes : Nat
  byteLimit : Nat

section Writing

variable (zlib : Zlib)

/-- `encode_body`: what goes to the destination, whose size and checksum are the result there. -/
def encodeBody (body : Layout) (compressed : Bool) : Laid Bytes := do
  let plain ← emitBody body
  let output := if compressed then zlib.deflate plain else plain
  let _ ← checkedU32 output.length "PQDIF encoded record body"
  .ok output

def measure (limits : Limits) : List Record → Nat → Laid (List Measured × Nat)
  | [], total => .ok ([], total)
  | record :: rest, total => do
      let body ← layout record.root
      let output ← encodeBody zlib body record.compressed
      let total := total + (64 + output.length)
      failIf (limits.maximumOutputBytes < total || limits.byteLimit < total) .outputTooLarge
        "PQDIF export exceeds its configured output limit"
      let (later, total) ← measure limits rest total
      .ok ({ record, body, bytes := output.length, checksum := zlib.adler32 output } :: later,
        total)

def writeHeader (recordType : Guid) (bodyBytes nextRecord : Nat) (checksum : UInt32) : Bytes :=
  [guidWire recordSignature, guidWire recordType, leU32 64, leU32 bodyBytes, leU32 nextRecord,
    leU32 checksum.toNat, zeros 16].flatten

def writeRecords : List Measured → Nat → Laid Bytes
  | [], _ => .ok []
  | measured :: rest, offset => do
      let behind := offset + 64 + measured.bytes
      let next ← if rest.isEmpty then .ok 0 else checkedU32 behind "PQDIF next-record link"
      let header := writeHeader measured.record.type measured.bytes next measured.checksum
      let written ← encodeBody zlib measured.body measured.record.compressed
      failIf (written.length != measured.bytes || zlib.adler32 written != measured.checksum)
        .validationFailed "PQDIF deterministic compression validation failed"
      let later ← writeRecords rest behind
      .ok (header ++ (written ++ later))

def writeFile (limits : Limits) (records : List Record) : Laid Bytes := do
  let (measured, total) ← measure zlib limits records 0
  let output ← writeRecords zlib measured 0
  failIf (output.length != total) .validationFailed "PQDIF output byte count is invalid"
  .ok output

/-- The part of `PqdifConverter::convert` that follows on the four trees. -/
def convertTrees (limits : Limits) (compression : Bool)
    (container dataSource settings observation : Element) : Laid Bytes :=
  writeFile zlib limits [
    ⟨recContainer, container, false⟩,
    ⟨recDataSource, dataSource, compression⟩,
    ⟨recSettings, settings, compression⟩,
    ⟨recObservation, observation, compression⟩]

end Writing

section Reading

variable (adler32 : Bytes → UInt32) (inflate : Bytes → Option Bytes)

/-- A record at an offset: its type, the children of its root, and the link to the next one. -/
def readRecord (bytes : Bytes) (offset : Nat) (compressed : Bool) :
    Option (Guid × List Element × Nat) := do
  let header := slice bytes offset 64
  let recordType : Guid := ⟨permuted (slice header 16 16), by rw [permuted, List.length_map]; rfl⟩
  let body := slice bytes (offset + 64) (natAt 4 header 36)
  if slice header 0 16 = guidWire recordSignature ∧ natAt 4 header 32 = 64 ∧
      u32At header 44 = adler32 body then do
    let plain ← if compressed then inflate body else some body
    let children ← readBody plain
    some (recordType, children, natAt 4 header 40)
  else none

/-- The records along their links. All but the first one may be compressed. -/
def readRecords (bytes : Bytes) (compression : Bool) : Nat → Nat →
    Option (List (Guid × List Element))
  | 0, _ => none
  | fuel + 1, offset => do
      let (recordType, children, next) ← readRecord adler32 inflate bytes offset
        (compression && offset != 0)
      if next = 0 then some [(recordType, children)]
      else do
        let later ← readRecords bytes compression fuel next
        some ((recordType, children) :: later)

def readFile (bytes : Bytes) (compression : Bool) : Option (List (Guid × List Element)) :=
  readRecords adler32 inflate bytes compression bytes.length 0

end Reading

section Records

theorem slice_field (before : List Bytes) (field : Bytes) (behind : List Bytes) {offset size : Nat}
    (starts : before.flatten.length = offset) (sized : field.length = size) :
    slice (before ++ field :: behind).flatten offset size = field := by
  rw [List.flatten_append, List.flatten_cons]
  exact slice_exact _ _ _ starts sized

variable {zlib : Zlib} {inflate : Bytes → Option Bytes}

theorem length_writeHeader (recordType : Guid) (bodyBytes next : Nat) (checksum : UInt32) :
    (writeHeader recordType bodyBytes next checksum).length = 64 := by
  simp [writeHeader, length_zeros]

theorem readRecord_written (recordType : Guid) {front output behind plain : Bytes}
    {children : List Element} {next : Nat} {compressed : Bool} (small : output.length < 2 ^ 32)
    (nextSmall : next < 2 ^ 32)
    (unpacked : (if compressed then inflate output else some output) = some plain)
    (read : readBody plain = some children) :
    readRecord zlib.adler32 inflate (front ++ (writeHeader recordType output.length next
      (zlib.adler32 output) ++ (output ++ behind))) front.length compressed =
      some (recordType, children, next) := by
  generalize made : writeHeader recordType output.length next (zlib.adler32 output) = header
  have length : header.length = 64 := made ▸ length_writeHeader ..
  have here : slice (front ++ (header ++ (output ++ behind))) front.length 64 = header :=
    slice_exact _ _ _ rfl length
  have signature : slice header 0 16 = guidWire recordSignature :=
    made ▸ slice_field [] _ _ rfl (length_guidWire _)
  have type : slice header 16 16 = guidWire recordType :=
    made ▸ slice_field [guidWire recordSignature] _ _ (by simp) (length_guidWire _)
  have size : slice header 32 4 = leU32 64 :=
    made ▸ slice_field [guidWire recordSignature, guidWire recordType] _ _ (by simp)
      (length_leU32 _)
  have body : slice header 36 4 = leU32 output.length :=
    made ▸ slice_field [guidWire recordSignature, guidWire recordType, leU32 64] _ _ (by simp)
      (length_leU32 _)
  have link : slice header 40 4 = leU32 next :=
    made ▸ slice_field [guidWire recordSignature, guidWire recordType, leU32 64,
      leU32 output.length] _ _ (by simp) (length_leU32 _)
  have checksum : slice header 44 4 = leU32 (zlib.adler32 output).toNat :=
    made ▸ slice_field [guidWire recordSignature, guidWire recordType, leU32 64,
      leU32 output.length, leU32 next] _ _ (by simp) (length_leU32 _)
  have inside : slice (front ++ (header ++ (output ++ behind))) (front.length + 64) output.length =
      output := by
    rw [← List.append_assoc]
    exact slice_exact _ _ _ (by rw [List.length_append, length]) rfl
  have same : permuted (guidWire recordType) = recordType.val := permuted_permuted recordType
  simp only [readRecord, here, natAt, u32At, signature, type, size, body, link, checksum, same]
  rw [ofLittle_leU32 small, ofLittle_leU32 nextSmall, ofLittle_leU32 (by omega),
    ofLittle_leU32 (zlib.adler32 output).toNat_lt, UInt32.ofNat_toNat, inside, if_pos (by simp)]
  cases compressed with
  | false =>
      cases unpacked
      simp [read]
  | true =>
      rw [if_pos rfl] at unpacked
      simp [unpacked, read]

/-- A measured record whose body the second pass writes again, and a reader understands. -/
structure Sound (zlib : Zlib) (inflate : Bytes → Option Bytes) (measured : Measured)
    (output : Bytes) : Prop where
  encoded : encodeBody zlib measured.body measured.record.compressed = .ok output
  bytes : measured.bytes = output.length
  checksum : measured.checksum = zlib.adler32 output
  small : output.length < 2 ^ 32
  readable : ∃ plain tag children, measured.record.root = .collection tag children ∧
    (if measured.record.compressed then inflate output else some output) = some plain ∧
    readBody plain = some children

def Record.content (record : Record) : Guid × List Element :=
  match record.root with
  | .collection _ children => (record.type, children)
  | _ => (record.type, [])

theorem encodeBody_small {body : Layout} {compressed : Bool} {output : Bytes}
    (encoded : encodeBody zlib body compressed = .ok output) : output.length < 2 ^ 32 := by
  rcases Loops.bind_ok encoded with ⟨plain, -, sized⟩
  rcases Loops.bind_ok sized with ⟨size, checked, returned⟩
  cases returned
  exact (checkedU32_ok checked).2

theorem sound_of_laid {record : Record} {body : Layout} {output : Bytes}
    (lossless : record.compressed = true → ∀ plain, inflate (zlib.deflate plain) = some plain)
    (wellFormed : WellFormed record.root) (laid : layout record.root = .ok body)
    (encoded : encodeBody zlib body record.compressed = .ok output) :
    Sound zlib inflate ⟨record, body, output.length, zlib.adler32 output⟩ output where
  encoded := encoded
  bytes := rfl
  checksum := rfl
  small := encodeBody_small encoded
  readable := by
    rcases emitBody_reads wellFormed laid with ⟨tag, children, plain, root, emitted, -, -, read⟩
    refine ⟨plain, tag, children, root, ?_, read⟩
    unfold encodeBody at encoded
    rw [emitted] at encoded
    rcases Loops.bind_ok encoded with ⟨same, found, sized⟩
    cases found
    rcases Loops.bind_ok sized with ⟨size, -, returned⟩
    cases returned
    cases packed : record.compressed with
    | false => rfl
    | true => exact lossless packed plain

def recordBytes (measured : List Measured) : Nat :=
  (measured.map fun record => 64 + record.bytes).sum

theorem measure_sound {limits : Limits} {records : List Record} {total last : Nat}
    {measured : List Measured}
    (lossless : ∀ record ∈ records, record.compressed = true →
      ∀ plain, inflate (zlib.deflate plain) = some plain)
    (wellFormed : ∀ record ∈ records, WellFormed record.root)
    (passed : measure zlib limits records total = .ok (measured, last)) :
    measured.map Measured.record = records ∧
      (∀ record ∈ measured, ∃ output, Sound zlib inflate record output) ∧
      last = total + recordBytes measured ∧
      (records ≠ [] → last ≤ limits.maximumOutputBytes ∧ last ≤ limits.byteLimit) := by
  induction records generalizing total measured with
  | nil =>
      cases passed
      exact ⟨rfl, fun _ member => absurd member List.not_mem_nil, rfl, fun some => absurd rfl some⟩
  | cons record rest ih =>
      rw [measure] at passed
      rcases Loops.bind_ok passed with ⟨body, laid, passed⟩
      rcases Loops.bind_ok passed with ⟨output, encoded, passed⟩
      rcases Loops.bind_ok passed with ⟨⟨⟩, within, passed⟩
      rcases Loops.bind_ok passed with ⟨⟨later, final⟩, others, returned⟩
      cases returned
      have limited := failIf_ok within
      rw [Bool.or_eq_false_iff, decide_eq_false_iff_not, decide_eq_false_iff_not] at limited
      rcases ih (fun other member => lossless other (List.mem_cons_of_mem _ member))
        (fun other member => wellFormed other (List.mem_cons_of_mem _ member)) others with
        ⟨same, sound, sum, bounded⟩
      refine ⟨congrArg (record :: ·) same, ?_, ?_, fun _ => ?_⟩
      · intro other member
        rcases List.mem_cons.mp member with rfl | there
        · exact ⟨output, sound_of_laid (lossless record List.mem_cons_self)
            (wellFormed record List.mem_cons_self) laid encoded⟩
        · exact sound other there
      · rw [sum, recordBytes, recordBytes, List.map_cons, List.sum_cons, Nat.add_assoc]
      · cases rest with
        | nil =>
            cases others
            exact ⟨not_lt.mp limited.1, not_lt.mp limited.2⟩
        | cons next rest => exact bounded (List.cons_ne_nil next rest)

theorem writeRecords_cons {record : Measured} {rest : List Measured} {offset : Nat}
    {own output : Bytes} (sound : Sound zlib inflate record own)
    (written : writeRecords zlib (record :: rest) offset = .ok output) :
    ∃ next later,
      (rest = [] ∧ next = 0 ∨ rest ≠ [] ∧ next = offset + 64 + own.length ∧ next < 2 ^ 32) ∧
      writeRecords zlib rest (offset + 64 + own.length) = .ok later ∧
      output = writeHeader record.record.type own.length next (zlib.adler32 own) ++
        (own ++ later) := by
  rw [writeRecords, sound.encoded, sound.bytes, sound.checksum] at written
  have rounds : ∀ next, (do
      let written ← (.ok own : Laid Bytes)
      failIf (written.length != own.length || zlib.adler32 written != zlib.adler32 own)
        .validationFailed "PQDIF deterministic compression validation failed"
      let later ← writeRecords zlib rest (offset + 64 + own.length)
      .ok (writeHeader record.record.type own.length next (zlib.adler32 own) ++ (written ++ later)))
      = .ok output → ∃ later, writeRecords zlib rest (offset + 64 + own.length) = .ok later ∧
        output = writeHeader record.record.type own.length next (zlib.adler32 own) ++
          (own ++ later) := by
    intro next round
    rw [ok_bind] at round
    rcases Loops.bind_ok round with ⟨⟨⟩, -, round⟩
    rcases Loops.bind_ok round with ⟨later, others, returned⟩
    cases returned
    exact ⟨later, others, rfl⟩
  cases rest with
  | nil =>
      rcases rounds 0 written with ⟨later, others, made⟩
      exact ⟨0, later, .inl ⟨rfl, rfl⟩, others, made⟩
  | cons other rest =>
      rcases Loops.bind_ok written with ⟨next, linked, round⟩
      rcases checkedU32_ok linked with ⟨rfl, small⟩
      rcases rounds _ round with ⟨later, others, made⟩
      exact ⟨_, later, .inr ⟨List.cons_ne_nil _ _, rfl, small⟩, others, made⟩

theorem writeRecords_read {compression : Bool} {measured : List Measured} {front output : Bytes}
    {fuel : Nat} (sound : ∀ record ∈ measured, ∃ output, Sound zlib inflate record output)
    (head : ∀ record ∈ measured.head?, record.record.compressed =
      (compression && front.length != 0))
    (tail : ∀ record ∈ measured.tail, record.record.compressed = compression)
    (some : measured ≠ []) (enough : measured.length ≤ fuel)
    (written : writeRecords zlib measured front.length = .ok output) :
    readRecords zlib.adler32 inflate (front ++ output) compression fuel front.length =
        .some (measured.map fun record => record.record.content) ∧
      output.length = recordBytes measured := by
  induction measured generalizing front output fuel with
  | nil => exact absurd rfl some
  | cons record rest ih =>
      rcases sound record List.mem_cons_self with ⟨own, laid⟩
      rcases writeRecords_cons laid written with ⟨next, later, linked, others, rfl⟩
      rcases laid.readable with ⟨plain, tag, children, root, unpacked, read⟩
      have nextSmall : next < 2 ^ 32 := by
        rcases linked with ⟨-, rfl⟩ | ⟨-, rfl, small⟩
        · omega
        · exact small
      rw [head record rfl] at unpacked
      have content : record.record.content = (record.record.type, children) := by
        rw [Record.content, root]
      have first := @readRecord_written zlib inflate record.record.type front own later plain
          children
        next _ laid.small nextSmall unpacked read
      obtain ⟨less, rfl⟩ : ∃ less, fuel = less + 1 :=
        ⟨fuel - 1, by rw [List.length_cons] at enough; omega⟩
      rw [readRecords, first]
      rcases linked with ⟨rfl, rfl⟩ | ⟨more, rfl, small⟩
      · cases others
        refine ⟨by simp [content], ?_⟩
        simp [length_writeHeader, recordBytes, laid.bytes]
      · generalize made : writeHeader record.record.type own.length (front.length + 64 + own.length)
          (zlib.adler32 own) = header
        have length : header.length = 64 := made ▸ length_writeHeader ..
        have behind : (front ++ (header ++ own)).length = front.length + 64 + own.length := by
          rw [List.length_append, List.length_append, length, Nat.add_assoc]
        have further : (front.length + 64 + own.length != 0) = true := by
          rw [bne_iff_ne]
          omega
        rw [← behind] at others
        rcases ih (fun other member => sound other (List.mem_cons_of_mem _ member))
          (fun other first => by
            rw [behind, further, Bool.and_true]
            exact tail other (List.mem_of_mem_head? first))
          (fun other member => tail other (List.mem_of_mem_tail member)) more
          (Nat.le_of_succ_le_succ enough) others with ⟨found, size⟩
        rw [behind, List.append_assoc, List.append_assoc] at found
        refine ⟨by simp [found, content], ?_⟩
        rw [List.length_append, List.length_append, size, length, recordBytes, recordBytes,
          List.map_cons, List.sum_cons, laid.bytes, Nat.add_assoc]

theorem length_le_recordBytes (measured : List Measured) :
    measured.length ≤ recordBytes measured := by
  induction measured with
  | nil => exact Nat.zero_le _
  | cons record rest ih =>
      rw [recordBytes, List.map_cons, List.sum_cons, List.length_cons]
      rw [recordBytes] at ih
      omega

theorem writeFile_read {limits : Limits} {compression : Bool} {first : Record} {rest : List Record}
    {output : Bytes}
    (lossless : compression = true → ∀ plain, inflate (zlib.deflate plain) = some plain)
    (wellFormed : ∀ record ∈ first :: rest, WellFormed record.root)
    (plain : first.compressed = false) (others : ∀ record ∈ rest, record.compressed = compression)
    (written : writeFile zlib limits (first :: rest) = .ok output) :
    readFile zlib.adler32 inflate output compression = some ((first :: rest).map Record.content) ∧
      output.length ≤ limits.maximumOutputBytes ∧ output.length ≤ limits.byteLimit := by
  rcases Loops.bind_ok written with ⟨⟨measured, total⟩, passed, second⟩
  rcases Loops.bind_ok second with ⟨made, emitted, checked⟩
  rcases Loops.bind_ok checked with ⟨⟨⟩, -, returned⟩
  cases returned
  have reversible : ∀ record ∈ first :: rest, record.compressed = true →
      ∀ plain, inflate (zlib.deflate plain) = some plain := by
    intro record member packed
    rcases List.mem_cons.mp member with rfl | later
    · rw [plain] at packed
      cases packed
    · exact lossless (others record later ▸ packed)
  rcases measure_sound reversible wellFormed passed with ⟨same, sound, sum, bounded⟩
  have within := bounded (List.cons_ne_nil _ _)
  cases measured with
  | nil => cases same
  | cons head tail =>
      rcases List.cons.inj same with ⟨rfl, rfl⟩
      have read := @writeRecords_read zlib inflate compression (head :: tail) [] output
        (recordBytes (head :: tail)) sound
        (fun record same => by
          cases same
          rw [plain]
          exact (Bool.and_false compression).symm)
        (fun record member => others record.record (List.mem_map_of_mem member))
        (List.cons_ne_nil _ _) (length_le_recordBytes _) emitted
      rcases read with ⟨found, size⟩
      rw [sum, Nat.zero_add, ← size] at within
      refine ⟨?_, within⟩
      rw [readFile, size, List.map_cons, List.map_map]
      exact found

/-- The file of four trees: a reader that follows the links of its headers and of its bodies finds
the four types with the children of the trees. -/
theorem convertTrees_read {inflate : Bytes → Option Bytes} {limits : Limits} {compression : Bool}
    {containerTag sourceTag settingsTag observationTag : Guid}
    {container dataSource settings observation : List Element} {output : Bytes}
    (lossless : compression = true → ∀ plain, inflate (zlib.deflate plain) = some plain)
    (containerFormed : ∀ child ∈ container, WellFormed child)
    (sourceFormed : ∀ child ∈ dataSource, WellFormed child)
    (settingsFormed : ∀ child ∈ settings, WellFormed child)
    (observationFormed : ∀ child ∈ observation, WellFormed child)
    (written : convertTrees zlib limits compression (.collection containerTag container)
      (.collection sourceTag dataSource) (.collection settingsTag settings)
      (.collection observationTag observation) = .ok output) :
    readFile zlib.adler32 inflate output compression =
        some [(recContainer, container), (recDataSource, dataSource), (recSettings, settings),
          (recObservation, observation)] ∧
      output.length ≤ limits.maximumOutputBytes ∧ output.length ≤ limits.byteLimit := by
  refine writeFile_read lossless ?_ rfl ?_ written
  · intro record member
    simp only [List.mem_cons, List.not_mem_nil, or_false] at member
    rcases member with rfl | rfl | rfl | rfl
    · exact .collection containerFormed
    · exact .collection sourceFormed
    · exact .collection settingsFormed
    · exact .collection observationFormed
  · intro record member
    simp only [List.mem_cons, List.not_mem_nil, or_false] at member
    rcases member with rfl | rfl | rfl <;> rfl

def adler32 (bytes : Bytes) : UInt32 :=
  let sums := bytes.foldl (fun sums byte =>
    let low := (sums.1 + byte.toNat) % 65521
    (low, (sums.2 + low) % 65521)) (1, 0)
  UInt32.ofNat (sums.2 * 65536 + sums.1)

def storedBlocks : Nat → Bytes → Bytes
  | 0, _ => []
  | fuel + 1, plain =>
      let block := plain.take 65535
      let behind := plain.drop 65535
      (if behind = [] then 1 else 0) :: toLittle 2 block.length ++
        toLittle 2 (65535 - block.length) ++ block ++
          if behind = [] then [] else storedBlocks fuel behind

/-- The zlib format at level zero: a header, stored blocks and the checksum. -/
def storedDeflate (plain : Bytes) : Bytes :=
  [0x78, 0x01] ++ storedBlocks (plain.length + 1) plain ++
    (toLittle 4 (adler32 plain).toNat).reverse

def inflateBlocks : Nat → Bytes → Option Bytes
  | fuel + 1, last :: sizeLow :: sizeHigh :: checkLow :: checkHigh :: behind =>
      let size := ofLittle [sizeLow, sizeHigh]
      if ofLittle [checkLow, checkHigh] ≠ 65535 - size ∨ behind.length < size then none
      else if last = 1 then some (behind.take size)
      else (inflateBlocks fuel (behind.drop size)).map fun rest => behind.take size ++ rest
  | _, _ => none

def storedInflate : Bytes → Option Bytes
  | 0x78 :: 0x01 :: blocks => inflateBlocks blocks.length blocks
  | _ => none

theorem inflateBlocks_stored {fuel extra : Nat} {plain behind : Bytes}
    (enough : plain.length < fuel) :
    inflateBlocks (fuel + extra) (storedBlocks fuel plain ++ behind) = some plain := by
  induction fuel generalizing plain with
  | zero => cases enough
  | succ fuel ih =>
      have short : (plain.take 65535).length < 65536 := by
        rw [List.length_take]
        omega
      have sized : ∀ value < 65536, ∃ low high, toLittle 2 value = [low, high] ∧
          ofLittle [low, high] = value :=
        fun value bound => ⟨_, _, rfl, ofLittle_toLittle 2 value bound⟩
      obtain ⟨sizeLow, sizeHigh, size, sizeIs⟩ := sized (plain.take 65535).length short
      obtain ⟨checkLow, checkHigh, check, checkIs⟩ :=
        sized (65535 - (plain.take 65535).length) (by omega)
      rw [storedBlocks, size, check, Nat.succ_add]
      by_cases final : plain.drop 65535 = []
      · have whole : plain.take 65535 = plain := by
          rw [List.take_of_length_le (List.drop_eq_nil_iff.mp final)]
        simp only [final, if_true, List.cons_append, List.nil_append, List.append_nil,
          inflateBlocks, sizeIs, checkIs]
        rw [if_neg (by rw [List.length_append]; omega), List.take_left, whole]
      · have rest : (plain.drop 65535).length < fuel := by
          have some := List.length_pos_iff.mpr final
          rw [List.length_drop] at some ⊢
          omega
        simp only [if_neg final, List.cons_append, List.nil_append, List.append_assoc,
          inflateBlocks, sizeIs, checkIs]
        rw [if_neg (by rw [List.length_append]; omega), if_neg (by decide), List.drop_left,
          List.take_left, ih rest, Option.map_some, List.take_append_drop]

theorem length_storedBlocks {fuel : Nat} {plain : Bytes} (enough : plain.length < fuel) :
    plain.length < (storedBlocks fuel plain).length := by
  induction fuel generalizing plain with
  | zero => cases enough
  | succ fuel ih =>
      have parts : (plain.take 65535).length + (plain.drop 65535).length = plain.length := by
        rw [← List.length_append, List.take_append_drop]
      rw [storedBlocks]
      simp only [List.length_append, List.length_cons, length_toLittle]
      split
      · next final =>
          rw [final, List.length_nil] at parts
          omega
      · next more =>
          have some := List.length_pos_iff.mpr more
          have rest : (plain.drop 65535).length < fuel := by
            rw [List.length_drop] at some ⊢
            omega
          have others := ih rest
          omega

theorem storedInflate_deflate (plain : Bytes) :
    storedInflate (storedDeflate plain) = some plain := by
  have long : plain.length + 1 ≤ (storedBlocks (plain.length + 1) plain ++
      (toLittle 4 (adler32 plain).toNat).reverse).length := by
    have blocks := length_storedBlocks (Nat.lt_add_one plain.length)
    rw [List.length_append]
    omega
  obtain ⟨extra, total⟩ := Nat.exists_eq_add_of_le long
  have inflated := @inflateBlocks_stored (plain.length + 1) extra plain
    (toLittle 4 (adler32 plain).toNat).reverse (Nat.lt_add_one plain.length)
  rwa [← total] at inflated

def storedZlib : Zlib := { deflate := storedDeflate, adler32 }

def smallLimits : Limits := { maximumOutputBytes := 4096, byteLimit := 4096 }

def nestedFile (compression : Bool) : Laid Bytes :=
  convertTrees storedZlib smallLimits compression (.collection recContainer nestedTree)
    (.collection recDataSource []) (.collection recSettings [])
    (.collection recObservation nestedTree)

def nestedRecords : List (Guid × List Element) :=
  [(recContainer, nestedTree), (recDataSource, []), (recSettings, []),
    (recObservation, nestedTree)]

theorem nestedFile_written (compression : Bool) :
    ∃ output, nestedFile compression = .ok output := by
  have made : (nestedFile compression).isOk = true := by
    cases compression <;> decide +kernel
  cases written : nestedFile compression with
  | error failure =>
      rw [written] at made
      cases made
  | ok output => exact ⟨output, rfl⟩

/-- Without compression, and with it. -/
theorem nestedFile_read :
    (∃ output, nestedFile false = .ok output ∧
      readFile adler32 storedInflate output false = some nestedRecords) ∧
    ∃ output, nestedFile true = .ok output ∧
      readFile adler32 storedInflate output true = some nestedRecords := by
  have empty : ∀ child ∈ ([] : List Element), WellFormed child :=
    fun child member => absurd member List.not_mem_nil
  rcases nestedFile_written false with ⟨output, written⟩
  rcases nestedFile_written true with ⟨packed, compressed⟩
  have read := @convertTrees_read storedZlib storedInflate smallLimits false recContainer
    recDataSource recSettings recObservation nestedTree [] [] nestedTree output
    (fun _ => storedInflate_deflate) nestedTree_wellFormed empty empty nestedTree_wellFormed written
  have readPacked := @convertTrees_read storedZlib storedInflate smallLimits true recContainer
    recDataSource recSettings recObservation nestedTree [] [] nestedTree packed
    (fun _ => storedInflate_deflate) nestedTree_wellFormed empty empty nestedTree_wellFormed
    compressed
  exact ⟨⟨output, written, read.1⟩, packed, compressed, readPacked.1⟩

end Records

end Msap1.Conversion.Pqdif
