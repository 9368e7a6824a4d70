import Mathlib.Data.List.Sort
import Msap1.Mncwf.Document

/-! The container of `MncwfV4Reader`: header, directory, extents, padding and checksums. Sizes
and offsets are natural numbers below 2^64, and a sum or product that leaves them is rejected. -/

namespace Msap1.Mncwf

open ByteCodec ByteLayout

abbrev Rejection := String

abbrev Checked := Except Rejection

def reject {α : Type} (reason : String) : Checked α := .error ("MNCWF: " ++ reason)

def rejectIf (bad : Bool) (reason : String) : Checked Unit :=
  if bad then reject reason else .ok ()

def crc32cPolynomial : BitVec 32 := 0x82F63B78

def mncwfCrc32c (bytes : Bytes) : BitVec 32 :=
  Crc.update crc32cPolynomial 0xffffffff bytes ^^^ 0xffffffff

def checkedAdd (left right : Nat) (label : String) : Checked Nat :=
  if left + right < 2 ^ 64 then .ok (left + right) else reject (label ++ " overflows")

def checkedMultiply (left right : Nat) (label : String) : Checked Nat :=
  if left * right < 2 ^ 64 then .ok (left * right) else reject (label ++ " overflows")

def aligned (value : Nat) : Nat := (value + 7) / 8 * 8

def alignEight (value : Nat) : Checked Nat := do
  let raised ← checkedAdd value 7 "alignment"
  .ok (raised / 8 * 8)

def range (bytes : Bytes) (offset length : Nat) (label : String) : Checked Bytes := do
  let finish ← checkedAdd offset length label
  rejectIf (bytes.length < finish) (label ++ " is truncated")
  .ok (slice bytes offset length)

def allZero (bytes : Bytes) : Bool := bytes.all (· == 0)

def mncwfMagic : Bytes := [0x4d, 0x4e, 0x43, 0x57, 0x46, 0x31, 0, 0]

def v4Version : Nat := 4
def v5Version : Nat := 5
def headerBytes : Nat := 64
def directoryEntryBytes : Nat := 56
def sectionHeaderBytes : Nat := 48
def mandatorySectionCount : Nat := 7
def maxSections : Nat := 64
def maxFileBytes : Nat := 512 * 1024 * 1024
def maxMetadataSectionBytes : Nat := 16 * 1024 * 1024
def sectionRequired : UInt16 := 1
def knownSectionFlags : UInt16 := sectionRequired

namespace SectionType

def captureMetadata : Nat := 1
def timebaseSegments : Nat := 2
def channelDefinitions : Nat := 3
def eventDescriptors : Nat := 4
def qualityIntervals : Nat := 5
def lineage : Nat := 6
def sampleData : Nat := 7

end SectionType

inductive ValidationMode where
  | complete
  | metadataOnly
  deriving DecidableEq, Repr

structure Header where
  version : Nat
  sectionCount : Nat
  directoryOffset : Nat
  directoryBytes : Nat
  fileBytes : Nat
  deriving DecidableEq, Repr

structure SectionInfo where
  type : Nat
  version : Nat
  flags : UInt16
  offset : Nat
  storedBytes : Nat
  logicalBytes : Nat
  itemCount : Nat
  itemBytes : Nat
  crc32c : BitVec 32
  data : Bytes
  deriving DecidableEq, Repr

def knownSection (type : Nat) : Bool :=
  SectionType.captureMetadata ≤ type && type ≤ SectionType.sampleData

def readHeader (bytes : Bytes) : Checked Header := do
  rejectIf (bytes.length < headerBytes) "header is truncated"
  rejectIf (maxFileBytes < bytes.length) "file exceeds the configured size bound"
  rejectIf (bytes.take 8 != mncwfMagic) "magic is invalid"
  let version := natAt 4 bytes 8
  rejectIf (version != v4Version && version != v5Version) "version is not supported"
  rejectIf (natAt 4 bytes 12 != headerBytes || natAt 4 bytes 16 != directoryEntryBytes)
    "header geometry is unsupported"
  let sectionCount := natAt 4 bytes 20
  let directoryOffset := natAt 8 bytes 24
  let directoryBytes := natAt 8 bytes 32
  let fileBytes := natAt 8 bytes 40
  rejectIf (natAt 4 bytes 60 != 0 || natAt 4 bytes 48 != 0) "header reserved fields are nonzero"
  rejectIf (sectionCount < mandatorySectionCount || maxSections < sectionCount)
    "section count is outside its bound"
  let expected ← checkedMultiply sectionCount directoryEntryBytes "directory"
  rejectIf (directoryOffset != headerBytes || directoryBytes != expected ||
    fileBytes != bytes.length) "directory or file geometry is invalid"
  rejectIf (mncwfCrc32c (put (bytes.take headerBytes) ⟨56, zeros 4⟩) !=
    BitVec.ofNat 32 (natAt 4 bytes 56)) "header CRC32C mismatch"
  .ok { version, sectionCount, directoryOffset, directoryBytes, fileBytes }

/-- One directory entry and the bytes that it refers to. -/
def readEntry (bytes : Bytes) (version : Nat) (entry : Bytes) (present : List Nat) :
    Checked SectionInfo := do
  let type := natAt 4 entry 0
  let sectionVersion := natAt 2 entry 4
  let flags := u16At entry 6
  let offset := natAt 8 entry 8
  let storedBytes := natAt 8 entry 16
  let logicalBytes := natAt 8 entry 24
  let itemCount := natAt 8 entry 32
  let itemBytes := natAt 4 entry 40
  rejectIf (natAt 8 entry 48 != 0) "directory reserved field is nonzero"
  let sampleSection := type == SectionType.sampleData
  let validSampleVersion := if version == v4Version then sectionVersion == 1
    else sectionVersion == 2
  let expectedLogical ← if version == v4Version || !sampleSection then .ok storedBytes
    else checkedMultiply itemCount itemBytes "sample logical bytes"
  rejectIf (type == 0 || sectionVersion == 0 || flags &&& ~~~knownSectionFlags != 0 ||
    storedBytes == 0 || maxFileBytes < itemCount || logicalBytes != expectedLogical ||
    (sampleSection && !validSampleVersion) || offset % 8 != 0) "directory entry is invalid"
  rejectIf (!knownSection type && flags &&& sectionRequired != 0) "unknown required section"
  if knownSection type then
    rejectIf (present.contains type) "duplicate mandatory section"
    rejectIf (flags != sectionRequired) "known section is not mandatory"
    rejectIf (!sampleSection && maxMetadataSectionBytes < storedBytes)
      "metadata section exceeds its size bound"
  let data ← range bytes offset storedBytes "section"
  .ok {
    type
    version := sectionVersion
    flags
    offset
    storedBytes
    logicalBytes
    itemCount
    itemBytes
    crc32c := BitVec.ofNat 32 (natAt 4 entry 44)
    data }

/-- The loop over the directory, from an entry on and with the known sections seen so far. -/
def readEntries (bytes : Bytes) (version : Nat) (directory : Bytes) :
    Nat → Nat → List Nat → Checked (List SectionInfo)
  | 0, _, present =>
      do
        rejectIf (!(List.range' 1 mandatorySectionCount).all present.contains)
          "mandatory section is missing"
        .ok []
  | count + 1, index, present => do
      let entry := slice directory (index * directoryEntryBytes) directoryEntryBytes
      let info ← readEntry bytes version entry present
      let rest ← readEntries bytes version directory count (index + 1)
        (if knownSection info.type then info.type :: present else present)
      .ok (info :: rest)

def extentLe (first second : Nat × Nat) : Prop :=
  first.1 < second.1 ∨ (first.1 = second.1 ∧ first.2 ≤ second.2)

instance : DecidableRel extentLe := fun _ _ => inferInstanceAs (Decidable (_ ∨ _))

def checkExtents (bytes : Bytes) : Nat → List (Nat × Nat) → Checked Unit
  | cursor, [] =>
      rejectIf (cursor != bytes.length) "unreferenced bytes follow the final section"
  | cursor, (start, finish) :: rest => do
      rejectIf (start != cursor) (if start < cursor then "sections overlap"
        else "unreferenced bytes appear between sections")
      let next ← alignEight finish
      rejectIf (bytes.length < next) "final section alignment exceeds the file"
      let padding ← range bytes finish (next - finish) "section alignment padding"
      rejectIf (!allZero padding) "section alignment padding is nonzero"
      checkExtents bytes next rest

def sectionExtent (info : SectionInfo) : Checked (Nat × Nat) := do
  let finish ← checkedAdd info.offset info.storedBytes "section extent"
  .ok (info.offset, finish)

structure Container where
  header : Header
  sections : List SectionInfo
  deriving DecidableEq, Repr

def readContainer (mode : ValidationMode) (bytes : Bytes) : Checked Container := do
  let header ← readHeader bytes
  let directory ← range bytes header.directoryOffset header.directoryBytes "directory"
  rejectIf (mncwfCrc32c directory != BitVec.ofNat 32 (natAt 4 bytes 52))
    "directory CRC32C mismatch"
  let sections ← readEntries bytes header.version directory header.sectionCount 0 []
  let extents ← sections.mapM sectionExtent
  let directoryEnd ← checkedAdd header.directoryOffset header.directoryBytes "directory extent"
  let first ← alignEight directoryEnd
  checkExtents bytes first (extents.insertionSort extentLe)
  rejectIf (sections.any fun info =>
    !(mode == .metadataOnly && info.type == SectionType.sampleData) &&
      mncwfCrc32c info.data != info.crc32c) "section CRC32C mismatch"
  .ok { header, sections }

end Msap1.Mncwf
