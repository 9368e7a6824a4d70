import Msap1.ByteLayout
import Msap1.Loops

/-! The record bodies of a PQDIF file: the tree of elements, the layout that gives every block its
offset and size, and the emission of the blocks. -/

namespace Msap1.Conversion.Pqdif

open ByteCodec ByteLayout

/-- A UUID as `std::array<std::byte, 16>`. -/
abbrev Guid := { bytes : Bytes // bytes.length = 16 }

def wireOrder : List Nat := [3, 2, 1, 0, 5, 4, 7, 6, 8, 9, 10, 11, 12, 13, 14, 15]

def permuted (bytes : Bytes) : Bytes := wireOrder.map fun index => bytes.getD index 0

def guidWire (value : Guid) : Bytes := permuted value.val

def guid (d1 d2 d3 : Nat) (d4 : { bytes : Bytes // bytes.length = 8 }) : Guid :=
  ⟨(toLittle 4 d1).reverse ++ ((toLittle 2 d2).reverse ++ ((toLittle 2 d3).reverse ++ d4.val)), by
    simp [d4.property]⟩

def recordSignature : Guid :=
  guid 0x4a111440 0xe49f 0x11cf ⟨[0x99, 0x00, 0x50, 0x51, 0x44, 0x49, 0x46, 0x00], rfl⟩
def recContainer : Guid :=
  guid 0x89738606 0xf1c3 0x11cf ⟨[0x9d, 0x89, 0x00, 0x80, 0xc7, 0x2e, 0x70, 0xa3], rfl⟩
def recDataSource : Guid :=
  guid 0x89738619 0xf1c3 0x11cf ⟨[0x9d, 0x89, 0x00, 0x80, 0xc7, 0x2e, 0x70, 0xa3], rfl⟩
def recSettings : Guid :=
  guid 0xb48d858c 0xf5f5 0x11cf ⟨[0x9d, 0x89, 0x00, 0x80, 0xc7, 0x2e, 0x70, 0xa3], rfl⟩
def recObservation : Guid :=
  guid 0x8973861a 0xf1c3 0x11cf ⟨[0x9d, 0x89, 0x00, 0x80, 0xc7, 0x2e, 0x70, 0xa3], rfl⟩

inductive LayoutErrorCode where
  | outputTooLarge
  | internalError
  | validationFailed
  deriving DecidableEq, Repr

structure LayoutError where
  code : LayoutErrorCode
  message : String
  deriving DecidableEq, Repr

abbrev Laid := Except LayoutError

def failIf (condition : Bool) (code : LayoutErrorCode) (message : String) : Laid Unit :=
  if condition then .error { code, message } else .ok ()

def elementCollection : UInt8 := 1
def elementScalar : UInt8 := 2
def elementVector : UInt8 := 3

def physicalBoolean4 : UInt8 := 3
def physicalChar1 : UInt8 := 10
def physicalInteger4 : UInt8 := 22
def physicalUnsigned4 : UInt8 := 32
def physicalReal8 : UInt8 := 41
def physicalTimestamp : UInt8 := 50
def physicalGuid : UInt8 := 60

/-- What `scalar`, `vector_element` and `collection` make. The values of a vector are those that its
emitter gives to the consumer, and their number of bytes is what was said of it before. -/
inductive Element where
  | scalar (tag : Guid) (physical : UInt8) (data : Bytes)
  | vector (tag : Guid) (physical : UInt8) (count : UInt32) (dataBytes : Nat) (values : Bytes)
  | collection (tag : Guid) (children : List Element)

def scalarU32 (tag : Guid) (value : UInt32) : Element :=
  .scalar tag physicalUnsigned4 (toLittle 4 value.toNat)

def scalarBool (tag : Guid) (value : Bool) : Element :=
  .scalar tag physicalBoolean4 (toLittle 4 (if value then 1 else 0))

/-- `scalar_real`, of the bits of a double. -/
def scalarReal (tag : Guid) (bits : UInt64) : Element :=
  .scalar tag physicalReal8 (toLittle 8 bits.toNat)

def scalarGuid (tag value : Guid) : Element := .scalar tag physicalGuid (guidWire value)

/-- `scalar_timestamp`, of the day and the bits of the seconds that `timestamp_data` computes. -/
def scalarTimestamp (tag : Guid) (day : UInt32) (seconds : UInt64) : Element :=
  .scalar tag physicalTimestamp (toLittle 4 day.toNat ++ toLittle 8 seconds.toNat)

def vectorBytes (tag : Guid) (physical : UInt8) (count : UInt32) (values : Bytes) : Element :=
  .vector tag physical count values.length values

def vectorU32 (tag : Guid) (values : List UInt32) : Laid Element := do
  failIf (2 ^ 32 - 1 < values.length) .outputTooLarge "PQDIF UINT4 vector count exceeds UINT4"
  .ok (vectorBytes tag physicalUnsigned4 (UInt32.ofNat values.length)
    (values.map fun value => toLittle 4 value.toNat).flatten)

def cleanByte (character : UInt8) : UInt8 :=
  if character = 0 ∨ (character < 0x20 ∧ character ≠ 9 ∧ character ≠ 13 ∧ character ≠ 10) then 0x20
  else if character < 0x80 then character
  else 0x3f

def cleanString (input : Bytes) (maximum : Nat) : Bytes := (input.take maximum).map cleanByte

def stringElement (tag : Guid) (input : Bytes) : Element :=
  let value := cleanString input (16 * 1024) ++ [0]
  vectorBytes tag physicalChar1 (UInt32.ofNat value.length) value

def Element.tag : Element → Guid
  | scalar tag _ _ => tag
  | vector tag _ _ _ _ => tag
  | collection tag _ => tag

/-- Whether the wire bytes of the left tag do not come behind those of the right one. -/
def wireOrdered (left right : Element) : Bool :=
  decide (guidWire left.tag ≤ guidWire right.tag)

/-- `collection`: the children in the order of the wire bytes of their tags. -/
def collection (tag : Guid) (children : List Element) : Element :=
  .collection tag (children.mergeSort wireOrdered)

/-- An element with its place in the body. -/
inductive Placed where
  | scalar (tag : Guid) (physical : UInt8) (data : Bytes) (offset size : Nat) (embedded : Bool)
  | vector (tag : Guid) (physical : UInt8) (count : UInt32) (values : Bytes) (offset size : Nat)
  | collection (tag : Guid) (children : List Placed) (offset size : Nat)

namespace Placed

def tag : Placed → Guid
  | scalar tag _ _ _ _ _ => tag
  | vector tag _ _ _ _ _ => tag
  | collection tag _ _ _ => tag

def kind : Placed → UInt8
  | scalar _ _ _ _ _ _ => elementScalar
  | vector _ _ _ _ _ _ => elementVector
  | collection _ _ _ _ => elementCollection

def physical : Placed → UInt8
  | scalar _ physical _ _ _ _ => physical
  | vector _ physical _ _ _ _ => physical
  | collection _ _ _ _ => 0

def offset : Placed → Nat
  | scalar _ _ _ offset _ _ => offset
  | vector _ _ _ _ offset _ => offset
  | collection _ _ offset _ => offset

def size : Placed → Nat
  | scalar _ _ _ _ size _ => size
  | vector _ _ _ _ _ size => size
  | collection _ _ _ size => size

/-- The data of an element that has no block of its own. -/
def embedded : Placed → Option Bytes
  | scalar _ _ data _ _ true => some data
  | _ => none

end Placed

def checkedU32 (value : Nat) (field : String) : Laid Nat := do
  failIf (2 ^ 32 - 1 < value) .outputTooLarge (field ++ " exceeds the PQDIF 32-bit size limit")
  .ok value

def roundedFour (value : Nat) : Nat := (value + 3) / 4 * 4

def alignedFour (value : Nat) : Laid Nat := do
  failIf (2 ^ 64 - 1 - 3 < value) .outputTooLarge "PQDIF element size overflows"
  .ok (roundedFour value)

/-- An element in its place, its blocks in the order of the body, and the cursor behind them. -/
abbrev Assignment := Placed × List Placed × Nat

/-- The body of the loop over the children, with `assign_collection` of the child. -/
def assignChild (nested : Nat → Laid Assignment) : Element → Nat → Laid Assignment
  | .scalar tag physical data, cursor =>
      if data.length ≤ 8 then .ok (.scalar tag physical data 0 0 true, [], cursor)
      else do
        let offset ← checkedU32 cursor "PQDIF element offset"
        let aligned ← alignedFour data.length
        let size ← checkedU32 aligned "PQDIF element size"
        let value := Placed.scalar tag physical data offset size false
        .ok (value, [value], cursor + size)
  | .vector tag physical count dataBytes values, cursor => do
      let offset ← checkedU32 cursor "PQDIF element offset"
      let aligned ← alignedFour (4 + dataBytes)
      let size ← checkedU32 aligned "PQDIF element size"
      let value := Placed.vector tag physical count values offset size
      .ok (value, [value], cursor + size)
  | .collection _ _, cursor => do
      let _ ← checkedU32 cursor "PQDIF element offset"
      nested cursor

mutual

def assignCollection : Element → Nat → Laid Assignment
  | .collection tag children, offset => do
      let own ← checkedU32 offset "PQDIF collection offset"
      let size ← checkedU32 (4 + children.length * 28) "PQDIF collection size"
      let (placed, blocks, cursor) ← assignChildren children (offset + size)
      let value := Placed.collection tag placed own size
      .ok (value, value :: blocks, cursor)
  | _, _ => .error { code := .internalError, message := "PQDIF layout root is not a collection" }

def assignChildren : List Element → Nat → Laid (List Placed × List Placed × Nat)
  | [], cursor => .ok ([], [], cursor)
  | child :: rest, cursor => do
      let (value, blocks, cursor) ← assignChild (assignCollection child) child cursor
      let (placed, later, cursor) ← assignChildren rest cursor
      .ok (value :: placed, blocks ++ later, cursor)

end

structure Layout where
  blocks : List Placed
  bytes : Nat

def layout (root : Element) : Laid Layout := do
  let (_, blocks, cursor) ← assignCollection root 0
  let bytes ← checkedU32 cursor "PQDIF record body"
  .ok { blocks, bytes }

def leU32 (value : Nat) : Bytes := toLittle 4 value

def emitEntry (child : Placed) : Bytes :=
  guidWire child.tag ++ ([child.kind, child.physical,
    if child.embedded.isSome then 1 else 0, 0] ++
    match child.embedded with
    | some data => data ++ zeros (8 - data.length)
    | none => leU32 child.offset ++ leU32 child.size)

def emitCollectionBlock (children : List Placed) : Bytes :=
  leU32 children.length ++ (children.map emitEntry).flatten

def blockContent : Placed → Bytes
  | .scalar _ _ data _ _ _ => data
  | .vector _ _ count values _ _ => leU32 count.toNat ++ values
  | .collection _ children _ _ => emitCollectionBlock children

def emitBlock (value : Placed) : Laid Bytes := do
  let emitted := blockContent value
  failIf (value.size < emitted.length) .internalError
    "PQDIF element emitted more bytes than its layout"
  .ok (emitted ++ zeros (value.size - emitted.length))

def emitBlocks (total : Nat) : List Placed → Nat → Laid Bytes
  | [], cursor => do
      failIf (cursor != total) .internalError "PQDIF layout byte count is inconsistent"
      .ok []
  | block :: rest, cursor => do
      failIf (block.offset != cursor) .internalError "PQDIF layout contains a gap or overlap"
      let bytes ← emitBlock block
      let later ← emitBlocks total rest (cursor + block.size)
      .ok (bytes ++ later)

def emitBody (body : Layout) : Laid Bytes := emitBlocks body.bytes body.blocks 0

end Msap1.Conversion.Pqdif
