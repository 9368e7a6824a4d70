import Msap1.ByteCodec

/-! Fields at fixed offsets of a byte string: reading them, writing them over a string of
zeros, and that writes which do not meet leave each other alone. -/

namespace Msap1.ByteLayout

open ByteCodec

def slice (bytes : Bytes) (offset size : Nat) : Bytes := (bytes.drop offset).take size

def natAt (width : Nat) (bytes : Bytes) (offset : Nat) : Nat := ofLittle (slice bytes offset width)

def u16At (bytes : Bytes) (offset : Nat) : UInt16 := UInt16.ofNat (natAt 2 bytes offset)
def u32At (bytes : Bytes) (offset : Nat) : UInt32 := UInt32.ofNat (natAt 4 bytes offset)
def u64At (bytes : Bytes) (offset : Nat) : UInt64 := UInt64.ofNat (natAt 8 bytes offset)
def s16At (bytes : Bytes) (offset : Nat) : Int16 := (u16At bytes offset).toInt16
def s32At (bytes : Bytes) (offset : Nat) : Int32 := (u32At bytes offset).toInt32
def s64At (bytes : Bytes) (offset : Nat) : Int64 := (u64At bytes offset).toInt64

def zeros (size : Nat) : Bytes := List.replicate size 0

/-- A fixed number of bytes; a string that ends before them reads as zeros. -/
def arrayAt (size : Nat) (bytes : Bytes) (offset : Nat) :
    { array : Bytes // array.length = size } :=
  if whole : (slice bytes offset size).length = size then ⟨slice bytes offset size, whole⟩
  else ⟨zeros size, List.length_replicate⟩

/-- Bytes and the offset that they are written to. -/
structure Write where
  offset : Nat
  data : Bytes

def put (bytes : Bytes) (write : Write) : Bytes :=
  bytes.take write.offset ++ (write.data ++ bytes.drop (write.offset + write.data.length))

def patch (bytes : Bytes) (writes : List Write) : Bytes := writes.foldl put bytes

theorem length_slice {bytes : Bytes} {offset size : Nat} (inside : offset + size ≤ bytes.length) :
    (slice bytes offset size).length = size := by
  rw [slice, List.length_take, List.length_drop]
  omega

theorem getElem?_slice (bytes : Bytes) (offset size index : Nat) :
    (slice bytes offset size)[index]? = if index < size then bytes[offset + index]? else none := by
  rw [slice, List.getElem?_take, List.getElem?_drop]

theorem slice_eq_iff {first second : Bytes} {offset size : Nat} :
    slice first offset size = slice second offset size ↔
      ∀ index < size, first[offset + index]? = second[offset + index]? := by
  constructor
  · intro same index bound
    have here := congrArg (fun list => list[index]?) same
    simpa only [getElem?_slice, bound, if_true] using here
  · intro each
    apply List.ext_getElem?
    intro index
    rw [getElem?_slice, getElem?_slice]
    split
    · next bound => exact each index bound
    · rfl

theorem slice_slice (bytes : Bytes) {offset size inner count : Nat}
    (inside : inner + count ≤ size) :
    slice (slice bytes offset size) inner count = slice bytes (offset + inner) count := by
  apply List.ext_getElem?
  intro index
  simp only [getElem?_slice]
  split
  · next bound => rw [if_pos (by omega), Nat.add_assoc]
  · rfl

theorem slice_append_left {first second : Bytes} {offset size : Nat}
    (inside : offset + size ≤ first.length) :
    slice (first ++ second) offset size = slice first offset size := by
  rw [slice_eq_iff]
  intro index bound
  exact List.getElem?_append_left (by omega)

theorem slice_append_right (first second : Bytes) (offset size : Nat) :
    slice (first ++ second) (first.length + offset) size = slice second offset size := by
  rw [slice, slice, ← List.drop_drop, List.drop_left]

end Msap1.ByteLayout
