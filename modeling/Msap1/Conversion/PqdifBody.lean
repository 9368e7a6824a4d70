import Msap1.Conversion.PqdifLayout
import Msap1.Placement

/-! The body of a PQDIF record: a reader that follows the links of the entries finds again the tree
that was laid out. -/

namespace Msap1.Conversion.Pqdif

open ByteCodec ByteLayout Placement

def physicalSize (physical : UInt8) : Nat :=
  if physical = physicalChar1 then 1
  else if physical = physicalBoolean4 ∨ physical = physicalInteger4 ∨
      physical = physicalUnsigned4 then 4
  else if physical = physicalReal8 then 8
  else if physical = physicalTimestamp then 12
  else if physical = physicalGuid then 16
  else 0

/-- An element whose data has the length that its physical type says. -/
inductive WellFormed : Element → Prop
  | scalar {tag : Guid} {physical : UInt8} {data : Bytes} :
      data.length = physicalSize physical → WellFormed (.scalar tag physical data)
  | vector {tag : Guid} {physical : UInt8} {count : UInt32} {values : Bytes} :
      values.length = count.toNat * physicalSize physical →
      WellFormed (.vector tag physical count values.length values)
  | collection {tag : Guid} {children : List Element} :
      (∀ child ∈ children, WellFormed child) → WellFormed (.collection tag children)

mutual

def extent : Element → Nat
  | .scalar _ _ data => if data.length ≤ 8 then 0 else roundedFour data.length
  | .vector _ _ _ dataBytes _ => roundedFour (4 + dataBytes)
  | .collection _ children => 4 + children.length * 28 + extents children

def extents : List Element → Nat
  | [] => 0
  | child :: rest => extent child + extents rest

end

def readTag (entry : Bytes) : Guid :=
  ⟨permuted (slice entry 0 16), by rw [permuted, List.length_map]; rfl⟩

/-- What an entry says, with the reader of the collections it links to. -/
def readEntry (nested : Nat → Nat → Option (List Element)) (body entry : Bytes) : Option Element :=
  let kind := entry.getD 16 0
  let physical := entry.getD 17 0
  let offset := natAt 4 entry 20
  let size := natAt 4 entry 24
  let data := if entry.getD 18 0 = 1 then slice entry 20 8 else slice body offset size
  if kind = elementScalar then
    some (.scalar (readTag entry) physical (data.take (physicalSize physical)))
  else if kind = elementVector then
    let count := u32At data 0
    some (vectorBytes (readTag entry) physical count
      (slice data 4 (count.toNat * physicalSize physical)))
  else if kind = elementCollection then (nested offset size).map (.collection (readTag entry))
  else none

def entriesAt (body : Bytes) (offset : Nat) : Nat → List Bytes
  | 0 => []
  | count + 1 => slice body offset 28 :: entriesAt body (offset + 28) count

def readCollection (body : Bytes) : Nat → Nat → Nat → Option (List Element)
  | 0, _, _ => none
  | fuel + 1, offset, size =>
      let count := natAt 4 body offset
      if size = 4 + count * 28 then
        (entriesAt body (offset + 4) count).mapM (readEntry (readCollection body fuel) body)
      else none

def readBody (body : Bytes) : Option (List Element) :=
  readCollection body body.length 0 (4 + natAt 4 body 0 * 28)

def padded (block : Placed) : Bytes :=
  blockContent block ++ zeros (block.size - (blockContent block).length)

/-- The blocks stand in a body at their offsets. -/
def Stands (body : Bytes) (blocks : List Placed) : Prop :=
  ∀ block ∈ blocks, slice body block.offset block.size = padded block

section Constructors

variable (tag : Guid)

theorem wellFormed_scalarU32 (value : UInt32) : WellFormed (scalarU32 tag value) :=
  .scalar (length_toLittle 4 _)

theorem wellFormed_scalarBool (value : Bool) : WellFormed (scalarBool tag value) :=
  .scalar (length_toLittle 4 _)

theorem wellFormed_scalarReal (bits : UInt64) : WellFormed (scalarReal tag bits) :=
  .scalar (length_toLittle 8 _)

theorem wellFormed_scalarGuid (value : Guid) : WellFormed (scalarGuid tag value) :=
  .scalar rfl

theorem wellFormed_scalarTimestamp (day : UInt32) (seconds : UInt64) :
    WellFormed (scalarTimestamp tag day seconds) := by
  have size : (toLittle 4 day.toNat ++ toLittle 8 seconds.toNat).length = 12 := by
    rw [List.length_append, length_toLittle, length_toLittle]
  exact .scalar size

theorem wellFormed_vectorU32 {values : List UInt32} {element : Element}
    (made : vectorU32 tag values = .ok element) : WellFormed element := by
  rcases Loops.bind_ok made with ⟨⟨⟩, bound, returned⟩
  unfold failIf at bound
  split at bound
  · cases bound
  · next small =>
      rw [decide_eq_true_iff] at small
      cases returned
      apply WellFormed.vector
      have each : ∀ entry ∈ values.map fun value => toLittle 4 value.toNat, entry.length = 4 := by
        intro entry mapped
        rcases List.mem_map.mp mapped with ⟨value, -, rfl⟩
        exact length_toLittle 4 _
      rw [List.length_flatten, List.map_congr_left each, List.map_const', List.sum_replicate,
        List.length_map, UInt32.toNat_ofNat_of_lt' (by simp [UInt32.size]; omega)]
      rfl

theorem wellFormed_stringElement (input : Bytes) : WellFormed (stringElement tag input) := by
  have short : (cleanString input (16 * 1024) ++ [0]).length ≤ 16 * 1024 + 1 := by
    rw [List.length_append, cleanString, List.length_map, List.length_take, List.length_singleton]
    omega
  apply WellFormed.vector
  rw [UInt32.toNat_ofNat_of_lt' (Nat.lt_of_le_of_lt short (by decide))]
  exact (Nat.mul_one _).symm

theorem wellFormed_collection {children : List Element}
    (each : ∀ child ∈ children, WellFormed child) :
    WellFormed (collection tag children) :=
  .collection fun child member => each child (List.mem_mergeSort.mp member)

end Constructors

section Entries

@[simp] theorem permuted_permuted (value : Guid) : permuted (permuted value.val) = value.val := by
  rcases value with ⟨bytes, length⟩
  match bytes, length with
  | [_, _, _, _, _, _, _, _, _, _, _, _, _, _, _, _], _ => rfl

@[simp] theorem length_guidWire (value : Guid) : (guidWire value).length = 16 := by
  rw [guidWire, permuted, List.length_map]
  rfl

@[simp] theorem length_leU32 (value : Nat) : (leU32 value).length = 4 := length_toLittle 4 value

theorem ofLittle_leU32 {value : Nat} (bound : value < 2 ^ 32) : ofLittle (leU32 value) = value :=
  ofLittle_toLittle 4 value (by omega)

theorem slice_exact (front middle behind : Bytes) {offset size : Nat}
    (starts : front.length = offset) (sized : middle.length = size) :
    slice (front ++ (middle ++ behind)) offset size = middle := by
  rw [← starts, ← Nat.add_zero front.length, slice_append_right, slice, List.drop_zero, ← sized,
    List.take_left]

theorem length_zeros (size : Nat) : (zeros size).length = size := List.length_replicate

theorem length_flatten_of_sized {entries : List Bytes} {size : Nat}
    (each : ∀ entry ∈ entries, entry.length = size) :
    entries.flatten.length = entries.length * size := by
  rw [List.length_flatten, List.map_congr_left each, List.map_const', List.sum_replicate,
    smul_eq_mul]

def entryData (child : Placed) : Bytes :=
  match child.embedded with
  | some data => data ++ zeros (8 - data.length)
  | none => leU32 child.offset ++ leU32 child.size

def entryKind (child : Placed) : Bytes :=
  [child.kind, child.physical, if child.embedded.isSome then 1 else 0, 0]

theorem emitEntry_eq (child : Placed) :
    emitEntry child = guidWire child.tag ++ (entryKind child ++ entryData child) := rfl

/-- An entry whose data fits into it. -/
def Compact (child : Placed) : Prop := ∀ data ∈ child.embedded, data.length ≤ 8

theorem length_entryData {child : Placed} (compact : Compact child) :
    (entryData child).length = 8 := by
  unfold entryData
  split
  · next data embedded =>
      have short := compact data embedded
      rw [List.length_append, length_zeros]
      omega
  · rw [List.length_append, length_leU32, length_leU32]

theorem length_emitEntry {child : Placed} (compact : Compact child) :
    (emitEntry child).length = 28 := by
  rw [emitEntry_eq, List.length_append, List.length_append, length_guidWire,
    length_entryData compact]
  rfl

theorem readTag_emitEntry (child : Placed) : readTag (emitEntry child) = child.tag := by
  apply Subtype.ext
  have front : slice (emitEntry child) 0 16 = guidWire child.tag :=
    slice_exact [] _ _ rfl (length_guidWire _)
  have whole : (readTag (emitEntry child)).val = permuted (slice (emitEntry child) 0 16) := rfl
  rw [whole, front, guidWire, permuted_permuted]

theorem kind_emitEntry (child : Placed) (index : Nat) (inside : index < 4) :
    (emitEntry child).getD (16 + index) 0 = (entryKind child).getD index 0 := by
  rw [emitEntry_eq, List.getD_eq_getElem?_getD, List.getD_eq_getElem?_getD,
    List.getElem?_append_right (by rw [length_guidWire]; omega), length_guidWire,
    Nat.add_sub_cancel_left, List.getElem?_append_left (by exact inside)]

theorem data_emitEntry {child : Placed} (compact : Compact child) :
    slice (emitEntry child) 20 8 = entryData child := by
  have before : (guidWire child.tag ++ entryKind child).length = 20 := by
    rw [List.length_append, length_guidWire]
    rfl
  have placed := slice_exact _ _ [] before (length_entryData compact)
  rwa [List.append_nil, List.append_assoc] at placed

theorem link_emitEntry {child : Placed} (linked : child.embedded = none)
    (offset : child.offset < 2 ^ 32) (size : child.size < 2 ^ 32) :
    natAt 4 (emitEntry child) 20 = child.offset ∧ natAt 4 (emitEntry child) 24 = child.size := by
  have compact : Compact child := by
    intro data embedded
    rw [linked] at embedded
    cases embedded
  have link : slice (emitEntry child) 20 8 = leU32 child.offset ++ leU32 child.size := by
    rw [data_emitEntry compact, entryData, linked]
  constructor
  · have first : slice (emitEntry child) 20 4 = leU32 child.offset := by
      have inner : slice (slice (emitEntry child) 20 8) 0 4 = slice (emitEntry child) 20 4 :=
        slice_slice _ (by omega)
      rw [← inner, link]
      exact slice_exact [] _ _ rfl (length_leU32 _)
    rw [natAt, first, ofLittle_leU32 offset]
  · have second : slice (emitEntry child) 24 4 = leU32 child.size := by
      have inner : slice (slice (emitEntry child) 20 8) 4 4 = slice (emitEntry child) 24 4 :=
        slice_slice _ (by omega)
      rw [← inner, link]
      have placed := slice_exact (leU32 child.offset) (leU32 child.size) [] (length_leU32 _)
        (length_leU32 _)
      rwa [List.append_nil] at placed
    rw [natAt, second, ofLittle_leU32 size]

variable {nested : Nat → Nat → Option (List Element)} {body : Bytes}

theorem readEntry_embedded {tag : Guid} {physical : UInt8} {data : Bytes}
    (sized : data.length = physicalSize physical) (short : data.length ≤ 8) :
    readEntry nested body (emitEntry (.scalar tag physical data 0 0 true)) =
      some (.scalar tag physical data) := by
  have compact : Compact (.scalar tag physical data 0 0 true) := by
    intro other same
    cases same
    exact short
  have kind := kind_emitEntry (.scalar tag physical data 0 0 true) 0 (by omega)
  have physicalByte := kind_emitEntry (.scalar tag physical data 0 0 true) 1 (by omega)
  have flag := kind_emitEntry (.scalar tag physical data 0 0 true) 2 (by omega)
  have taken : (data ++ zeros (8 - data.length)).take (physicalSize physical) = data := by
    rw [← sized, List.take_left]
  simp only [readEntry, readTag_emitEntry, data_emitEntry compact]
  rw [kind, physicalByte, flag]
  simp [entryKind, entryData, Placed.embedded, Placed.kind, Placed.physical, Placed.tag, taken]

theorem readEntry_linked (child : Placed) {data : Bytes} (linked : child.embedded = none)
    (offset : child.offset < 2 ^ 32) (size : child.size < 2 ^ 32)
    (stands : slice body child.offset child.size = data) :
    readEntry nested body (emitEntry child) =
      if child.kind = elementScalar then
        some (.scalar child.tag child.physical (data.take (physicalSize child.physical)))
      else if child.kind = elementVector then
        some (vectorBytes child.tag child.physical (u32At data 0)
          (slice data 4 ((u32At data 0).toNat * physicalSize child.physical)))
      else if child.kind = elementCollection then
        (nested child.offset child.size).map (.collection child.tag)
      else none := by
  have kind := kind_emitEntry child 0 (by omega)
  have physicalByte := kind_emitEntry child 1 (by omega)
  have flag := kind_emitEntry child 2 (by omega)
  rcases link_emitEntry linked offset size with ⟨first, second⟩
  simp only [readEntry, readTag_emitEntry]
  rw [kind, physicalByte, flag, first, second, stands]
  simp [entryKind, linked]

section Kinds

variable {tag : Guid} {offset size : Nat} {data : Bytes} (offsetSmall : offset < 2 ^ 32)
  (sizeSmall : size < 2 ^ 32) (stands : slice body offset size = data)

include offsetSmall sizeSmall stands

theorem readEntry_scalar {physical : UInt8} {own : Bytes} :
    readEntry nested body (emitEntry (.scalar tag physical own offset size false)) =
      some (.scalar tag physical (data.take (physicalSize physical))) := by
  have linked := @readEntry_linked nested body (.scalar tag physical own offset size false) data rfl
    offsetSmall sizeSmall stands
  exact linked.trans (if_pos rfl)

theorem readEntry_vector {physical : UInt8} {count : UInt32} {values : Bytes} :
    readEntry nested body (emitEntry (.vector tag physical count values offset size)) =
      some (vectorBytes tag physical (u32At data 0)
        (slice data 4 ((u32At data 0).toNat * physicalSize physical))) := by
  have linked := @readEntry_linked nested body (.vector tag physical count values offset size) data
    rfl offsetSmall sizeSmall stands
  have other : elementVector ≠ elementScalar := by decide
  exact (linked.trans (if_neg other)).trans (if_pos rfl)

theorem readEntry_collection {children : List Placed} :
    readEntry nested body (emitEntry (.collection tag children offset size)) =
      (nested offset size).map (.collection tag) := by
  have linked := @readEntry_linked nested body (.collection tag children offset size) data rfl
    offsetSmall sizeSmall stands
  have other : elementCollection ≠ elementScalar := by decide
  have another : elementCollection ≠ elementVector := by decide
  exact ((linked.trans (if_neg other)).trans (if_neg another)).trans (if_pos rfl)

end Kinds

theorem entriesAt_flatten {entries : List Bytes} {offset : Nat}
    (each : ∀ entry ∈ entries, entry.length = 28)
    (stands : slice body offset (entries.length * 28) = entries.flatten) :
    entriesAt body offset entries.length = entries := by
  induction entries generalizing offset with
  | nil => rfl
  | cons entry rest ih =>
      have here := each entry List.mem_cons_self
      have later := fun other member => each other (List.mem_cons_of_mem _ member)
      have total := length_flatten_of_sized later
      rw [List.flatten_cons] at stands
      have head : slice body offset 28 = entry := by
        have inner : slice (slice body offset ((entry :: rest).length * 28)) 0 28 =
            slice body offset 28 := slice_slice _ (by rw [List.length_cons]; omega)
        rw [← inner, stands]
        exact slice_exact [] _ _ rfl here
      have tail : slice body (offset + 28) (rest.length * 28) = rest.flatten := by
        have inner : slice (slice body offset ((entry :: rest).length * 28)) 28
            (rest.length * 28) = slice body (offset + 28) (rest.length * 28) :=
          slice_slice _ (by rw [List.length_cons]; omega)
        rw [← inner, stands]
        have placed := slice_exact entry rest.flatten [] here total
        rwa [List.append_nil] at placed
      rw [List.length_cons, entriesAt, head, ih later tail]

end Entries

section Assignment

/-- What is known of an element after it got its place: the blocks lie between the cursors, and the
entry leads back to the element in every body in which they stand. -/
structure Assigned (element : Element) (cursor : Nat) (value : Placed) (blocks : List Placed)
    (finish : Nat) : Prop where
  extent : finish = cursor + extent element
  consecutive : Consecutive Placed.offset Placed.size blocks cursor finish
  fits : ∀ block ∈ blocks, (blockContent block).length ≤ block.size
  compact : Compact value
  reads : ∀ body fuel, Stands body blocks → Pqdif.extent element ≤ fuel →
    readEntry (readCollection body fuel) body (emitEntry value) = some element

/-- The same for the children of a collection. -/
structure AssignedAll (children : List Element) (cursor : Nat) (placed blocks : List Placed)
    (finish : Nat) : Prop where
  extent : finish = cursor + extents children
  count : placed.length = children.length
  consecutive : Consecutive Placed.offset Placed.size blocks cursor finish
  fits : ∀ block ∈ blocks, (blockContent block).length ≤ block.size
  compact : ∀ value ∈ placed, Compact value
  reads : ∀ body fuel, Stands body blocks → extents children ≤ fuel →
    (placed.map emitEntry).mapM (readEntry (readCollection body fuel) body) = some children

theorem failIf_ok {condition : Bool} {code : LayoutErrorCode} {message : String} {done : Unit}
    (passed : failIf condition code message = .ok done) : condition = false := by
  unfold failIf at passed
  split at passed
  · cases passed
  · next holds => exact Bool.eq_false_iff.mpr holds

theorem checkedU32_ok {value result : Nat} {field : String}
    (checked : checkedU32 value field = .ok result) : result = value ∧ value < 2 ^ 32 := by
  rcases Loops.bind_ok checked with ⟨⟨⟩, bound, checked⟩
  have small := failIf_ok bound
  rw [decide_eq_false_iff_not] at small
  cases checked
  exact ⟨rfl, by omega⟩

theorem alignedFour_ok {value result : Nat} (aligned : alignedFour value = .ok result) :
    result = roundedFour value := by
  rcases Loops.bind_ok aligned with ⟨⟨⟩, bound, aligned⟩
  cases aligned
  rfl

theorem le_roundedFour (value : Nat) : value ≤ roundedFour value := by
  unfold roundedFour
  omega

theorem length_padded {block : Placed} (fits : (blockContent block).length ≤ block.size) :
    (padded block).length = block.size := by
  rw [padded, List.length_append, length_zeros]
  omega

theorem stands_left {body : Bytes} {first second : List Placed}
    (stands : Stands body (first ++ second)) : Stands body first :=
  fun block member => stands block (List.mem_append_left _ member)

theorem stands_right {body : Bytes} {first second : List Placed}
    (stands : Stands body (first ++ second)) : Stands body second :=
  fun block member => stands block (List.mem_append_right _ member)

theorem assigned_embedded {tag : Guid} {physical : UInt8} {data : Bytes} {cursor : Nat}
    (sized : data.length = physicalSize physical) (short : data.length ≤ 8) :
    Assigned (.scalar tag physical data) cursor (.scalar tag physical data 0 0 true) [] cursor where
  extent := by rw [extent, if_pos short, Nat.add_zero]
  consecutive := rfl
  fits := fun block member => absurd member List.not_mem_nil
  compact := by
    intro other same
    cases same
    exact short
  reads := fun _ _ _ _ => readEntry_embedded sized short

theorem assigned_scalar {tag : Guid} {physical : UInt8} {data : Bytes} {cursor : Nat}
    (sized : data.length = physicalSize physical) (long : ¬data.length ≤ 8)
    (offset : cursor < 2 ^ 32) (size : roundedFour data.length < 2 ^ 32) :
    Assigned (.scalar tag physical data) cursor
      (.scalar tag physical data cursor (roundedFour data.length) false)
      [.scalar tag physical data cursor (roundedFour data.length) false]
      (cursor + roundedFour data.length) where
  extent := by rw [extent, if_neg long]
  consecutive := ⟨rfl, rfl⟩
  fits := by
    intro block member
    rw [List.mem_singleton.mp member]
    exact le_roundedFour _
  compact := by
    intro other same
    cases same
  reads := by
    intro body fuel stands enough
    have here := stands _ List.mem_cons_self
    rw [readEntry_scalar offset size here]
    have taken : (padded (.scalar tag physical data cursor (roundedFour data.length) false)).take
        (physicalSize physical) = data := by
      rw [← sized, padded]
      exact List.take_left
    rw [taken]

theorem assigned_vector {tag : Guid} {physical : UInt8} {count : UInt32} {values : Bytes}
    {cursor : Nat} (sized : values.length = count.toNat * physicalSize physical)
    (offset : cursor < 2 ^ 32) (size : roundedFour (4 + values.length) < 2 ^ 32) :
    Assigned (.vector tag physical count values.length values) cursor
      (.vector tag physical count values cursor (roundedFour (4 + values.length)))
      [.vector tag physical count values cursor (roundedFour (4 + values.length))]
      (cursor + roundedFour (4 + values.length)) where
  extent := by rw [extent]
  consecutive := ⟨rfl, rfl⟩
  fits := by
    intro block member
    rw [List.mem_singleton.mp member, blockContent, List.length_append, length_leU32]
    exact le_roundedFour _
  compact := by
    intro other same
    cases same
  reads := by
    intro body fuel stands enough
    have here := stands _ List.mem_cons_self
    rw [readEntry_vector offset size here]
    generalize zeroed : zeros
      (roundedFour (4 + values.length) - (leU32 count.toNat ++ values).length)
      = padding
    have shape : padded (.vector tag physical count values cursor (roundedFour (4 + values.length)))
        = leU32 count.toNat ++ (values ++ padding) := by
      rw [← List.append_assoc, ← zeroed]
      rfl
    have number : u32At (leU32 count.toNat ++ (values ++ padding)) 0 = count := by
      have first : slice (leU32 count.toNat ++ (values ++ padding)) 0 4 = leU32 count.toNat :=
        slice_exact [] _ _ rfl (length_leU32 _)
      rw [u32At, natAt, first, ofLittle_leU32 count.toNat_lt]
      exact UInt32.ofNat_toNat
    have inside : slice (leU32 count.toNat ++ (values ++ padding)) 4
        (count.toNat * physicalSize physical) = values :=
      slice_exact _ _ _ (length_leU32 _) sized
    rw [shape, number, inside]
    rfl

section Collection

variable {children : List Element} {cursor finish : Nat} {placed blocks : List Placed}

theorem length_entry (each : AssignedAll children cursor placed blocks finish) {entry : Bytes}
    (member : entry ∈ placed.map emitEntry) : entry.length = 28 := by
  rcases List.mem_map.mp member with ⟨value, inside, rfl⟩
  exact length_emitEntry (each.compact value inside)

theorem length_entries (each : AssignedAll children cursor placed blocks finish) :
    (placed.map emitEntry).flatten.length = children.length * 28 := by
  rw [length_flatten_of_sized fun entry member => length_entry each member, List.length_map,
    each.count]

theorem length_emitCollectionBlock (each : AssignedAll children cursor placed blocks finish) :
    (emitCollectionBlock placed).length = 4 + children.length * 28 := by
  rw [emitCollectionBlock, List.length_append, length_leU32, length_entries each]

theorem padded_collection (each : AssignedAll children cursor placed blocks finish) {tag : Guid}
    {offset : Nat} : padded (.collection tag placed offset (4 + children.length * 28)) =
      emitCollectionBlock placed := by
  have exact := length_emitCollectionBlock each
  rw [padded, blockContent, exact, Placed.size, Nat.sub_self]
  exact List.append_nil _

theorem count_stands (each : AssignedAll children cursor placed blocks finish)
    (small : 4 + children.length * 28 < 2 ^ 32) {body : Bytes} {offset : Nat}
    (here : slice body offset (4 + children.length * 28) = emitCollectionBlock placed) :
    natAt 4 body offset = children.length := by
  have inner : slice (slice body offset (4 + children.length * 28)) 0 4 = slice body offset 4 :=
    slice_slice _ (by omega)
  rw [here] at inner
  have first : slice (emitCollectionBlock placed) 0 4 = leU32 placed.length :=
    slice_exact [] _ _ rfl (length_leU32 _)
  rw [natAt, ← inner, first, each.count, ofLittle_leU32 (by omega)]

theorem readCollection_stands (each : AssignedAll children cursor placed blocks finish)
    (small : 4 + children.length * 28 < 2 ^ 32) {body : Bytes} {offset fuel : Nat}
    (here : slice body offset (4 + children.length * 28) = emitCollectionBlock placed)
    (stands : Stands body blocks) (enough : extents children ≤ fuel) :
    readCollection body (fuel + 1) offset (4 + children.length * 28) = some children := by
  have entries : entriesAt body (offset + 4) children.length = placed.map emitEntry := by
    have inner : slice (slice body offset (4 + children.length * 28)) 4 (children.length * 28) =
        slice body (offset + 4) (children.length * 28) := slice_slice _ (le_refl _)
    have whole := slice_exact (leU32 placed.length) (placed.map emitEntry).flatten []
      (length_leU32 _) (length_entries each)
    rw [List.append_nil] at whole
    have same : children.length = (placed.map emitEntry).length := by
      rw [List.length_map, each.count]
    rw [here, emitCollectionBlock, whole] at inner
    rw [same] at inner ⊢
    exact entriesAt_flatten (fun entry member => length_entry each member) inner.symm
  rw [readCollection, count_stands each small here, if_pos rfl, entries]
  exact each.reads body fuel stands enough

theorem readBody_stands (each : AssignedAll children cursor placed blocks finish)
    (small : 4 + children.length * 28 < 2 ^ 32) {body : Bytes}
    (here : slice body 0 (4 + children.length * 28) = emitCollectionBlock placed)
    (stands : Stands body blocks) (enough : extents children < body.length) :
    readBody body = some children := by
  obtain ⟨less, fuel⟩ : ∃ less, body.length = less + 1 := ⟨body.length - 1, by omega⟩
  rw [readBody, count_stands each small here, fuel]
  exact readCollection_stands each small here stands (by omega)

end Collection

theorem assigned_collection {tag : Guid} {children : List Element} {cursor finish : Nat}
    {placed blocks : List Placed} (offset : cursor < 2 ^ 32)
    (size : 4 + children.length * 28 < 2 ^ 32)
    (each : AssignedAll children (cursor + (4 + children.length * 28)) placed blocks finish) :
    Assigned (.collection tag children) cursor
      (.collection tag placed cursor (4 + children.length * 28))
      (.collection tag placed cursor (4 + children.length * 28) :: blocks) finish where
  extent := by
    rw [each.extent, extent]
    omega
  consecutive := ⟨rfl, each.consecutive⟩
  fits := by
    intro block member
    rcases List.mem_cons.mp member with rfl | later
    · exact (length_emitCollectionBlock each).le
    · exact each.fits block later
  compact := by
    intro other same
    cases same
  reads := by
    intro body fuel stands enough
    have here : slice body cursor (4 + children.length * 28) = emitCollectionBlock placed := by
      rw [← padded_collection each]
      exact stands _ List.mem_cons_self
    rw [readEntry_collection offset size here]
    rw [Pqdif.extent] at enough
    obtain ⟨less, rfl⟩ : ∃ less, fuel = less + 1 := ⟨fuel - 1, by omega⟩
    have later : Stands body blocks :=
      fun block member => stands block (List.mem_cons_of_mem _ member)
    have inside : extents children ≤ less := by omega
    rw [readCollection_stands each size here later inside]
    rfl

theorem assignedAll_nil {cursor : Nat} : AssignedAll [] cursor [] [] cursor where
  extent := rfl
  count := rfl
  consecutive := rfl
  fits := fun _ member => absurd member List.not_mem_nil
  compact := fun _ member => absurd member List.not_mem_nil
  reads := fun _ _ _ _ => rfl

theorem assignedAll_cons {child : Element} {rest : List Element} {cursor middle finish : Nat}
    {value : Placed} {placed blocks later : List Placed}
    (first : Assigned child cursor value blocks middle)
    (others : AssignedAll rest middle placed later finish) :
    AssignedAll (child :: rest) cursor (value :: placed) (blocks ++ later) finish where
  extent := by
    rw [others.extent, first.extent, extents]
    omega
  count := by rw [List.length_cons, List.length_cons, others.count]
  consecutive := consecutive_append first.consecutive others.consecutive
  fits := by
    intro block member
    rcases List.mem_append.mp member with here | there
    · exact first.fits block here
    · exact others.fits block there
  compact := by
    intro other member
    rcases List.mem_cons.mp member with rfl | there
    · exact first.compact
    · exact others.compact other there
  reads := by
    intro body fuel stands enough
    rw [extents] at enough
    have here := first.reads body fuel (stands_left stands) (by omega)
    have there := others.reads body fuel (stands_right stands) (by omega)
    rw [List.map_cons, List.mapM_cons, here, there]
    rfl

theorem assignChild_assigned {nested : Nat → Laid Assignment} {element : Element} {cursor : Nat}
    {value : Placed} {blocks : List Placed} {finish : Nat} (wellFormed : WellFormed element)
    (collected : nested cursor = .ok (value, blocks, finish) →
      Assigned element cursor value blocks finish)
    (assigned : assignChild nested element cursor = .ok (value, blocks, finish)) :
    Assigned element cursor value blocks finish := by
  cases element with
  | scalar tag physical data =>
      rcases wellFormed with ⟨sized⟩
      rw [assignChild] at assigned
      split at assigned
      · next short =>
          cases assigned
          exact assigned_embedded sized short
      · next long =>
          rcases Loops.bind_ok assigned with ⟨offset, placed, assigned⟩
          rcases Loops.bind_ok assigned with ⟨aligned, rounded, assigned⟩
          rcases Loops.bind_ok assigned with ⟨size, small, assigned⟩
          rcases checkedU32_ok placed with ⟨rfl, offsetSmall⟩
          rw [alignedFour_ok rounded] at small
          rcases checkedU32_ok small with ⟨rfl, sizeSmall⟩
          cases assigned
          exact assigned_scalar sized long offsetSmall sizeSmall
  | vector tag physical count dataBytes values =>
      rcases wellFormed with _ | sized
      rw [assignChild] at assigned
      rcases Loops.bind_ok assigned with ⟨offset, placed, assigned⟩
      rcases Loops.bind_ok assigned with ⟨aligned, rounded, assigned⟩
      rcases Loops.bind_ok assigned with ⟨size, small, assigned⟩
      rcases checkedU32_ok placed with ⟨rfl, offsetSmall⟩
      rw [alignedFour_ok rounded] at small
      rcases checkedU32_ok small with ⟨rfl, sizeSmall⟩
      cases assigned
      exact assigned_vector sized offsetSmall sizeSmall
  | collection tag children =>
      rw [assignChild] at assigned
      rcases Loops.bind_ok assigned with ⟨offset, placed, rooted⟩
      exact collected rooted

mutual

theorem assignCollection_assigned (element : Element) (cursor : Nat) {value : Placed}
    {blocks : List Placed} {finish : Nat} (wellFormed : WellFormed element)
    (assigned : assignCollection element cursor = .ok (value, blocks, finish)) :
    Assigned element cursor value blocks finish := by
  cases element with
  | scalar tag physical data => cases assigned
  | vector tag physical count dataBytes values => cases assigned
  | collection tag children =>
      rcases wellFormed with _ | _ | each
      rw [assignCollection] at assigned
      rcases Loops.bind_ok assigned with ⟨own, placed, sized⟩
      rcases checkedU32_ok placed with ⟨rfl, offsetSmall⟩
      rcases Loops.bind_ok sized with ⟨size, small, nested⟩
      rcases checkedU32_ok small with ⟨rfl, sizeSmall⟩
      rcases Loops.bind_ok nested with ⟨⟨values, blocks, last⟩, inner, returned⟩
      cases returned
      exact assigned_collection offsetSmall sizeSmall
        (assignChildren_assigned children _ each inner)

theorem assignChildren_assigned (children : List Element) (cursor : Nat)
    {placed blocks : List Placed} {finish : Nat} (each : ∀ child ∈ children, WellFormed child)
    (assigned : assignChildren children cursor = .ok (placed, blocks, finish)) :
    AssignedAll children cursor placed blocks finish := by
  cases children with
  | nil =>
      cases assigned
      exact assignedAll_nil
  | cons child rest =>
      rw [assignChildren] at assigned
      rcases Loops.bind_ok assigned with ⟨⟨value, blocks, middle⟩, first, assigned⟩
      rcases Loops.bind_ok assigned with ⟨⟨placed, later, last⟩, others, assigned⟩
      cases assigned
      have formed := each child List.mem_cons_self
      exact assignedAll_cons
        (assignChild_assigned formed (assignCollection_assigned child cursor formed) first)
        (assignChildren_assigned rest middle
          (fun other member => each other (List.mem_cons_of_mem _ member)) others)

end

end Assignment

section Emission

theorem emitBlocks_padded {blocks : List Placed} {cursor total : Nat}
    (placed : Consecutive Placed.offset Placed.size blocks cursor total)
    (fits : ∀ block ∈ blocks, (blockContent block).length ≤ block.size) :
    emitBlocks total blocks cursor = .ok (blocks.map padded).flatten := by
  induction blocks generalizing cursor with
  | nil =>
      have same : (cursor != total) = false := bne_eq_false_iff_eq.mpr placed
      rw [emitBlocks, same]
      rfl
  | cons block rest ih =>
      have here := fits block List.mem_cons_self
      have later := ih placed.2 fun other member => fits other (List.mem_cons_of_mem _ member)
      have offset : (block.offset != cursor) = false := bne_eq_false_iff_eq.mpr placed.1
      have size : decide (block.size < (blockContent block).length) = false := by
        rw [decide_eq_false_iff_not]
        omega
      rw [emitBlocks, offset, emitBlock, later]
      simp only [size]
      rfl

mutual

theorem four_dvd_extent (element : Element) : 4 ∣ extent element := by
  cases element with
  | scalar tag physical data =>
      rw [extent]
      split
      · exact Nat.dvd_zero 4
      · exact Nat.dvd_mul_left 4 _
  | vector tag physical count dataBytes values => exact Nat.dvd_mul_left 4 _
  | collection tag children =>
      have inner := four_dvd_extents children
      rw [extent]
      omega

theorem four_dvd_extents (children : List Element) : 4 ∣ extents children := by
  cases children with
  | nil => exact Nat.dvd_zero 4
  | cons child rest => exact Nat.dvd_add (four_dvd_extent child) (four_dvd_extents rest)

end

/-- What the emission of a body writes is as long as the layout says, and reads back as the
children of its root. -/
theorem emitBody_reads {root : Element} (wellFormed : WellFormed root) {body : Layout}
    (laid : layout root = .ok body) :
    ∃ tag children bytes, root = .collection tag children ∧ emitBody body = .ok bytes ∧
      bytes.length = extent root ∧ bytes.length = body.bytes ∧ readBody bytes = some children := by
  cases root with
  | scalar tag physical data => cases laid
  | vector tag physical count dataBytes values => cases laid
  | collection tag children =>
      rcases wellFormed with _ | _ | each
      rw [layout] at laid
      rcases Loops.bind_ok laid with ⟨⟨value, blocks, cursor⟩, assigned, measured⟩
      rcases Loops.bind_ok measured with ⟨bytes, whole, returned⟩
      rcases checkedU32_ok whole with ⟨rfl, -⟩
      cases returned
      rw [assignCollection] at assigned
      rcases Loops.bind_ok assigned with ⟨own, placed, sized⟩
      rcases checkedU32_ok placed with ⟨rfl, offsetSmall⟩
      rcases Loops.bind_ok sized with ⟨size, small, nested⟩
      rcases checkedU32_ok small with ⟨rfl, sizeSmall⟩
      rcases Loops.bind_ok nested with ⟨⟨values, inner, last⟩, found, returned⟩
      cases returned
      have all := assignChildren_assigned children _ each found
      have whole : Assigned (.collection tag children) 0 _ _ _ :=
        assigned_collection offsetSmall sizeSmall all
      have lengths := fun block member => length_padded (whole.fits block member)
      have total := length_contents whole.consecutive lengths
      rw [Nat.zero_add] at total
      have stands : Stands (List.map padded _).flatten _ :=
        fun block member => slice_block whole.consecutive lengths List.length_nil member
      have size := whole.extent
      rw [Nat.zero_add] at size
      refine ⟨tag, children, _, rfl, emitBlocks_padded whole.consecutive whole.fits,
        total.trans size, total, ?_⟩
      have here : slice _ 0 (4 + children.length * 28) = emitCollectionBlock values :=
        (stands _ List.mem_cons_self).trans (padded_collection all)
      have later := fun block member => stands block (List.mem_cons_of_mem _ member)
      rw [extent] at size
      exact readBody_stands all sizeSmall here later (by rw [total]; omega)

theorem ok_bind {Given Result : Type} (value : Given) (rest : Given → Laid Result) :
    (Except.ok value >>= rest) = rest value := rfl

theorem checkedU32_small {value : Nat} (small : value < 2 ^ 32) (field : String) :
    checkedU32 value field = .ok value := by
  have bound : decide (2 ^ 32 - 1 < value) = false := decide_eq_false (by omega)
  rw [checkedU32, bound]
  rfl

theorem alignedFour_small {value : Nat} (small : roundedFour value < 2 ^ 32) :
    alignedFour value = .ok (roundedFour value) := by
  have below := le_roundedFour value
  have bound : decide (2 ^ 64 - 1 - 3 < value) = false := decide_eq_false (by omega)
  rw [alignedFour, bound]
  rfl

theorem assignChild_small {nested : Nat → Laid Assignment} (element : Element) {cursor : Nat}
    (small : cursor + extent element < 2 ^ 32)
    (collected : ∀ tag children, element = .collection tag children →
      ∃ value blocks, nested cursor = .ok (value, blocks, cursor + extent element)) :
    ∃ value blocks, assignChild nested element cursor =
      .ok (value, blocks, cursor + extent element) := by
  cases element with
  | scalar tag physical data =>
      rw [extent] at small ⊢
      rw [assignChild]
      split
      · exact ⟨_, _, rfl⟩
      · next long =>
          rw [if_neg long] at small
          rw [checkedU32_small (by omega), alignedFour_small (by omega), ok_bind, ok_bind,
            checkedU32_small (by omega)]
          exact ⟨_, _, rfl⟩
  | vector tag physical count dataBytes values =>
      rw [extent] at small ⊢
      rw [assignChild, checkedU32_small (by omega), alignedFour_small (by omega), ok_bind, ok_bind,
        checkedU32_small (by omega)]
      exact ⟨_, _, rfl⟩
  | collection tag children =>
      rw [assignChild, checkedU32_small (by omega), ok_bind]
      exact collected tag children rfl

mutual

theorem assignCollection_small (element : Element) {cursor : Nat}
    (small : cursor + extent element < 2 ^ 32) :
    ∀ tag children, element = .collection tag children →
      ∃ value blocks, assignCollection element cursor =
        .ok (value, blocks, cursor + extent element) := by
  cases element with
  | scalar tag physical data => exact nofun
  | vector tag physical count dataBytes values => exact nofun
  | collection tag children =>
      intro _ _ _
      rw [extent] at small ⊢
      have behind : cursor + (4 + children.length * 28) + extents children < 2 ^ 32 := by omega
      rcases assignChildren_small children behind with ⟨placed, blocks, inner⟩
      rw [assignCollection, checkedU32_small (by omega), ok_bind, checkedU32_small (by omega),
        ok_bind, inner, ok_bind, Nat.add_assoc]
      exact ⟨_, _, rfl⟩

theorem assignChildren_small (children : List Element) {cursor : Nat}
    (small : cursor + extents children < 2 ^ 32) :
    ∃ placed blocks, assignChildren children cursor =
      .ok (placed, blocks, cursor + extents children) := by
  cases children with
  | nil => exact ⟨[], [], rfl⟩
  | cons child rest =>
      rw [extents] at small ⊢
      have here : cursor + extent child < 2 ^ 32 := by omega
      have behind : cursor + extent child + extents rest < 2 ^ 32 := by omega
      rcases assignChild_small child here (assignCollection_small child here) with
        ⟨value, blocks, first⟩
      rcases assignChildren_small rest behind with ⟨placed, later, others⟩
      refine ⟨value :: placed, blocks ++ later, ?_⟩
      rw [assignChildren, first, ok_bind]
      simp only [others, ok_bind, Nat.add_assoc]

end

theorem layout_small {tag : Guid} {children : List Element}
    (small : extent (.collection tag children) < 2 ^ 32) :
    ∃ body, layout (.collection tag children) = .ok body := by
  rw [← Nat.zero_add (extent _)] at small
  rcases assignCollection_small _ small tag children rfl with ⟨value, blocks, assigned⟩
  simp only [layout, assigned, ok_bind, checkedU32_small small]
  exact ⟨_, rfl⟩

theorem layout_bytes {root : Element} {body : Layout} (laid : layout root = .ok body) :
    body.bytes < 2 ^ 32 := by
  rw [layout] at laid
  rcases Loops.bind_ok laid with ⟨⟨value, blocks, cursor⟩, assigned, measured⟩
  rcases Loops.bind_ok measured with ⟨bytes, whole, returned⟩
  rcases checkedU32_ok whole with ⟨rfl, small⟩
  cases returned
  exact small

/-- A tree is emitted whenever its blocks fit 32 bits, without a gap, an overlap or a block longer
than its place, as whole words of four bytes that read back as the tree. -/
theorem tree_emitted_iff {tag : Guid} {children : List Element}
    (wellFormed : ∀ child ∈ children, WellFormed child) :
    ((∃ bytes, (layout (.collection tag children)).bind emitBody = .ok bytes) ↔
      extent (.collection tag children) < 2 ^ 32) ∧
    ∀ bytes, (layout (.collection tag children)).bind emitBody = .ok bytes →
      bytes.length = extent (.collection tag children) ∧ 4 ∣ bytes.length ∧
        readBody bytes = some children := by
  have each : ∀ bytes, (layout (.collection tag children)).bind emitBody = .ok bytes →
      extent (.collection tag children) < 2 ^ 32 ∧
        bytes.length = extent (.collection tag children) ∧ readBody bytes = some children := by
    intro bytes emitted
    rcases Loops.bind_ok emitted with ⟨body, laid, written⟩
    rcases emitBody_reads (.collection wellFormed) laid with
      ⟨other, inner, same, root, again, length, whole, read⟩
    cases root
    rw [written] at again
    cases again
    have small := layout_bytes laid
    rw [← whole, length] at small
    exact ⟨small, length, read⟩
  refine ⟨⟨fun ⟨bytes, emitted⟩ => (each bytes emitted).1, ?_⟩, ?_⟩
  · intro small
    rcases layout_small small with ⟨body, laid⟩
    rcases emitBody_reads (.collection wellFormed) laid with
      ⟨other, inner, bytes, root, written, -, -, -⟩
    refine ⟨bytes, ?_⟩
    rw [laid]
    exact written
  · intro bytes emitted
    rcases each bytes emitted with ⟨-, length, read⟩
    refine ⟨length, ?_, read⟩
    rw [length]
    exact four_dvd_extent _

/-- A collection in another, with an embedded value, a longer one and a string. -/
def nestedTree : List Element :=
  [scalarU32 recContainer 7, .collection recSettings
    [scalarGuid recDataSource recObservation, stringElement recContainer [0x61, 0x07]]]

theorem nestedTree_wellFormed : ∀ child ∈ nestedTree, WellFormed child := by
  intro child member
  simp only [nestedTree, List.mem_cons, List.not_mem_nil, or_false] at member
  rcases member with rfl | rfl
  · exact wellFormed_scalarU32 _ _
  · apply WellFormed.collection
    intro inner member
    simp only [List.mem_cons, List.not_mem_nil, or_false] at member
    rcases member with rfl | rfl
    · exact wellFormed_scalarGuid _ _
    · exact wellFormed_stringElement _ _

theorem nestedTree_emitted :
    ∃ bytes, (layout (.collection recContainer nestedTree)).bind emitBody = .ok bytes ∧
      bytes.length = 144 := by
  have facts := @tree_emitted_iff recContainer nestedTree nestedTree_wellFormed
  have size : extent (.collection recContainer nestedTree) = 144 := by decide +kernel
  rw [size] at facts
  rcases facts.1.mpr (by decide) with ⟨bytes, emitted⟩
  exact ⟨bytes, emitted, (facts.2 bytes emitted).1⟩

end Emission

end Msap1.Conversion.Pqdif
