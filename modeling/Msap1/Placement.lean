import Msap1.ByteLayout

/-! Blocks that are placed one behind another: the bytes of a block are found again at its offset
in the concatenation of all of them. -/

namespace Msap1.Placement

open ByteCodec ByteLayout

variable {Block : Type} {offset size : Block → Nat} {content : Block → Bytes}

/-- Every block begins where the one before it ends, from `start` to `finish`. -/
def Consecutive (offset size : Block → Nat) : List Block → Nat → Nat → Prop
  | [], start, finish => start = finish
  | block :: rest, start, finish =>
      offset block = start ∧ Consecutive offset size rest (start + size block) finish

theorem consecutive_append {first second : List Block} {start middle finish : Nat}
    (before : Consecutive offset size first start middle)
    (behind : Consecutive offset size second middle finish) :
    Consecutive offset size (first ++ second) start finish := by
  induction first generalizing start with
  | nil =>
      simp only [Consecutive] at before
      rwa [before]
  | cons block rest ih => exact ⟨before.1, ih before.2⟩

/-- Blocks of their declared sizes fill the space between the ends. -/
theorem length_contents {blocks : List Block} {start finish : Nat}
    (placed : Consecutive offset size blocks start finish)
    (sized : ∀ block ∈ blocks, (content block).length = size block) :
    start + (blocks.map content).flatten.length = finish := by
  induction blocks generalizing start with
  | nil => exact placed
  | cons block rest ih =>
      have later := ih placed.2 fun other member => sized other (List.mem_cons_of_mem _ member)
      have here := sized block List.mem_cons_self
      rw [List.map_cons, List.flatten_cons, List.length_append]
      omega

/-- Behind anything of the length of the start, each block is read back from its place. -/
theorem slice_block {blocks : List Block} {start finish : Nat}
    (placed : Consecutive offset size blocks start finish)
    (sized : ∀ block ∈ blocks, (content block).length = size block) {front : Bytes}
    (startsThere : front.length = start) {block : Block} (member : block ∈ blocks) :
    slice (front ++ (blocks.map content).flatten) (offset block) (size block) = content block := by
  induction blocks generalizing start front with
  | nil => cases member
  | cons head rest ih =>
      have headSize := sized head List.mem_cons_self
      rw [List.map_cons, List.flatten_cons]
      rcases List.mem_cons.mp member with here | later
      · rw [here, placed.1, ← startsThere, ← Nat.add_zero front.length, slice_append_right,
          slice_append_left (by rw [headSize, Nat.zero_add]), slice, List.drop_zero, ← headSize,
          List.take_length]
      · rw [← List.append_assoc]
        exact ih placed.2 (fun other member => sized other (List.mem_cons_of_mem _ member))
          (by rw [List.length_append, headSize, startsThere]) later

end Msap1.Placement
