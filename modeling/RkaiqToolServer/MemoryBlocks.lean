import Mathlib.Algebra.BigOperators.Group.Finset.Basic
import Mathlib.Tactic

/-!
# Blocks of a memory

A block is a place of a memory, a size and what is to be found there.  Writing
a block leaves the blocks disjoint from it as they are, and blocks that are
placed one behind the other are all found once they have been written.
-/

namespace MemoryBlocks

variable {β : Type*}

/-- `content` matters below `size` only. -/
structure Block (β : Type*) where
  place : ℕ
  size : ℕ
  content : ℕ → β

namespace Block

def stop (block : Block β) : ℕ := block.place + block.size

def Disjoint (block other : Block β) : Prop :=
  block.stop ≤ other.place ∨ other.stop ≤ block.place

def HeldIn (block : Block β) (memory : ℕ → β) : Prop :=
  ∀ k < block.size, memory (block.place + k) = block.content k

end Block

def write (memory : ℕ → β) (block : Block β) : ℕ → β := fun address =>
  if block.place ≤ address ∧ address < block.stop then
    block.content (address - block.place)
  else memory address

variable {memory : ℕ → β} {block other : Block β}

theorem heldIn_write : block.HeldIn (write memory block) := by
  intro k hk
  rw [write, if_pos (by rw [Block.stop]; omega), Nat.add_sub_cancel_left]

theorem write_empty (hempty : block.size = 0) :
    write memory block = memory := by
  funext address
  rw [write, if_neg (by rw [Block.stop]; omega)]

theorem Block.Disjoint.symm (hdisjoint : block.Disjoint other) :
    other.Disjoint block := Or.symm hdisjoint

theorem Block.Disjoint.shrink {smaller : Block β}
    (hdisjoint : block.Disjoint other) (hplace : smaller.place = block.place)
    (hsize : smaller.size ≤ block.size) : smaller.Disjoint other := by
  have hstop : smaller.stop ≤ block.stop := by
    rw [stop, stop, hplace]
    omega
  exact hdisjoint.imp hstop.trans fun hbehind => hplace ▸ hbehind

theorem Block.HeldIn.congr (hheld : block.HeldIn memory)
    (hplace : other.place = block.place) (hsize : other.size = block.size)
    (hcontent : ∀ k < block.size, other.content k = block.content k) :
    other.HeldIn memory := by
  intro k hk
  rw [hsize] at hk
  rw [hplace, hcontent k hk]
  exact hheld k hk

theorem Block.Disjoint.heldIn_write (hdisjoint : block.Disjoint other)
    (hheld : block.HeldIn memory) : block.HeldIn (write memory other) := by
  intro k hk
  have houtside :
      ¬ (other.place ≤ block.place + k ∧ block.place + k < other.stop) := by
    rcases hdisjoint with hbefore | hbehind
    · rw [stop] at hbefore
      omega
    · omega
  rw [write, if_neg houtside]
  exact hheld k hk

/-! ## Blocks one behind the other -/

section Packed

variable (size : ℕ → ℕ) (content : ℕ → ℕ → β)

def offset (n : ℕ) : ℕ := ∑ i ∈ Finset.range n, size i

def packed (i : ℕ) : Block β := ⟨offset size i, size i, content i⟩

def pack (memory : ℕ → β) (n : ℕ) : ℕ → β :=
  (List.range n).foldl (fun memory i => write memory (packed size content i))
    memory

@[simp] theorem offset_zero : offset size 0 = 0 := rfl

theorem offset_succ (n : ℕ) : offset size (n + 1) = offset size n + size n :=
  Finset.sum_range_succ size n

theorem offset_le_mul {bound n : ℕ} (hbound : ∀ i < n, size i ≤ bound) :
    offset size n ≤ n * bound := by
  have hsum := Finset.sum_le_card_nsmul (Finset.range n) size bound
    fun i hi => hbound i (Finset.mem_range.mp hi)
  rwa [Finset.card_range, smul_eq_mul] at hsum

variable {size content}

theorem packed_stop_le {i n : ℕ} (hi : i < n) :
    (packed size content i).stop ≤ offset size n := by
  rw [Block.stop, packed, ← offset_succ]
  exact Finset.sum_le_sum_of_subset (Finset.range_subset_range.mpr hi)

theorem packed_disjoint {i j : ℕ} (hne : i ≠ j) :
    (packed size content i).Disjoint (packed size content j) := by
  rcases lt_or_gt_of_ne hne with hbefore | hbehind
  · exact .inl (packed_stop_le hbefore)
  · exact .inr (packed_stop_le hbehind)

theorem pack_succ (n : ℕ) :
    pack size content memory (n + 1) =
      write (pack size content memory n) (packed size content n) := by
  rw [pack, List.range_succ, List.foldl_append]
  rfl

theorem heldIn_pack {i n : ℕ} (hi : i < n) :
    (packed size content i).HeldIn (pack size content memory n) := by
  induction n with
  | zero => omega
  | succ n ih =>
      rw [pack_succ]
      rcases Nat.lt_succ_iff_lt_or_eq.mp hi with hbefore | rfl
      · exact (packed_disjoint (by omega)).heldIn_write (ih hbefore)
      · exact heldIn_write

end Packed

end MemoryBlocks
