/-
Blocks of memory.

A block has a fixed number of cells.  A range of cells is read or written only when it lies
inside the block, so that a program over blocks that succeeds has stayed within them.  Most
facts about a block concern the cells at its front: `front <+: b.toList` says that the block
begins with the list `front`.

Numbers are stored in four bytes, the lowest byte first.
-/
import Mathlib.Data.Vector.Basic

namespace Memory

variable {α : Type*} {n : ℕ}

/-- A block of `n` cells with the given contents. -/
def block (memory : ℕ → α) (n : ℕ) : List.Vector α n := ⟨(List.range n).map memory, by simp⟩

/-- The `len` cells from the position `i` on. -/
def readRange (b : List.Vector α n) (i len : ℤ) : Option (List α) :=
  if 0 ≤ i ∧ 0 ≤ len ∧ i + len ≤ n then some ((b.toList.drop i.toNat).take len.toNat) else none

/-- Replace the cells from the position `i` on. -/
def writeRange (b : List.Vector α n) (i : ℤ) (xs : List α) : Option (List.Vector α n) :=
  if h : 0 ≤ i ∧ i + xs.length ≤ n then
    some ⟨b.toList.take i.toNat ++ xs ++ b.toList.drop (i.toNat + xs.length), by
      have := b.toList_length
      simp only [List.length_append, List.length_take, List.length_drop]
      omega⟩
  else none

/-- Reading inside what is known of the front. -/
lemma readRange_of_prefix {b : List.Vector α n} {front : List α} (h : front <+: b.toList)
    (i len : ℕ) (hle : i + len ≤ front.length) :
    readRange b i len = some ((front.drop i).take len) := by
  obtain ⟨back, hback⟩ := h
  have hlen : front.length ≤ n := by
    rw [← b.toList_length, ← hback, List.length_append]
    omega
  unfold readRange
  rw [if_pos (by omega), ← hback]
  simp only [Int.toNat_natCast]
  rw [List.drop_append_of_le_length (by omega), List.take_append_of_le_length (by
    rw [List.length_drop]
    omega)]

/-- Reading all that is known of the front. -/
lemma readRange_front {b : List.Vector α n} {front : List α} (h : front <+: b.toList) :
    readRange b 0 front.length = some front := by
  have hread := readRange_of_prefix h 0 front.length (by simp)
  rwa [List.drop_zero, List.take_length] at hread

/-- Writing behind the front makes the front longer. -/
lemma writeRange_of_prefix {b : List.Vector α n} {front : List α} (h : front <+: b.toList)
    (xs : List α) (hle : front.length + xs.length ≤ n) :
    ∃ b', writeRange b front.length xs = some b' ∧ front ++ xs <+: b'.toList := by
  obtain ⟨back, hback⟩ := h
  unfold writeRange
  rw [dif_pos (by omega)]
  refine ⟨_, rfl, ?_⟩
  rw [List.Vector.toList_mk, Int.toNat_natCast, ← hback, List.take_left]
  exact List.prefix_append _ _

/-- Writing at the front of a block. -/
lemma writeRange_zero (b : List.Vector α n) (xs : List α) (hle : xs.length ≤ n) :
    ∃ b', writeRange b 0 xs = some b' ∧ xs <+: b'.toList := by
  have h : ∃ b', writeRange b ([] : List α).length xs = some b' ∧ [] ++ xs <+: b'.toList :=
    writeRange_of_prefix List.nil_prefix xs (by simpa using hle)
  simpa using h

/-! ### Numbers -/

/-- The four bytes of a number. -/
def le32 (x : ℕ) : List UInt8 :=
  [UInt8.ofNat x, UInt8.ofNat (x / 2 ^ 8), UInt8.ofNat (x / 2 ^ 16), UInt8.ofNat (x / 2 ^ 24)]

/-- The number stored in four bytes. -/
def ofLe32 : List UInt8 → ℕ
  | [] => 0
  | b :: bs => b.toNat + 2 ^ 8 * ofLe32 bs

@[simp] lemma length_le32 (x : ℕ) : (le32 x).length = 4 := rfl

/-- Numbers of 32 bits are read as they were stored. -/
lemma ofLe32_le32 {x : ℕ} (h : x < 2 ^ 32) : ofLe32 (le32 x) = x := by
  simp only [le32, ofLe32, UInt8.toNat_ofNat']
  omega

end Memory
