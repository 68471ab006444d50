import Mathlib.Tactic.Ring

/-!
# Words made of fields

A field of a word is a run of its bits. Masks cut fields out, `++` puts them
together, and `littleEndian` lists the bytes.

* `getLsbD_mask` — the bits of a mask.
* `littleEndian_append` — the bytes of a word, from those of its two parts.
-/

namespace Bits

variable {v w : Nat}

/-- A mask of `n` ones above `lo` zeros. -/
def mask (w lo n : Nat) : BitVec w := BitVec.ofNat w ((2 ^ n - 1) <<< lo)

theorem getLsbD_mask (w lo n i : Nat) :
    (mask w lo n).getLsbD i = decide (i < w ∧ lo ≤ i ∧ i < lo + n) := by
  rw [mask, BitVec.getLsbD_ofNat, Nat.testBit_shiftLeft, Nat.testBit_two_pow_sub_one]
  by_cases hlo : lo ≤ i
  · have hn : i - lo < n ↔ i < lo + n := by omega
    simp [hlo, hn]
  · simp [hlo]

/-- The first `n` bytes of a word, least significant byte first. -/
def littleEndian (n : Nat) (x : BitVec w) : List (BitVec 8) :=
  (List.range n).map fun i => x.extractLsb' (8 * i) 8

theorem littleEndian_append {n m : Nat} (hi : BitVec v) (lo : BitVec w) (hw : w = 8 * n) :
    littleEndian (n + m) (hi ++ lo) = littleEndian n lo ++ littleEndian m hi := by
  rw [littleEndian, List.range_add, List.map_append, List.map_map]
  congr 1
  · apply List.map_congr_left
    intro i hin
    have hin : i < n := List.mem_range.mp hin
    exact BitVec.extractLsb'_append_eq_of_add_le (by omega)
  · apply List.map_congr_left
    intro i _
    rw [Function.comp_apply, BitVec.extractLsb'_append_eq_of_le (by omega)]
    congr 1
    omega

/-- A byte is its own list of bytes. -/
theorem littleEndian_byte (x : BitVec 8) : littleEndian 1 x = [x] := by
  simp [littleEndian]

end Bits
