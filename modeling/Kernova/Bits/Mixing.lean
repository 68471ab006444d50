import Mathlib.Data.Nat.ModEq
import Mathlib.Data.Nat.Prime.Basic
import Mathlib.Algebra.Group.Basic
import Mathlib.Logic.Function.Basic

/-!
# Mixing words

The steps that hash functions are made of lose nothing: for words of any width,
each of them is injective.

* `mul_odd_injective` — multiplying by an odd word.
* `rotateLeft_injective` — rotating.
* `xor_shiftRight_injective` — folding the upper bits into the lower ones.
* `xor_injective`, `add_injective` — putting in a word that is known.
-/

namespace Bits

variable {w : Nat}

theorem xor_injective (c : BitVec w) : Function.Injective (· ^^^ c) := by
  intro x y h
  have hcancel : (x ^^^ c) ^^^ c = (y ^^^ c) ^^^ c := congrArg (· ^^^ c) h
  simpa [BitVec.xor_assoc] using hcancel

theorem add_injective (c : BitVec w) : Function.Injective (· + c) := by
  intro x y h
  have hcancel : (x + c) - c = (y + c) - c := congrArg (· - c) h
  simpa using hcancel

/-- The odd word is coprime to the modulus, so that it can be cancelled. -/
theorem mul_odd_injective {c : BitVec w} (hc : c.toNat % 2 = 1) :
    Function.Injective (· * c) := by
  intro x y h
  have hmod : x.toNat * c.toNat ≡ y.toNat * c.toNat [MOD 2 ^ w] := by
    have htoNat := congrArg BitVec.toNat h
    rwa [BitVec.toNat_mul, BitVec.toNat_mul] at htoNat
  have hcop : Nat.gcd (2 ^ w) c.toNat = 1 :=
    Nat.Coprime.pow_left w (Nat.coprime_two_left.mpr (Nat.odd_iff.mpr hc))
  have hxy : x.toNat ≡ y.toNat [MOD 2 ^ w] := hmod.cancel_right_of_coprime hcop
  exact BitVec.eq_of_toNat_eq (hxy.eq_of_lt_of_lt x.isLt y.isLt)

/-- Bit `i` of a word is found in its rotation, at one of two places. -/
theorem rotateLeft_injective (r : Nat) : Function.Injective fun x : BitVec w => x.rotateLeft r := by
  intro x y h
  apply BitVec.eq_of_getLsbD_eq
  intro i hi
  have hbit : ∀ j, (x.rotateLeft r).getLsbD j = (y.rotateLeft r).getLsbD j := fun j =>
    congrArg (fun z => z.getLsbD j) h
  simp only [BitVec.getLsbD_rotateLeft, Bool.cond_decide] at hbit
  have hr : r % w < w := Nat.mod_lt _ (by omega)
  by_cases hwrap : i + r % w < w
  · have hplace := hbit (i + r % w)
    rw [if_neg (by omega), if_neg (by omega)] at hplace
    simpa [hwrap] using hplace
  · have hplace := hbit (i + r % w - w)
    rw [if_pos (by omega), if_pos (by omega)] at hplace
    rwa [show w - r % w + (i + r % w - w) = i by omega] at hplace

/-- The upper `k` bits are as they were, and each bit below is found with the one
`k` places above it. -/
theorem xor_shiftRight_injective {k : Nat} (hk : 0 < k) :
    Function.Injective fun x : BitVec w => x ^^^ x >>> k := by
  intro x y h
  have hbit : ∀ i, (x.getLsbD i ^^ x.getLsbD (k + i)) = (y.getLsbD i ^^ y.getLsbD (k + i)) := by
    intro i
    have hi := congrArg (fun z => z.getLsbD i) h
    simpa only [BitVec.getLsbD_xor, BitVec.getLsbD_ushiftRight] using hi
  -- from the top bit downwards
  have hdown : ∀ n i, w - i ≤ n → x.getLsbD i = y.getLsbD i := by
    intro n
    induction n with
    | zero =>
      intro i hi
      rw [BitVec.getLsbD_of_ge x i (by omega), BitVec.getLsbD_of_ge y i (by omega)]
    | succ n ih =>
      intro i hi
      have habove : x.getLsbD (k + i) = y.getLsbD (k + i) := by
        by_cases hlt : i < w
        · exact ih (k + i) (by omega)
        · rw [BitVec.getLsbD_of_ge x _ (by omega), BitVec.getLsbD_of_ge y _ (by omega)]
      have hi := hbit i
      rw [habove] at hi
      simpa using hi
  exact BitVec.eq_of_getLsbD_eq fun i _ => hdown w i (by omega)

end Bits
