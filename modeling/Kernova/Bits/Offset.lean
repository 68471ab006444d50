import Mathlib.Tactic.Ring
import Mathlib.Tactic.Linarith
import Mathlib.Tactic.LinearCombination

/-!
# Words a known way apart

Two words whose difference is known as an integer, though not the words themselves.
Adding, multiplying and rotating carry the difference along; a rotation may carry or
borrow one at either of the two places where it cuts a word.

* `Offset.add`, `Offset.mul`, `Offset.rotateLeft` — the operations.
* `Offset.eq_zero_mod` — no difference.
-/

namespace Bits

variable {w : ℕ} {d e : ℤ} {x y u v : BitVec w}

/-- `x` is `d` above `y`, modulo the number of words. -/
def Offset (d : ℤ) (x y : BitVec w) : Prop :=
  ∃ n : ℤ, (x.toNat : ℤ) = y.toNat + d + 2 ^ w * n

namespace Offset

theorem refl (x : BitVec w) : Offset 0 x x := ⟨0, by omega⟩

/-- Small words, as far apart as they are. -/
theorem of_toNat (x y : BitVec w) : Offset ((x.toNat : ℤ) - y.toNat) x y := ⟨0, by omega⟩

theorem congr (h : Offset d x y) {n : ℤ} (he : d = e + 2 ^ w * n) : Offset e x y := by
  rcases h with ⟨m, hm⟩
  exact ⟨m + n, by rw [hm, he]; ring⟩

/-- Equal words differ by a multiple of the modulus. -/
theorem eq_zero_mod (h : Offset d x x) : ∃ n : ℤ, d = 2 ^ w * n := by
  rcases h with ⟨n, hn⟩
  exact ⟨-n, by linarith⟩

theorem toNat_eq_emod (x : ℕ) : ∃ n : ℤ, ((x % 2 ^ w : ℕ) : ℤ) = x + 2 ^ w * n := by
  refine ⟨-(x / 2 ^ w : ℕ), ?_⟩
  have hdiv := Nat.mod_add_div x (2 ^ w)
  have hcast : ((x % 2 ^ w : ℕ) : ℤ) + 2 ^ w * (x / 2 ^ w : ℕ) = x := by exact_mod_cast hdiv
  linarith

theorem add (h : Offset d x y) (h' : Offset e u v) : Offset (d + e) (x + u) (y + v) := by
  rcases h with ⟨n, hn⟩
  rcases h' with ⟨m, hm⟩
  rcases @toNat_eq_emod w (x.toNat + u.toNat) with ⟨p, hp⟩
  rcases @toNat_eq_emod w (y.toNat + v.toNat) with ⟨q, hq⟩
  refine ⟨n + m + p - q, ?_⟩
  rw [BitVec.toNat_add, BitVec.toNat_add, hp, hq, Nat.cast_add, Nat.cast_add, hn, hm]
  ring

theorem mul (h : Offset d x y) (c : BitVec w) : Offset (d * c.toNat) (x * c) (y * c) := by
  rcases h with ⟨n, hn⟩
  rcases @toNat_eq_emod w (x.toNat * c.toNat) with ⟨p, hp⟩
  rcases @toNat_eq_emod w (y.toNat * c.toNat) with ⟨q, hq⟩
  refine ⟨n * c.toNat + p - q, ?_⟩
  rw [BitVec.toNat_mul, BitVec.toNat_mul, hp, hq, Nat.cast_mul, Nat.cast_mul, hn]
  ring

/-- A rotation swaps the `c` bits below the cut and the `r` bits above it. -/
theorem rotateLeft_parts {c r : ℕ} (hc : 0 < c) (hw : c + r = w) (z : BitVec w) : ∃ l h : ℤ,
    (0 ≤ l ∧ l < 2 ^ c) ∧ (0 ≤ h ∧ h < 2 ^ r) ∧
      (z.toNat : ℤ) = l + 2 ^ c * h ∧ ((z.rotateLeft r).toNat : ℤ) = l * 2 ^ r + h := by
  have hpow : 2 ^ w = 2 ^ c * 2 ^ r := by rw [← Nat.pow_add, hw]
  have hpos : 0 < 2 ^ c := Nat.two_pow_pos _
  have hhigh : z.toNat / 2 ^ c < 2 ^ r := by
    rw [Nat.div_lt_iff_lt_mul hpos, Nat.mul_comm, ← hpow]
    exact z.isLt
  have hrot : (z.rotateLeft r).toNat = z.toNat % 2 ^ c * 2 ^ r + z.toNat / 2 ^ c := by
    rw [BitVec.toNat_rotateLeft, Nat.mod_eq_of_lt (show r < w by omega), Nat.shiftLeft_eq,
      Nat.shiftRight_eq_div_pow, show w - r = c by omega, hpow, Nat.mul_mod_mul_right,
      Nat.mul_comm _ (2 ^ r), Nat.two_pow_add_eq_or_of_lt hhigh]
  refine ⟨(z.toNat % 2 ^ c : ℕ), (z.toNat / 2 ^ c : ℕ), ⟨Int.natCast_nonneg _, ?_⟩,
    ⟨Int.natCast_nonneg _, ?_⟩, ?_, ?_⟩
  · exact_mod_cast Nat.mod_lt z.toNat hpos
  · exact_mod_cast hhigh
  · exact_mod_cast (Nat.mod_add_div z.toNat (2 ^ c)).symm
  · exact_mod_cast hrot

/-- `lo` is the difference below the cut, and `hi` that above it. The lower parts differ
by `lo` less `k` borrows, and the upper ones by `hi`, what is borrowed and `t` turns. -/
theorem rotateLeft {lo hi : ℤ} {c r : ℕ} (hc : 0 < c) (hw : c + r = w)
    (h : Offset (lo + 2 ^ c * hi) x y) :
    ∃ k t : ℤ, (-2 ^ c < lo - 2 ^ c * k ∧ lo - 2 ^ c * k < 2 ^ c) ∧
      (-2 ^ r < hi + k + 2 ^ r * t ∧ hi + k + 2 ^ r * t < 2 ^ r) ∧
      Offset ((lo + t) * 2 ^ r + hi + k) (x.rotateLeft r) (y.rotateLeft r) := by
  rcases h with ⟨n, hn⟩
  rcases rotateLeft_parts hc hw x with ⟨lx, hx, hlx, hhx, hsx, hrx⟩
  rcases rotateLeft_parts hc hw y with ⟨ly, hy, hly, hhy, hsy, hry⟩
  have hpow : (2 : ℤ) ^ w = 2 ^ c * 2 ^ r := by rw [← pow_add, hw]
  have hlow : lx - ly = lo - 2 ^ c * (hx - hy - hi - 2 ^ r * n) := by
    rw [hsx, hsy, hpow] at hn
    linear_combination hn
  refine ⟨hx - hy - hi - 2 ^ r * n, n, ⟨?_, ?_⟩, ⟨?_, ?_⟩, -(hx - hy - hi - 2 ^ r * n), ?_⟩
  · linarith
  · linarith
  · linarith
  · linarith
  · rw [hrx, hry, hpow]
    linear_combination 2 ^ r * hlow

end Offset

end Bits
