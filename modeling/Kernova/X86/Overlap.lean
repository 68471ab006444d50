import Kernova.Tape.Pieces
import Kernova.X86.Block

/-!
# Copies onto bytes further up

A copy in pieces to a destination `k` bytes above its source, whether the ranges
overlap or not: memory from the source on is a tape.

* `MovedUp` — the pieces copied so far.
* `MovedUp.vec`, `MovedUp.movsb` — a vector move is a piece, and so is each byte of a
  string move.
* `MovedUp.byte_at` — where the bytes of the destination come from.
-/

namespace X86

open Tape

/-- The bytes from `s` on. -/
def Mem.tape (m : Mem) (s : Word) : ℕ → Byte := fun i => m (s + BitVec.ofNat 64 i)

/-- Of the `n` bytes at `s` the pieces `ws`, the last one first, have been copied `k`
bytes up. -/
structure MovedUp (m₀ : Mem) (s : Word) (k n : ℕ) (ws : List ℕ) (m : Mem) : Prop where
  le : ws.sum ≤ n
  tape : ∀ i < k + n, m.tape s i = moves k ws (m₀.tape s) i
  frame : ∀ a, ¬ InRange a (s + BitVec.ofNat 64 k) n → m a = m₀ a

namespace MovedUp

variable {m₀ m m' : Mem} {s : Word} {k n w r : ℕ} {ws : List ℕ}

theorem start : MovedUp m s k n [] m :=
  ⟨by simp, fun _ _ => rfl, fun _ _ => rfl⟩

/-- One more piece. -/
theorem more (h : MovedUp m₀ s k n ws m) (hle : ws.sum + w ≤ n) (hn : k + n ≤ 2 ^ 64)
    (hkeep : ∀ a, ¬ InRange a (s + BitVec.ofNat 64 (k + ws.sum)) w → m' a = m a)
    (hnew : ∀ i < w, m' (s + BitVec.ofNat 64 (k + ws.sum + i)) =
      m (s + BitVec.ofNat 64 (ws.sum + i))) : MovedUp m₀ s k n (w :: ws) m' := by
  refine ⟨by rw [List.sum_cons]; omega, fun i hi => ?_, fun a ha => ?_⟩
  · rw [moves, move]
    split_ifs with hin
    · obtain ⟨j, rfl⟩ := Nat.exists_eq_add_of_le hin.1
      rw [show k + ws.sum + j - k = ws.sum + j by omega, ← h.tape _ (by omega)]
      exact hnew j (by omega)
    · rw [← h.tape i hi]
      refine hkeep _ fun hr => hin ?_
      exact (inRange_add_iff (by omega) (by omega)).mp hr
  · rw [hkeep a fun hr => ha ?_, h.frame a ha]
    rw [← add_ofNat_add] at hr
    exact inRange_of_add hr hle

/-- A vector load and store. -/
theorem vec (h : MovedUp m₀ s k n ws m) (hle : ws.sum + w ≤ n) (hn : k + n ≤ 2 ^ 64)
    (hw : w ≤ 64) : MovedUp m₀ s k n (w :: ws)
      (m.storeVec (s + BitVec.ofNat 64 (k + ws.sum)) w
        (m.loadVec (s + BitVec.ofNat 64 ws.sum) w)) := by
  refine h.more hle hn (fun a ha => Mem.storeVec_of_not ha) fun i hi => ?_
  rw [← add_ofNat_add s (k + ws.sum) i, Mem.storeVec_at _ _ _ hi hw, Mem.loadVec_at _ _ hi hw,
    add_ofNat_add]

theorem byte (h : MovedUp m₀ s k n ws m) (hle : ws.sum + 1 ≤ n) (hn : k + n ≤ 2 ^ 64) :
    MovedUp m₀ s k n (1 :: ws) (Function.update m (s + BitVec.ofNat 64 (k + ws.sum))
      (m (s + BitVec.ofNat 64 ws.sum))) := by
  refine h.more hle hn (fun a ha => Function.update_of_ne ?_ _ _) fun i hi => ?_
  · rintro rfl
    exact ha (by simp [InRange])
  · obtain rfl : i = 0 := by omega
    rw [Nat.add_zero, Nat.add_zero, Function.update_self]

/-- `rep movsb`, byte by byte. -/
theorem movsb (h : MovedUp m₀ s k n ws m) (hle : ws.sum + r ≤ n) (hn : k + n ≤ 2 ^ 64) :
    MovedUp m₀ s k n (List.replicate r 1 ++ ws)
      (m.movsb (s + BitVec.ofNat 64 (k + ws.sum)) (s + BitVec.ofNat 64 ws.sum) r) := by
  induction r generalizing m ws with
  | zero => exact h
  | succ r ih =>
    have hsum : (1 :: ws).sum = ws.sum + 1 := by rw [List.sum_cons, Nat.add_comm]
    have hone : (1 : Word) = BitVec.ofNat 64 1 := rfl
    have hrest := ih (h.byte (by omega) hn) (by omega)
    rw [hsum, ← Nat.add_assoc] at hrest
    rw [Mem.movsb, hone, add_ofNat_add, add_ofNat_add, List.replicate_succ', List.append_assoc]
    exact hrest

/-- Every byte of the destination comes from its origin. -/
theorem byte_at (h : MovedUp m₀ s k n ws m) (hk : 0 < k) {j : ℕ} (hj : j < ws.sum) :
    m (s + BitVec.ofNat 64 k + BitVec.ofNat 64 j) =
      m₀ (s + BitVec.ofNat 64 (origin k ws j)) := by
  have hle := h.le
  rw [add_ofNat_add]
  exact (h.tape (k + j) (by omega)).trans (moves_at hk hj)

end MovedUp

end X86
