import Mathlib.Algebra.BigOperators.Group.List.Basic
import Mathlib.Algebra.Order.BigOperators.Group.List
import Mathlib.Algebra.Order.Ring.Nat

/-!
# Copying a tape onto itself

The first cells of a tape are copied `k` cells further up, in pieces: each piece is
read as a whole and then written, and the next one follows. Where the ranges overlap,
a piece may read what an earlier one has written.

* `moves` — the tape after the pieces.
* `origin` — the cell that a copy comes from in the end.
* `moves_at` — every copy comes from its origin.
* `exact_of`, `exists_stale` — all copies come from their own places if the ranges do not
  overlap or there is one piece, and in no other case.
-/

namespace Tape

variable {α : Type*} {k p w j x n : ℕ} {ws : List ℕ} {f : ℕ → α}

/-! ## Pieces -/

/-- `w` cells from `p` on are copied `k` cells further up. -/
def move (k p w : ℕ) (f : ℕ → α) : ℕ → α :=
  fun x => if k + p ≤ x ∧ x < k + p + w then f (x - k) else f x

/-- Pieces of the lengths `ws`, one behind the other. -/
def moves (k : ℕ) : List ℕ → (ℕ → α) → ℕ → α
  | [], f => f
  | w :: ws, f => move k ws.sum w (moves k ws f)

theorem move_of_not (h : ¬ (k + p ≤ x ∧ x < k + p + w)) : move k p w f x = f x :=
  if_neg h

theorem move_at (h : j < w) : move k p w f (k + (p + j)) = f (p + j) := by
  rw [move, if_pos (by omega), Nat.add_sub_cancel_left]

/-- The pieces, the last one first, write the cells from `k` on. -/
theorem moves_of_not (h : ¬ (k ≤ x ∧ x < k + ws.sum)) : moves k ws f x = f x := by
  induction ws with
  | nil => rfl
  | cons w ws ih =>
    rw [List.sum_cons] at h
    rw [moves, move_of_not (by omega), ih (by omega)]

/-! ## Origins -/

/-- Where the piece begins that a cell is copied in; the last piece comes first. -/
def pieceStart : List ℕ → ℕ → ℕ
  | [], _ => 0
  | _ :: ws, j => if ws.sum ≤ j then ws.sum else pieceStart ws j

/-- The cell that the copy of `j` comes from: it was a copy itself if it had been
written before its piece was read. -/
def origin (k : ℕ) (ws : List ℕ) (j : ℕ) : ℕ :=
  if _ : 0 < k ∧ k ≤ j ∧ j - k < pieceStart ws j then origin k ws (j - k) else j
termination_by j
decreasing_by omega

theorem origin_of_not (h : ¬ (k ≤ j ∧ j - k < pieceStart ws j)) : origin k ws j = j := by
  rw [origin, dif_neg fun hc => h hc.2]

theorem origin_step (hk : 0 < k) (h : k ≤ j) (hp : j - k < pieceStart ws j) :
    origin k ws j = origin k ws (j - k) := by
  rw [origin, dif_pos ⟨hk, h, hp⟩]

theorem origin_le : origin k ws j ≤ j := by
  induction j using Nat.strong_induction_on with
  | _ j ih =>
    by_cases h : 0 < k ∧ k ≤ j ∧ j - k < pieceStart ws j
    · rw [origin_step h.1 h.2.1 h.2.2]
      have hle := ih (j - k) (by omega)
      omega
    · rw [origin, dif_neg h]

theorem origin_eq_iff (hk : 0 < k) :
    origin k ws j = j ↔ ¬ (k ≤ j ∧ j - k < pieceStart ws j) := by
  constructor
  · rintro h ⟨hle, hp⟩
    rw [origin_step hk hle hp] at h
    have hle' := @origin_le k (j - k) ws
    omega
  · exact origin_of_not

/-- A further piece does not change where the earlier ones come from. -/
theorem origin_cons (h : j < ws.sum) : origin k (w :: ws) j = origin k ws j := by
  induction j using Nat.strong_induction_on with
  | _ j ih =>
    have hstart : pieceStart (w :: ws) j = pieceStart ws j := if_neg (by omega)
    by_cases hc : 0 < k ∧ k ≤ j ∧ j - k < pieceStart ws j
    · rw [origin_step hc.1 hc.2.1 (by rw [hstart]; exact hc.2.2), origin_step hc.1 hc.2.1 hc.2.2]
      exact ih (j - k) (by omega) (by omega)
    · rw [origin, hstart, dif_neg hc, origin, dif_neg hc]

theorem moves_at (hk : 0 < k) (h : j < ws.sum) : moves k ws f (k + j) = f (origin k ws j) := by
  induction ws generalizing j with
  | nil => simp at h
  | cons w ws ih =>
    rw [List.sum_cons] at h
    rw [moves]
    by_cases hj : j < ws.sum
    · rw [move_of_not (by omega), ih hj, origin_cons hj]
    -- a cell of the last piece: what it was read from may have been written by the others
    · obtain ⟨i, rfl⟩ := Nat.exists_eq_add_of_le (Nat.le_of_not_lt hj)
      have hstart : pieceStart (w :: ws) (ws.sum + i) = ws.sum := if_pos (by omega)
      rw [move_at (by omega)]
      by_cases hc : k ≤ ws.sum + i ∧ ws.sum + i - k < ws.sum
      · rw [origin_step hk hc.1 (by rw [hstart]; exact hc.2), origin_cons hc.2, ← ih hc.2]
        congr 1
        omega
      · rw [origin_of_not (by rw [hstart]; exact hc), moves_of_not (by omega)]

/-! ## Exact copies -/

/-- Behind the first piece, a piece begins at its end at the earliest. -/
theorem le_pieceStart (hws : ws ≠ []) (h : w ≤ j) : w ≤ pieceStart (ws ++ [w]) j := by
  induction ws with
  | nil => exact absurd rfl hws
  | cons v ws ih =>
    rw [List.cons_append, pieceStart, List.sum_append, List.sum_singleton]
    split_ifs with hle
    · omega
    · refine ih ?_
      rintro rfl
      simp only [List.sum_nil] at hle
      omega

theorem exact_of (h : ws.sum ≤ k ∨ ws.length ≤ 1) (hj : j < ws.sum) : origin k ws j = j := by
  refine origin_of_not ?_
  rcases h with hle | hlen
  · omega
  · match ws, hlen with
    | [], _ => simp at hj
    | [w], _ => simp [pieceStart]

/-- Pieces of which a later one reads what an earlier one has written. -/
theorem exists_stale (hk : 0 < k) (hws : ∀ w ∈ ws, 0 < w) (hsum : k < ws.sum)
    (hlen : 1 < ws.length) : ∃ j < ws.sum, origin k ws j ≠ j := by
  rcases List.eq_nil_or_concat ws with rfl | ⟨vs, w, rfl⟩
  · simp at hlen
  rw [List.concat_eq_append] at *
  have hvs : vs ≠ [] := by
    rintro rfl
    simp at hlen
  have hw : 0 < w := hws w (by simp)
  have hpos : 0 < vs.sum := by
    rcases List.exists_mem_of_ne_nil vs hvs with ⟨v, hv⟩
    have hle := List.single_le_sum (fun _ _ => Nat.zero_le _) v hv
    have hv0 := hws v (by simp [hv])
    omega
  rw [List.sum_append, List.sum_singleton] at hsum
  refine ⟨max k w, ?_, fun heq => ?_⟩
  · rw [List.sum_append, List.sum_singleton]
    omega
  · refine (origin_eq_iff hk).mp heq ⟨le_max_left k w, ?_⟩
    have hstart := le_pieceStart hvs (le_max_right k w)
    omega

end Tape
