import Kernova.Bits.Offset
import Kernova.Marshall.Detection

/-!
# Bursts of modified bytes

Two buffers that differ within four consecutive bytes have different digests. The turn of
the second lane multiplies by a prime of the form 2^40 + 435 and rotates by 29: what four
bytes make of the difference of two lanes never comes back to nothing.

* `four_turns` — four turns on the same lane, with different first bytes.
* `hashBlocks_burst` — the digests of two buffers.
-/

namespace Kernova

open X86 Bits
open Machine (entry)

/-! ## Turns of the second lane -/

/-- A turn of the second lane: byte `b` at index `i`. -/
def laneTurn (i : Word) (b : Byte) (x : Word) : Word :=
  ((x + ((i <<< 8) ^^^ ext8 b)) * hashPrime).rotateLeft 29

theorem laneTurn_injective (i : Word) (b : Byte) : Function.Injective (laneTurn i b) :=
  (mix_injective 29).comp (Bits.add_injective _)

/-- The byte stands in the bits that the shifted index leaves free. -/
theorem shifted_xor_ext8 (i : Word) (b : Byte) : (i <<< 8) ^^^ ext8 b = (i <<< 8) + ext8 b := by
  have hand : (i <<< 8) &&& ext8 b = 0#64 := by
    apply BitVec.eq_of_getLsbD_eq
    intro j hj
    rw [BitVec.getLsbD_and, BitVec.getLsbD_zero]
    by_cases hlow : j < 8
    · simp [BitVec.getLsbD_shiftLeft, hlow]
    · simp [ext8, BitVec.getLsbD_of_ge b j (by omega)]
  have hor : (i <<< 8) ^^^ ext8 b = (i <<< 8) ||| ext8 b := by
    apply BitVec.eq_of_getLsbD_eq
    intro j hj
    have hbit := congrArg (fun z => z.getLsbD j) hand
    simp only [BitVec.getLsbD_and, BitVec.getLsbD_zero] at hbit
    rw [BitVec.getLsbD_xor, BitVec.getLsbD_or]
    revert hbit
    cases (i <<< 8).getLsbD j <;> cases (ext8 b).getLsbD j <;> simp
  rw [hor, BitVec.add_eq_or_of_and_eq_zero _ _ hand]

variable {x y i : Word} {b b' : Byte} {d : ℤ}

/-- The difference of two bytes. -/
def byteDiff (b b' : Byte) : ℤ := (b.toNat : ℤ) - b'.toNat

/-- A byte of each is added to two lanes. -/
theorem offset_byte (h : Offset d x y) : Offset (d + byteDiff b b')
    (x + ((i <<< 8) ^^^ ext8 b)) (y + ((i <<< 8) ^^^ ext8 b')) := by
  have hbytes : Offset (byteDiff b b') (ext8 b) (ext8 b') := by
    have hext : ∀ b : Byte, (ext8 b).toNat = b.toNat := by decide
    have hoffset := Offset.of_toNat (ext8 b) (ext8 b')
    rwa [hext, hext] at hoffset
  have hwords := (Offset.refl (i <<< 8)).add hbytes
  rw [zero_add, ← shifted_xor_ext8, ← shifted_xor_ext8] at hwords
  exact h.add hwords

/-- A turn, with `lo` and `hi` the two parts of what the multiplication makes of the
difference. -/
theorem offset_turn {lo hi n : ℤ} (h : Offset d x y)
    (hmul : (d + byteDiff b b') * (2 ^ 40 + 435) = lo + 2 ^ 35 * hi + 2 ^ 64 * n) :
    ∃ k t : ℤ, (-2 ^ 35 < lo - 2 ^ 35 * k ∧ lo - 2 ^ 35 * k < 2 ^ 35) ∧
      (-2 ^ 29 < hi + k + 2 ^ 29 * t ∧ hi + k + 2 ^ 29 * t < 2 ^ 29) ∧
      Offset ((lo + t) * 2 ^ 29 + (hi + k)) (laneTurn i b x) (laneTurn i b' y) := by
  have hprime : ((hashPrime.toNat : ℕ) : ℤ) = 2 ^ 40 + 435 := by decide
  have hprod := (@offset_byte x y i b b' d h).mul hashPrime
  rw [hprime] at hprod
  have hcut := hprod.congr hmul
  rcases hcut.rotateLeft (c := 35) (r := 29) (by omega) rfl with ⟨k, t, hlo, hhi, hoff⟩
  rw [add_assoc] at hoff
  exact ⟨k, t, hlo, hhi, hoff⟩

theorem byteDiff_bounds (b b' : Byte) : -255 ≤ byteDiff b b' ∧ byteDiff b b' ≤ 255 := by
  have hb := b.isLt
  have hb' := b'.isLt
  rw [byteDiff]
  omega

theorem byteDiff_eq_zero (h : byteDiff b b' = 0) : b = b' := by
  rw [byteDiff] at h
  exact BitVec.eq_of_toNat_eq (by omega)

/-! ## Four turns -/

/-- The difference after one turn: `a` above bit 29, and `32 δ + k` below. -/
theorem first_turn (x i : Word) (b b' : Byte) : ∃ k t : ℤ,
    (-1 ≤ k ∧ k ≤ 1) ∧ (-1 ≤ t ∧ t ≤ 1) ∧
      Offset ((435 * byteDiff b b' + t) * 2 ^ 29 + (32 * byteDiff b b' + k))
        (laneTurn i b x) (laneTurn i b' x) := by
  have hbyte := byteDiff_bounds b b'
  rcases @offset_turn x x i b b' 0 (435 * byteDiff b b') (32 * byteDiff b b') 0
    (Offset.refl x) (by ring) with ⟨k, t, hlo, hhi, hoff⟩
  exact ⟨k, t, by omega, by omega, hoff⟩

/-- The difference after a further turn, from `a` above bit 29 and `e` below. -/
theorem next_turn {a e : ℤ} (h : Offset (a * 2 ^ 29 + e) x y) (i : Word) (b b' : Byte)
    (he : -1100000 ≤ e + byteDiff b b' ∧ e + byteDiff b b' ≤ 1100000) :
    ∃ wl wh k t : ℤ, (0 ≤ wl ∧ wl < 64) ∧
      435 * a + 2048 * (e + byteDiff b b') = 64 * wh + wl ∧ (-1 ≤ k ∧ k ≤ 1) ∧
      (-2 ^ 29 < wh + k + 2 ^ 29 * t ∧ wh + k + 2 ^ 29 * t < 2 ^ 29) ∧
      Offset ((435 * (e + byteDiff b b') + 2 ^ 29 * wl + t) * 2 ^ 29 + (wh + k))
        (laneTurn i b x) (laneTurn i b' y) := by
  have hdiv := Int.emod_add_mul_ediv (435 * a + 2048 * (e + byteDiff b b')) 64
  have hlow := Int.emod_nonneg (435 * a + 2048 * (e + byteDiff b b')) (show (64 : ℤ) ≠ 0 by decide)
  have hlt := Int.emod_lt_of_pos (435 * a + 2048 * (e + byteDiff b b'))
    (show (0 : ℤ) < 64 by decide)
  generalize (435 * a + 2048 * (e + byteDiff b b')) % 64 = wl at *
  generalize (435 * a + 2048 * (e + byteDiff b b')) / 64 = wh at *
  rcases @offset_turn x y i b b' _ (435 * (e + byteDiff b b') + 2 ^ 29 * wl) wh (32 * a) h
    (by linear_combination (-2 ^ 29) * hdiv) with ⟨k, t, hlo, hhi, hoff⟩
  exact ⟨wl, wh, k, t, ⟨hlow, hlt⟩, by omega, by omega, hhi, hoff⟩

/-- No difference is left before the last turn: what was below the cut is gone, and the
rest is one turn around the end at most. -/
theorem last_turn {e wl wh k t δ n : ℤ} (he : -1100000 ≤ e ∧ e ≤ 1100000) (hwl : 0 ≤ wl ∧ wl < 64)
    (hδ : -255 ≤ δ ∧ δ ≤ 255) (hhi : -2 ^ 29 < wh + k + 2 ^ 29 * t ∧ wh + k + 2 ^ 29 * t < 2 ^ 29)
    (h : (435 * e + 2 ^ 29 * wl + t) * 2 ^ 29 + (wh + k) + δ = 2 ^ 64 * n) :
    e = 0 ∧ wl = 0 ∧ wh + k + δ = 2 ^ 29 * -t := by
  have hu : wh + k + δ + 2 ^ 29 * t = 2 ^ 29 * (2 ^ 35 * n - (435 * e + 2 ^ 29 * wl)) := by
    linear_combination h
  obtain ⟨s, hs⟩ : ∃ s, s = 2 ^ 35 * n - (435 * e + 2 ^ 29 * wl) := ⟨_, rfl⟩
  obtain ⟨m, hm⟩ : ∃ m, m = 64 * n - wl := ⟨_, rfl⟩
  have hone : -1 ≤ s ∧ s ≤ 1 := by omega
  have hsmall : 435 * e + s = 2 ^ 29 * m := by omega
  have hm0 : m = 0 := by omega
  have he0 : e = 0 := by omega
  refine ⟨he0, by omega, by omega⟩

/-- No multiple of `435 ^ 2` in reach comes near a multiple of `2 ^ 29`, except zero. -/
theorem middle_turn {e t r q : ℤ} (he : -8416 ≤ e ∧ e ≤ 8416) (ht : -1 ≤ t ∧ t ≤ 1)
    (hr : -256 ≤ r ∧ r ≤ 256) (h : 435 * (435 * e + t) + 64 * r = 2 ^ 29 * q) : e = 0 := by
  have hq : -2 ≤ q ∧ q ≤ 2 := by omega
  obtain rfl | rfl | rfl | rfl | rfl : q = -2 ∨ q = -1 ∨ q = 0 ∨ q = 1 ∨ q = 2 := by omega
  all_goals omega

/-- Four turns on one lane are apart if their first bytes are. -/
theorem four_turns {i₁ i₂ i₃ i₄ : Word} {b₁ b₁' b₂ b₂' b₃ b₃' b₄ b₄' : Byte}
    (h : laneTurn i₄ b₄ (laneTurn i₃ b₃ (laneTurn i₂ b₂ (laneTurn i₁ b₁ x))) =
      laneTurn i₄ b₄' (laneTurn i₃ b₃' (laneTurn i₂ b₂' (laneTurn i₁ b₁' x)))) : b₁ = b₁' := by
  have hd₁ := byteDiff_bounds b₁ b₁'
  have hd₂ := byteDiff_bounds b₂ b₂'
  have hd₃ := byteDiff_bounds b₃ b₃'
  have hd₄ := byteDiff_bounds b₄ b₄'
  rcases first_turn x i₁ b₁ b₁' with ⟨k₁, t₁, hk₁, ht₁, hoff₁⟩
  have he₂ : -8416 ≤ 32 * byteDiff b₁ b₁' + k₁ + byteDiff b₂ b₂' ∧
      32 * byteDiff b₁ b₁' + k₁ + byteDiff b₂ b₂' ≤ 8416 := by omega
  rcases next_turn hoff₁ i₂ b₂ b₂' (by omega) with ⟨wl₂, wh₂, k₂, t₂, hwl₂, hw₂, hk₂, hhi₂, hoff₂⟩
  have hwh₂ : -1023400 ≤ wh₂ ∧ wh₂ ≤ 1023400 := by omega
  have ht₂ : -1 ≤ t₂ ∧ t₂ ≤ 1 := by omega
  have he₃ : -1100000 ≤ wh₂ + k₂ + byteDiff b₃ b₃' ∧ wh₂ + k₂ + byteDiff b₃ b₃' ≤ 1100000 := by
    omega
  rcases next_turn hoff₂ i₃ b₃ b₃' he₃ with ⟨wl₃, wh₃, k₃, t₃, hwl₃, hw₃, hk₃, hhi₃, hoff₃⟩
  -- the last turn keeps apart what is apart, so that nothing is left before it
  have hoff₄ := @offset_byte _ _ i₄ b₄ b₄' _ hoff₃
  rw [mix_injective 29 h] at hoff₄
  rcases hoff₄.eq_zero_mod with ⟨n, hn⟩
  rcases last_turn he₃ hwl₃ hd₄ hhi₃ hn with ⟨he₃0, hwl₃0, hturn⟩
  -- then nothing is left below the cut before the third turn, nor before the second one
  have he₂0 : 32 * byteDiff b₁ b₁' + k₁ + byteDiff b₂ b₂' = 0 := by
    rw [he₃0, hwl₃0] at hw₃
    refine middle_turn (r := k₃ + byteDiff b₄ b₄') (q := -64 * t₃ - 435 * wl₂) he₂ ht₂
      ⟨?_, ?_⟩ ?_
    · linarith
    · linarith
    · linear_combination hw₃ + 64 * hturn
  rw [he₂0] at hw₂
  clear hn hturn hw₃ hhi₃ hhi₂
  exact byteDiff_eq_zero (by omega)

/-! ## Buffers -/

section

variable {m m' : Mem} {a a' size : Word} {j k : ℕ}

/-- The first byte of the two that differs is `j`, and the last one is less than four
bytes behind it. -/
structure BurstAt (m : Mem) (a : Word) (m' : Mem) (a' : Word) (k j : ℕ) : Prop where
  lt : j < k
  differ : m (a + BitVec.ofNat 64 j) ≠ m' (a' + BitVec.ofNat 64 j)
  same : ∀ i < k, i < j ∨ j + 4 ≤ i → m' (a' + BitVec.ofNat 64 i) = m (a + BitVec.ofNat 64 i)

theorem hashLanes_l1 (m : Mem) (a size : Word) (k : ℕ) : (hashLanes m a size (k + 1)).l1 =
    laneTurn (BitVec.ofNat 64 k) (m (a + BitVec.ofNat 64 k)) (hashLanes m a size k).l1 := rfl

/-- The second lane is apart behind a burst, and wherever the data end within it. -/
theorem hashLanes_burst (h : BurstAt m a m' a' k j) :
    (hashLanes m a size k).l1 ≠ (hashLanes m' a' size k).l1 := by
  have hprefix : hashLanes m' a' size j = hashLanes m a size j := by
    have hlt := h.lt
    exact hashLanes_eq fun i hi => h.same i (by omega) (Or.inl hi)
  have hbehind : ∀ r, (∀ i < j + 4 + r, i < j ∨ j + 4 ≤ i →
      m' (a' + BitVec.ofNat 64 i) = m (a + BitVec.ofNat 64 i)) →
      (hashLanes m a size (j + 4 + r)).l1 ≠ (hashLanes m' a' size (j + 4 + r)).l1 := by
    intro r hsame
    induction r with
    | zero =>
      intro heq
      rw [Nat.add_zero, hashLanes_l1, hashLanes_l1, hashLanes_l1, hashLanes_l1, hashLanes_l1,
        hashLanes_l1, hashLanes_l1, hashLanes_l1, hprefix] at heq
      exact h.differ (four_turns heq)
    | succ r ih =>
      intro heq
      rw [← Nat.add_assoc, hashLanes_l1, hashLanes_l1,
        hsame (j + 4 + r) (by omega) (by omega)] at heq
      exact ih (fun i hi => hsame i (by omega)) (laneTurn_injective _ _ heq)
  intro heq
  rcases Nat.lt_or_ge k (j + 4) with hk | hk
  -- the data end within the burst: turns on equal bytes would make four
  · have hlt := h.lt
    have hmore : ∀ z z' : Word, z = z' → laneTurn 0 0 z = laneTurn 0 0 z' :=
      fun z z' hz => congrArg _ hz
    obtain rfl | rfl | rfl : k = j + 1 ∨ k = j + 2 ∨ k = j + 3 := by omega
    · rw [hashLanes_l1, hashLanes_l1, hprefix] at heq
      exact h.differ (four_turns (hmore _ _ (hmore _ _ (hmore _ _ heq))))
    · rw [hashLanes_l1, hashLanes_l1, hashLanes_l1, hashLanes_l1, hprefix] at heq
      exact h.differ (four_turns (hmore _ _ (hmore _ _ heq)))
    · rw [hashLanes_l1, hashLanes_l1, hashLanes_l1, hashLanes_l1, hashLanes_l1, hashLanes_l1,
        hprefix] at heq
      exact h.differ (four_turns (hmore _ _ heq))
  · obtain ⟨r, rfl⟩ := Nat.exists_eq_add_of_le hk
    exact hbehind r h.same heq

/-- A burst changes the digest. -/
theorem hashBlocks_burst (h : BurstAt m a m' a' size.toNat j) :
    hashBlocks m a size ≠ hashBlocks m' a' size := by
  intro heq
  have hlanes : (hashLanes m a size size.toNat).l1 ≠ (hashLanes m' a' size size.toNat).l1 :=
    hashLanes_burst h
  exact hlanes (fmix64_injective (congrArg Lanes.l1 heq))

end

end Kernova
