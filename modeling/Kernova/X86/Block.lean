import Kernova.X86.Stack

/-!
# Block copies

What vector stores and the string instructions leave in memory, and how a copy
that proceeds upward in chunks adds up.
-/

namespace X86

namespace Mem

/-! ## Vector accesses -/

theorem storeVec_of_not {m : Mem} {a x : Word} {w : Nat} {v : Vec} (h : ¬ InRange x a w) :
    m.storeVec a w v x = m x :=
  if_neg h

theorem storeVec_at (m : Mem) (a : Word) (v : Vec) {w i : Nat} (hi : i < w) (hw : w ≤ 64) :
    m.storeVec a w v (a + BitVec.ofNat 64 i) = v ⟨i, by omega⟩ := by
  rw [storeVec, gap_add_ofNat a (by omega), if_pos hi]
  congr 1
  exact Fin.ext (Nat.mod_eq_of_lt (by omega))

theorem loadVec_at (m : Mem) (a : Word) {w i : Nat} (hi : i < w) (hw : w ≤ 64) :
    m.loadVec a w ⟨i, by omega⟩ = m (a + BitVec.ofNat 64 i) :=
  if_pos hi

/-! ## String instructions -/

theorem one_gap (d : Word) : gap d (d + 1) = 1 :=
  gap_add_ofNat d (i := 1) (by omega)

theorem movsb_of_not {m : Mem} {d s x : Word} {n : Nat} (h : ¬ InRange x d n) :
    m.movsb d s n x = m x := by
  induction n generalizing m d s with
  | zero => rfl
  | succ n ih =>
    have h1 : ¬ InRange x (d + 1) n := fun hx => h (hx.widen (by rw [one_gap]; omega))
    have h2 : x ≠ d := by
      rintro rfl
      exact h (by simp [InRange])
    rw [movsb, ih h1, Function.update_of_ne h2]

theorem stosd_of_not {m : Mem} {d x : Word} {v : BitVec 32} {n : Nat}
    (h : ¬ InRange x d (4 * n)) : m.stosd d v n x = m x :=
  if_neg h

end Mem

/-! ## Copied prefixes -/

/-- The `n` bytes at `d` are those that `m₀` holds at `s`. -/
def Copied (m₀ m : Mem) (d s : Word) (n : Nat) : Prop :=
  ∀ i < n, m (d + BitVec.ofNat 64 i) = m₀ (s + BitVec.ofNat 64 i)

theorem add_ofNat_add (a : Word) (k i : Nat) :
    a + BitVec.ofNat 64 k + BitVec.ofNat 64 i = a + BitVec.ofNat 64 (k + i) := by
  rw [BitVec.ofNat_add, BitVec.add_assoc]

/-- A copy of `n` bytes from `s` upward to `d` reaches every byte before it
overwrites it. -/
def Ahead (d s : Word) (n : Nat) : Prop :=
  ∀ i j, i < j → j < n → d + BitVec.ofNat 64 i ≠ s + BitVec.ofNat 64 j

/-- Ranges that do not overlap can be copied upward. -/
theorem Apart.ahead {d s : Word} {n : Nat} (h : Apart d n s n) (hn : n ≤ 2 ^ 64) :
    Ahead d s n := by
  intro i j hij hj heq
  refine h (d + BitVec.ofNat 64 i) (inRange_add_ofNat d (by omega) (by omega)) ?_
  rw [heq]
  exact inRange_add_ofNat s hj (by omega)

theorem toNat_add_ofNat {a : Word} {i : Nat} (h : a.toNat + i < 2 ^ 64) :
    (a + BitVec.ofNat 64 i).toNat = a.toNat + i := by
  rw [BitVec.toNat_add, BitVec.toNat_ofNat, Nat.add_mod_mod, Nat.mod_eq_of_lt h]

/-- So can ranges that overlap, if the destination is the lower one. -/
theorem ahead_of_le {d s : Word} {n : Nat} (hle : d ≤ s) (hd : d.toNat + n ≤ 2 ^ 64)
    (hs : s.toNat + n ≤ 2 ^ 64) : Ahead d s n := by
  intro i j hij hj heq
  have hnat := congrArg BitVec.toNat heq
  rw [toNat_add_ofNat (by omega), toNat_add_ofNat (by omega)] at hnat
  have hle' : d.toNat ≤ s.toNat := hle
  omega

theorem Ahead.drop {d s : Word} {n k w : Nat} (h : Ahead d s n) (hle : k + w ≤ n) :
    Ahead (d + BitVec.ofNat 64 k) (s + BitVec.ofNat 64 k) w := by
  intro i j hij hj heq
  rw [add_ofNat_add, add_ofNat_add] at heq
  exact h (k + i) (k + j) (by omega) (by omega) heq

/-- Byte-by-byte copying upward. -/
theorem Copied.movsb {m₀ m : Mem} {d s : Word} {n : Nat} (hn : n ≤ 2 ^ 64)
    (hah : Ahead d s n) (hsrc : ∀ i < n, m (s + BitVec.ofNat 64 i) = m₀ (s + BitVec.ofNat 64 i)) :
    Copied m₀ (m.movsb d s n) d s n := by
  induction n generalizing m d s with
  | zero => intro i hi; omega
  | succ n ih =>
    have hah' : Ahead (d + 1) (s + 1) n := hah.drop (k := 1) (by omega)
    intro i hi
    cases i with
    | zero =>
      -- the first byte is not touched again
      have h0 : ¬ InRange (d + BitVec.ofNat 64 0) (d + 1) n := by
        have h1 := gap_trans d (d + 1) d
        have h2 := gap_lt (d + 1) d
        rw [Mem.one_gap, gap_self] at h1
        simp only [InRange, BitVec.add_zero]
        omega
      rw [Mem.movsb, Mem.movsb_of_not h0, BitVec.add_zero, Function.update_self]
      simpa using hsrc 0 (by omega)
    | succ i =>
      have hcopy := ih (m := Function.update m d (m s)) (d := d + 1) (s := s + 1) (by omega) hah'
        fun j hj => ?_
      · rw [Mem.movsb, ← Mem.add_one_ofNat, ← Mem.add_one_ofNat]
        exact hcopy i (by omega)
      · rw [Mem.add_one_ofNat, ← hsrc (j + 1) (by omega)]
        refine Function.update_of_ne ?_ _ _
        -- the byte just written is behind those still to be read
        intro heq
        refine hah 0 (j + 1) (by omega) (by omega) ?_
        rw [BitVec.add_zero, heq]

/-- Adding the next piece of a copy, stored without disturbing the first. -/
theorem Copied.append {m₀ m m' : Mem} {d s : Word} {k w : Nat} (h : Copied m₀ m d s k)
    (hkeep : ∀ a, ¬ InRange a (d + BitVec.ofNat 64 k) w → m' a = m a)
    (hnew : Copied m₀ m' (d + BitVec.ofNat 64 k) (s + BitVec.ofNat 64 k) w)
    (hk : k + w ≤ 2 ^ 64) : Copied m₀ m' d s (k + w) := by
  intro i hi
  by_cases hlt : i < k
  · rw [hkeep _ ?_, h i hlt]
    have h1 := gap_trans d (d + BitVec.ofNat 64 k) (d + BitVec.ofNat 64 i)
    have h2 := gap_lt (d + BitVec.ofNat 64 k) (d + BitVec.ofNat 64 i)
    rw [gap_add_ofNat d (by omega)] at h1
    by_cases hk' : k < 2 ^ 64
    · rw [gap_add_ofNat d hk'] at h1
      simp only [InRange]
      omega
    · have hw : w = 0 := by omega
      simp [InRange, hw]
  · obtain ⟨j, rfl⟩ := Nat.exists_eq_add_of_le (Nat.le_of_not_lt hlt)
    have := hnew j (by omega)
    rwa [add_ofNat_add, add_ofNat_add] at this

/-- A vector load and store move one chunk. -/
theorem Copied.vec {m₀ m : Mem} {d s : Word} {w : Nat} (hw : w ≤ 64)
    (hsrc : ∀ i < w, m (s + BitVec.ofNat 64 i) = m₀ (s + BitVec.ofNat 64 i)) :
    Copied m₀ (m.storeVec d w (m.loadVec s w)) d s w := by
  intro i hi
  rw [Mem.storeVec_at _ _ _ hi hw, Mem.loadVec_at _ _ hi hw]
  exact hsrc i hi

/-- The state of memory when `k` of the `n` bytes from `s` have reached `d`; the
copy means something when it can be made upward. -/
structure CopyUpto (m₀ : Mem) (d s : Word) (n k : Nat) (m : Mem) : Prop where
  frame : ∀ a, ¬ InRange a d k → m a = m₀ a
  copied : Ahead d s n → Copied m₀ m d s k

namespace CopyUpto

variable {m₀ m m' : Mem} {d s : Word} {n k w : Nat}

theorem start : CopyUpto m d s n 0 m :=
  ⟨fun _ _ => rfl, fun _ i hi => absurd hi (Nat.not_lt_zero i)⟩

/-- The source bytes still to be copied are as they were. -/
theorem source (h : CopyUpto m₀ d s n k m) (hah : Ahead d s n) (hle : k + w ≤ n) {i : Nat}
    (hi : i < w) : m (s + BitVec.ofNat 64 k + BitVec.ofNat 64 i) =
      m₀ (s + BitVec.ofNat 64 k + BitVec.ofNat 64 i) := by
  refine h.frame _ fun hr => ?_
  -- it would have been overwritten as the byte at the gap, which comes before it
  rw [add_ofNat_add, InRange] at hr
  exact hah _ (k + i) (show gap d (s + BitVec.ofNat 64 (k + i)) < k + i by omega) (by omega)
    (eq_add_gap d _).symm

/-- One more piece of `w` bytes. -/
theorem more (h : CopyUpto m₀ d s n k m) (hle : k + w ≤ n) (hn : n ≤ 2 ^ 64)
    (hkeep : ∀ a, ¬ InRange a (d + BitVec.ofNat 64 k) w → m' a = m a)
    (hnew : Ahead d s n →
      Copied m₀ m' (d + BitVec.ofNat 64 k) (s + BitVec.ofNat 64 k) w) :
    CopyUpto m₀ d s n (k + w) m' := by
  refine ⟨fun a ha => ?_, fun hah => (h.copied hah).append hkeep (hnew hah) (by omega)⟩
  rw [hkeep a fun hr => ha (hr.widen ?_), h.frame a fun hr => ha (hr.mono (by omega))]
  have := gap_add_le d k
  omega

theorem vec (h : CopyUpto m₀ d s n k m) (hle : k + w ≤ n) (hn : n ≤ 2 ^ 64) (hw : w ≤ 64) :
    CopyUpto m₀ d s n (k + w) (m.storeVec (d + BitVec.ofNat 64 k) w
      (m.loadVec (s + BitVec.ofNat 64 k) w)) :=
  h.more hle hn (fun _ ha => Mem.storeVec_of_not ha) fun hah =>
    Copied.vec hw fun _ hi => h.source hah hle hi

theorem movsb (h : CopyUpto m₀ d s n k m) (hle : k ≤ n) (hn : n ≤ 2 ^ 64) :
    CopyUpto m₀ d s n n (m.movsb (d + BitVec.ofNat 64 k) (s + BitVec.ofNat 64 k) (n - k)) := by
  have hsum : k + (n - k) = n := Nat.add_sub_cancel' hle
  have hstep : CopyUpto m₀ d s n (k + (n - k))
      (m.movsb (d + BitVec.ofNat 64 k) (s + BitVec.ofNat 64 k) (n - k)) := by
    refine h.more (by omega) hn (fun _ ha => Mem.movsb_of_not ha) fun hah => ?_
    exact Copied.movsb (by omega) (hah.drop (by omega)) fun _ hi => h.source hah (by omega) hi
  rwa [hsum] at hstep

end CopyUpto

/-! ## Cleared prefixes -/

/-- `k` bytes at `d` are zero and nothing else has changed. -/
structure ZeroUpto (m₀ : Mem) (d : Word) (k : Nat) (m : Mem) : Prop where
  frame : ∀ a, ¬ InRange a d k → m a = m₀ a
  zero : Copied (fun _ => 0) m d d k

namespace ZeroUpto

variable {m₀ m m' : Mem} {d : Word} {k w : Nat}

theorem start : ZeroUpto m d 0 m :=
  ⟨fun _ _ => rfl, fun _ hi => absurd hi (Nat.not_lt_zero _)⟩

theorem more (h : ZeroUpto m₀ d k m) (hle : k + w ≤ 2 ^ 64)
    (hkeep : ∀ a, ¬ InRange a (d + BitVec.ofNat 64 k) w → m' a = m a)
    (hnew : ∀ i < w, m' (d + BitVec.ofNat 64 k + BitVec.ofNat 64 i) = 0) :
    ZeroUpto m₀ d (k + w) m' := by
  refine ⟨fun a ha => ?_, h.zero.append hkeep hnew hle⟩
  rw [hkeep a fun hr => ha (hr.widen ?_), h.frame a fun hr => ha (hr.mono (by omega))]
  have := gap_add_le d k
  omega

theorem vec (h : ZeroUpto m₀ d k m) (hle : k + w ≤ 2 ^ 64) (hw : w ≤ 64) :
    ZeroUpto m₀ d (k + w) (m.storeVec (d + BitVec.ofNat 64 k) w fun _ => 0) :=
  h.more hle (fun _ ha => Mem.storeVec_of_not ha) fun _ hi => Mem.storeVec_at _ _ _ hi hw

theorem stosb (h : ZeroUpto m₀ d k m) (hle : k + w ≤ 2 ^ 64) :
    ZeroUpto m₀ d (k + w) (m.fill (d + BitVec.ofNat 64 k) w 0) :=
  h.more hle (fun _ ha => Mem.fill_of_not ha) fun i hi =>
    if_pos (inRange_add_ofNat _ hi (by omega))

end ZeroUpto

end X86
