import Mathlib.Tactic.Ring
import Mathlib.Data.BitVec

/-!
# Byte-addressed memory

The flat 64-bit address space the processor sees: a total map from addresses
to bytes. Addresses are `BitVec 64`, so every range is taken modulo `2^64`
and nothing below assumes that a buffer does not wrap.

* `InRange a base n` — address `a` lies in the `n` bytes from `base`.
* `Mem.load` / `Mem.store` — little-endian accesses of `n` bytes.
* `Mem.fill` / `Mem.copy` — what a whole block operation leaves behind.
-/

namespace X86

abbrev Word := BitVec 64
abbrev Byte := BitVec 8

/-- Memory: one byte for every 64-bit address. -/
abbrev Mem := Word → Byte

/-! ## Ranges -/

/-- How far `a` lies above `base`, going upward modulo `2^64`. -/
def gap (base a : Word) : Nat := (a - base).toNat

theorem gap_lt (base a : Word) : gap base a < 2 ^ 64 := (a - base).isLt

@[simp] theorem gap_self (a : Word) : gap a a = 0 := by
  simp only [gap, BitVec.sub_self, BitVec.toNat_zero]

theorem gap_add_ofNat (base : Word) {i : Nat} (hi : i < 2 ^ 64) :
    gap base (base + BitVec.ofNat 64 i) = i := by
  have h : base + BitVec.ofNat 64 i - base = BitVec.ofNat 64 i := by ring
  rw [gap, h, BitVec.toNat_ofNat, Nat.mod_eq_of_lt hi]

theorem gap_add_le (base : Word) (i : Nat) : gap base (base + BitVec.ofNat 64 i) ≤ i := by
  have h : base + BitVec.ofNat 64 i - base = BitVec.ofNat 64 i := by ring
  rw [gap, h, BitVec.toNat_ofNat]
  exact Nat.mod_le _ _

/-- An address is any base plus its gap from that base. -/
theorem eq_add_gap (base a : Word) : a = base + BitVec.ofNat 64 (gap base a) := by
  rw [gap, BitVec.ofNat_toNat, BitVec.setWidth_eq]
  ring

/-- Gaps from two bases differ by the gap between the bases. -/
theorem gap_trans (b b' a : Word) : gap b a = (gap b b' + gap b' a) % 2 ^ 64 := by
  have h : a - b = (b' - b) + (a - b') := by ring
  rw [gap, h, BitVec.toNat_add]
  rfl

theorem toNat_sub_ofNat {x : Word} {k : Nat} (h : k ≤ x.toNat) :
    (x - BitVec.ofNat 64 k).toNat = x.toNat - k := by
  have hk : (BitVec.ofNat 64 k).toNat = k := by
    rw [BitVec.toNat_ofNat, Nat.mod_eq_of_lt (by have := x.isLt; omega)]
  have hle : BitVec.ofNat 64 k ≤ x := by
    rw [BitVec.le_def, hk]
    exact h
  rw [BitVec.toNat_sub_of_le hle, hk]

/-- `a` is one of the `n` bytes starting at `base`. -/
def InRange (a base : Word) (n : Nat) : Prop := gap base a < n

instance (a base : Word) (n : Nat) : Decidable (InRange a base n) :=
  inferInstanceAs (Decidable (_ < _))

theorem InRange.mono {a base : Word} {n n' : Nat} (h : InRange a base n) (hn : n ≤ n') :
    InRange a base n' :=
  Nat.lt_of_lt_of_le h hn

theorem inRange_add_ofNat (base : Word) {i n : Nat} (hi : i < n) (hw : i < 2 ^ 64) :
    InRange (base + BitVec.ofNat 64 i) base n := by
  rw [InRange, gap_add_ofNat base hw]
  exact hi

/-- A range that starts `k` bytes further up is part of the longer one. -/
theorem InRange.widen {a b b' : Word} {n n' : Nat} (h : InRange a b' n)
    (hk : gap b b' + n ≤ n') : InRange a b n' := by
  rw [InRange] at h ⊢
  rw [gap_trans b b' a]
  have := Nat.mod_le (gap b b' + gap b' a) (2 ^ 64)
  omega

/-- Two ranges with no byte in common. -/
def Apart (b : Word) (n : Nat) (b' : Word) (n' : Nat) : Prop :=
  ∀ a, InRange a b n → ¬ InRange a b' n'

theorem Apart.symm {b b' : Word} {n n' : Nat} (h : Apart b n b' n') : Apart b' n' b n :=
  fun a ha hb => h a hb ha

/-- Ranges whose bases are far enough apart in both directions are disjoint. -/
theorem apart_of_gap {b b' : Word} {n n' : Nat} (h : n ≤ gap b b') (h' : n' ≤ gap b' b) :
    Apart b n b' n' := by
  intro a ha ha'
  rw [InRange] at ha ha'
  have h1 := gap_trans b b' a
  have h2 := gap_trans b' b a
  have h3 := gap_lt b b'
  have h4 := gap_lt b' b
  omega

/-- The gap from a lower base to an address of a range further up. -/
theorem gap_of_inRange {p a : Word} {i n : Nat} (h : InRange a (p + BitVec.ofNat 64 i) n)
    (hn : i + n ≤ 2 ^ 64) : gap p a = i + gap (p + BitVec.ofNat 64 i) a := by
  rw [InRange] at h
  have h1 := gap_trans p (p + BitVec.ofNat 64 i) a
  rw [gap_add_ofNat p (by omega)] at h1
  omega

/-- Pieces of one region that do not overlap. -/
theorem apart_add {p : Word} {i j n n' : Nat} (h : i + n ≤ j) (h' : j + n' ≤ 2 ^ 64) :
    Apart (p + BitVec.ofNat 64 i) n (p + BitVec.ofNat 64 j) n' := by
  intro a ha ha'
  have h1 := gap_of_inRange ha (by omega)
  have h2 := gap_of_inRange ha' (by omega)
  rw [InRange] at ha ha'
  omega

/-- A range further up than the end of another one. -/
theorem apart_behind {p : Word} {j n n' : Nat} (h : n ≤ j) (h' : j + n' ≤ 2 ^ 64) :
    Apart p n (p + BitVec.ofNat 64 j) n' := by
  have hap : Apart (p + BitVec.ofNat 64 0) n (p + BitVec.ofNat 64 j) n' :=
    apart_add (by omega) h'
  rwa [BitVec.add_zero] at hap

/-- A piece of a region lies in the region. -/
theorem inRange_of_add {p a : Word} {i n k : Nat} (h : InRange a (p + BitVec.ofNat 64 i) n)
    (hk : i + n ≤ k) : InRange a p k := by
  have := gap_add_le p i
  exact h.widen (by omega)

/-- A byte of a region is in a piece of it. -/
theorem inRange_add_iff {s : Word} {b i w : Nat} (hi : i < 2 ^ 64) (hw : b + w ≤ 2 ^ 64) :
    InRange (s + BitVec.ofNat 64 i) (s + BitVec.ofNat 64 b) w ↔ b ≤ i ∧ i < b + w := by
  constructor
  · intro h
    have hgap := gap_of_inRange h hw
    rw [gap_add_ofNat s hi] at hgap
    rw [InRange] at h
    omega
  · rintro ⟨hle, hlt⟩
    obtain ⟨r, rfl⟩ := Nat.exists_eq_add_of_le hle
    rw [BitVec.ofNat_add, ← BitVec.add_assoc]
    exact inRange_add_ofNat _ (by omega) (by omega)

/-! ## Little-endian accesses -/

namespace Mem

/-- The value of the `n` bytes at `a`, least significant byte first. -/
def load (m : Mem) (a : Word) : Nat → Nat
  | 0 => 0
  | n + 1 => (m a).toNat + 256 * load m (a + 1) n

/-- Write the low `n` bytes of `v` at `a`. -/
def store (m : Mem) (a : Word) (n : Nat) (v : Nat) : Mem := fun x =>
  if gap a x < n then BitVec.ofNat 8 (v / 256 ^ gap a x) else m x

def read64 (m : Mem) (a : Word) : Word := BitVec.ofNat 64 (m.load a 8)
def read32 (m : Mem) (a : Word) : BitVec 32 := BitVec.ofNat 32 (m.load a 4)
def write64 (m : Mem) (a : Word) (v : Word) : Mem := m.store a 8 v.toNat
def write32 (m : Mem) (a : Word) (v : BitVec 32) : Mem := m.store a 4 v.toNat
def write8 (m : Mem) (a : Word) (v : Byte) : Mem := m.store a 1 v.toNat

/-- A word in memory incremented. -/
def inc64 (m : Mem) (a : Word) : Mem := m.write64 a (m.read64 a + 1)

theorem store_of_not {m : Mem} {a x : Word} {n v : Nat} (h : ¬ InRange x a n) :
    m.store a n v x = m x :=
  if_neg h

/-- A byte of a region after one byte of it was stored. -/
theorem write8_add (m : Mem) (p : Word) {b i : Nat} {v : Byte} (hb : b < 2 ^ 64)
    (hi : i < 2 ^ 64) : m.write8 (p + BitVec.ofNat 64 b) v (p + BitVec.ofNat 64 i) =
      if i = b then v else m (p + BitVec.ofNat 64 i) := by
  have hin := @inRange_add_iff p b i 1 hi (by omega)
  rw [InRange] at hin
  unfold write8 store
  by_cases heq : i = b
  · subst heq
    rw [gap_self, if_pos (by decide), if_pos rfl, Nat.pow_zero, Nat.div_one, BitVec.ofNat_toNat,
      BitVec.setWidth_eq]
  · rw [if_neg (by omega), if_neg heq]

theorem inc64_of_not {m : Mem} {a x : Word} (h : ¬ InRange x a 8) : m.inc64 a x = m x :=
  store_of_not h

theorem add_one_ofNat (a : Word) (i : Nat) :
    a + 1 + BitVec.ofNat 64 i = a + BitVec.ofNat 64 (i + 1) := by
  rw [BitVec.ofNat_add, BitVec.add_assoc, BitVec.add_comm 1]
  rfl

theorem load_congr {m m' : Mem} {a : Word} {n : Nat}
    (h : ∀ i < n, m' (a + BitVec.ofNat 64 i) = m (a + BitVec.ofNat 64 i)) :
    m'.load a n = m.load a n := by
  induction n generalizing a with
  | zero => rfl
  | succ n ih =>
    have h0 : m' a = m a := by simpa using h 0 (by omega)
    have hs : m'.load (a + 1) n = m.load (a + 1) n := by
      apply ih
      intro i hi
      rw [add_one_ofNat]
      exact h (i + 1) (by omega)
    rw [load, load, h0, hs]

theorem load_lt (m : Mem) (a : Word) (n : Nat) : m.load a n < 256 ^ n := by
  induction n generalizing a with
  | zero => simp [load]
  | succ n ih =>
    have h1 := (m a).isLt
    have h2 := ih (a + 1)
    rw [load, Nat.pow_succ]
    omega

/-- Loads agree exactly when the bytes do. -/
theorem load_eq_iff {m m' : Mem} {a b : Word} {n : Nat} : m.load a n = m'.load b n ↔
    ∀ i < n, m (a + BitVec.ofNat 64 i) = m' (b + BitVec.ofNat 64 i) := by
  induction n generalizing a b with
  | zero => simp [load]
  | succ n ih =>
    have h1 := (m a).isLt
    have h2 := (m' b).isLt
    have hsplit : m.load a (n + 1) = m'.load b (n + 1) ↔
        m a = m' b ∧ m.load (a + 1) n = m'.load (b + 1) n := by
      rw [load, load, ← BitVec.toNat_inj]
      omega
    rw [hsplit, ih]
    constructor
    · rintro ⟨h0, hs⟩ i hi
      cases i with
      | zero => simpa using h0
      | succ i =>
        rw [← add_one_ofNat, ← add_one_ofNat]
        exact hs i (by omega)
    · intro h
      refine ⟨by simpa using h 0 (by omega), fun i hi => ?_⟩
      rw [add_one_ofNat, add_one_ofNat]
      exact h (i + 1) (by omega)

/-- A load from the middle of a freshly stored range sees the matching digits
of the stored value. Stated for the tail so that the induction follows `load`. -/
theorem load_store_tail (m : Mem) (a : Word) (v : Nat) {n : Nat} (hn : n ≤ 2 ^ 64) :
    ∀ k j, k + j = n →
      (m.store a n v).load (a + BitVec.ofNat 64 j) k = (v / 256 ^ j) % 256 ^ k := by
  intro k
  induction k with
  | zero => intro j _; simp [load, Nat.mod_one]
  | succ k ih =>
    intro j hj
    have hbyte : m.store a n v (a + BitVec.ofNat 64 j) = BitVec.ofNat 8 (v / 256 ^ j) := by
      rw [store, gap_add_ofNat a (by omega), if_pos (by omega)]
    have hnext : a + BitVec.ofNat 64 j + 1 = a + BitVec.ofNat 64 (j + 1) := by
      rw [BitVec.ofNat_add, BitVec.add_assoc]
      rfl
    have hdig : (v / 256 ^ j) % 256 ^ (k + 1) =
        (v / 256 ^ j) % 256 + 256 * ((v / 256 ^ (j + 1)) % 256 ^ k) := by
      rw [Nat.pow_succ 256 j, ← Nat.div_div_eq_div_mul, Nat.pow_succ, Nat.mul_comm (256 ^ k) 256,
        Nat.mod_mul]
    rw [load, hbyte, hnext, ih (j + 1) (by omega), BitVec.toNat_ofNat, hdig]

theorem load_store (m : Mem) (a : Word) (v : Nat) {n : Nat} (hn : n ≤ 2 ^ 64) :
    (m.store a n v).load a n = v % 256 ^ n := by
  have h := load_store_tail m a v hn n 0 (by omega)
  simpa using h

@[simp] theorem read64_write64 (m : Mem) (a v : Word) : (m.write64 a v).read64 a = v := by
  rw [read64, write64, load_store _ _ _ (by omega)]
  apply BitVec.eq_of_toNat_eq
  have := v.isLt
  rw [BitVec.toNat_ofNat]
  omega

/-- Words agree exactly when their bytes do. -/
theorem read64_eq_iff {m m' : Mem} {a b : Word} : m.read64 a = m'.read64 b ↔
    ∀ i < 8, m (a + BitVec.ofNat 64 i) = m' (b + BitVec.ofNat 64 i) := by
  have h1 := load_lt m a 8
  have h2 := load_lt m' b 8
  rw [← load_eq_iff, read64, read64, ← BitVec.toNat_inj, BitVec.toNat_ofNat, BitVec.toNat_ofNat]
  omega

/-- A word read depends only on its own eight bytes. -/
theorem read64_congr {m m' : Mem} {a : Word}
    (h : ∀ x, InRange x a 8 → m' x = m x) : m'.read64 a = m.read64 a := by
  rw [read64, read64, load_congr fun i hi => h _ (inRange_add_ofNat a hi (by omega))]

theorem read32_congr {m m' : Mem} {a : Word}
    (h : ∀ x, InRange x a 4 → m' x = m x) : m'.read32 a = m.read32 a := by
  rw [read32, read32, load_congr fun i hi => h _ (inRange_add_ofNat a hi (by omega))]

theorem load_zero (a : Word) (n : Nat) : load (fun _ => 0) a n = 0 := by
  induction n generalizing a with
  | zero => rfl
  | succ n ih =>
    rw [load, ih]
    rfl

/-- Cleared memory reads as zero. -/
theorem read64_zero (a : Word) : read64 (fun _ => 0) a = 0 := by
  rw [read64, load_zero]
  rfl

/-- A store leaves every word outside its range alone. -/
theorem read64_store {m : Mem} {a b : Word} {n v : Nat} (h : Apart b 8 a n) :
    (m.store a n v).read64 b = m.read64 b :=
  read64_congr fun x hx => store_of_not (h x hx)

@[simp] theorem read64_inc64 (m : Mem) (a : Word) : (m.inc64 a).read64 a = m.read64 a + 1 :=
  read64_write64 _ _ _

theorem read64_inc64_of_apart {m : Mem} {a b : Word} (h : Apart b 8 a 8) :
    (m.inc64 a).read64 b = m.read64 b :=
  read64_store h

/-! ## Block operations -/

/-- The `n` bytes at `a` set to `b`. -/
def fill (m : Mem) (a : Word) (n : Nat) (b : Byte) : Mem := fun x =>
  if gap a x < n then b else m x

/-- The `n` bytes at `d` replaced by the `n` bytes that `m₀` holds at `s`. -/
def copy (m₀ : Mem) (m : Mem) (d s : Word) (n : Nat) : Mem := fun x =>
  if gap d x < n then m₀ (s + BitVec.ofNat 64 (gap d x)) else m x

theorem fill_of_not {m : Mem} {a x : Word} {n : Nat} {b : Byte} (h : ¬ InRange x a n) :
    m.fill a n b x = m x :=
  if_neg h

/-! ## Agreement -/

/-- Two memories that differ at most at the addresses `Z`. -/
def AgreeOff (Z : Word → Prop) (m m' : Mem) : Prop := ∀ a, ¬ Z a → m a = m' a

namespace AgreeOff

variable {Z : Word → Prop} {m m' : Mem} {a : Word}

theorem store {n k : Nat} (h : AgreeOff Z m m') : AgreeOff Z (m.store a n k) (m'.store a n k) := by
  intro x hx
  unfold Mem.store
  split_ifs
  · rfl
  · exact h x hx

theorem fill {n : Nat} {b : Byte} (h : AgreeOff Z m m') :
    AgreeOff Z (m.fill a n b) (m'.fill a n b) := by
  intro x hx
  unfold Mem.fill
  split_ifs
  · rfl
  · exact h x hx

theorem read64 (h : AgreeOff Z m m') (hZ : ∀ x, InRange x a 8 → ¬ Z x) :
    m.read64 a = m'.read64 a :=
  read64_congr fun x hx => h x (hZ x hx)

theorem inc64 (h : AgreeOff Z m m') (hZ : ∀ x, InRange x a 8 → ¬ Z x) :
    AgreeOff Z (m.inc64 a) (m'.inc64 a) := by
  rw [Mem.inc64, Mem.inc64, h.read64 hZ]
  exact h.store

end AgreeOff

end Mem

end X86
