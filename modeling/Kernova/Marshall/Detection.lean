import Kernova.Bits.Mixing
import Kernova.Asm.Linking
import Kernova.Marshall.Hash

/-!
# Modified bytes

Two buffers that differ in one byte have digests that differ in the first three
lanes: each turn of the loop is injective in the lane and in the byte.

* `hashStep_lane`, `hashStep_byte` — one turn.
* `hashLanes_differ` — the loop, from the byte on that differs.
* `single_byte_detected` — two calls of `simd_hash_blocks`.
-/

namespace Kernova

open X86
open Machine (entry)

/-- The first three lanes of the one differ from those of the other. -/
structure Lanes.Differ (h h' : Lanes) : Prop where
  l0 : h.l0 ≠ h'.l0
  l1 : h.l1 ≠ h'.l1
  l2 : h.l2 ≠ h'.l2

/-! ## One turn -/

theorem mix_injective (r : Nat) : Function.Injective fun x : Word => (x * hashPrime).rotateLeft r :=
  (Bits.rotateLeft_injective r).comp (Bits.mul_odd_injective (by decide))

theorem ext8_injective : Function.Injective (ext8 : Byte → Word) := by
  intro b b' h
  have hlow := congrArg (BitVec.setWidth 8) h
  simpa using hlow

theorem fmix64_injective : Function.Injective fmix64 := by
  have hfold : Function.Injective fun x : Word => x ^^^ x >>> 33 :=
    Bits.xor_shiftRight_injective (by omega)
  have hmul1 : Function.Injective (· * fmixC1) := Bits.mul_odd_injective (by decide)
  have hmul2 : Function.Injective (· * fmixC2) := Bits.mul_odd_injective (by decide)
  exact hfold.comp (hmul2.comp (hfold.comp (hmul1.comp hfold)))

section

variable {h h' : Lanes} {i : Word} {b b' : Byte}

/-- A turn keeps lanes apart. -/
theorem hashStep_lane (hd : h.Differ h') : (hashStep i b h).Differ (hashStep i b h') where
  l0 heq := hd.l0 (Bits.xor_injective _ (mix_injective 13 heq))
  l1 heq := hd.l1 (Bits.add_injective _ (mix_injective 29 heq))
  l2 heq := hd.l2 (Bits.xor_injective _ (mix_injective 37 heq))

/-- A turn takes lanes apart where the bytes differ. -/
theorem hashStep_byte (hb : b ≠ b') : (hashStep i b h).Differ (hashStep i b' h) where
  l0 heq := by
    have hsum := mix_injective 13 heq
    simp only [BitVec.xor_right_inj] at hsum
    exact hb (ext8_injective (Bits.add_injective i hsum))
  l1 heq := by
    have hword := mix_injective 29 heq
    simp only [BitVec.add_right_inj, BitVec.xor_right_inj] at hword
    exact hb (ext8_injective hword)
  l2 heq := by
    have hword := mix_injective 37 heq
    simp only [BitVec.xor_right_inj, BitVec.xor_left_inj] at hword
    -- the byte is in bits 32 to 39
    have hshift : (ext8 b <<< 32) >>> 32 = (ext8 b' <<< 32) >>> 32 := by
      rw [hword]
    have hback : ∀ b : Byte, (ext8 b <<< 32) >>> 32 = ext8 b := by decide
    rw [hback, hback] at hshift
    exact hb (ext8_injective hshift)

end

/-! ## The loop -/

section

variable {m m' : Mem} {a a' size : Word} {j k : Nat}

/-- The bytes from `a` and from `a'` are the same up to `k`, except at `j`. -/
structure DifferAt (m : Mem) (a : Word) (m' : Mem) (a' : Word) (k j : Nat) : Prop where
  lt : j < k
  differ : m (a + BitVec.ofNat 64 j) ≠ m' (a' + BitVec.ofNat 64 j)
  same : ∀ i < k, i ≠ j → m' (a' + BitVec.ofNat 64 i) = m (a + BitVec.ofNat 64 i)

/-- Up to the byte that differs the lanes are the same, and from it on they are
apart. -/
theorem hashLanes_differ (h : DifferAt m a m' a' k j) :
    (hashLanes m a size k).Differ (hashLanes m' a' size k) := by
  induction k with
  | zero => exact absurd h.lt (by omega)
  | succ k ih =>
    rw [hashLanes, hashLanes]
    by_cases hj : j = k
    -- the lanes meet the byte that differs, or have met it before
    · subst hj
      have hsame : hashLanes m' a' size j = hashLanes m a size j :=
        hashLanes_eq fun i hi => h.same i (by omega) (by omega)
      rw [hsame]
      exact hashStep_byte h.differ
    · have hlt := h.lt
      rw [h.same k (by omega) (Ne.symm hj)]
      exact hashStep_lane (ih ⟨by omega, h.differ, fun i hi => h.same i (by omega)⟩)

/-- The finalizers keep lanes apart. -/
theorem hashBlocks_differ (h : DifferAt m a m' a' size.toNat j) :
    (hashBlocks m a size).Differ (hashBlocks m' a' size) := by
  have hlanes : (hashLanes m a size size.toNat).Differ (hashLanes m' a' size size.toNat) :=
    hashLanes_differ h
  exact ⟨fmix64_injective.ne hlanes.l0, fmix64_injective.ne hlanes.l1,
    fmix64_injective.ne hlanes.l2⟩

end

/-! ## Two calls -/

variable {I : Image} {s s' : State} {g g' : List (Ctl Label)} {j : Nat}

/-- A call of `simd_hash_blocks` with an output, on a stack that is clear of the
output and of the data. -/
structure HashCall (s : State) : Prop where
  output : s.regs .rdx ≠ 0
  clear : Clear (InRange · (s.regs .rdx) 32) (s.regs .rsp) 56
  data : Clear (InRange · (s.regs .rdi) (s.regs .rsi).toNat) (s.regs .rsp) 56

/-- Data that there are are hashed as they lie in memory. -/
theorem HashCall.hashed (h : HashCall s) (hdata : s.regs .rdi ≠ 0) :
    Ev I.machine (Hashed I s g (hashBlocks s.mem (s.regs .rdi) (s.regs .rsi)))
      ⟨entry (.simd .simdHashBlocks), s, g⟩ := by
  refine (simd_hash_blocks_spec s g fun _ => h.clear).mono fun c hc => ?_
  rw [HashOutcome, if_neg h.output, if_neg hdata] at hc
  rcases hc with ⟨m, hm, hc⟩
  have hsame : hashBlocks m (s.regs .rdi) (s.regs .rsi) =
      hashBlocks s.mem (s.regs .rdi) (s.regs .rsi) :=
    hashBlocks_congr fun x hx => hm x fun hr => h.data x hx (hr.mono (by omega))
  rwa [hsame] at hc

/-- Two calls on buffers of one size that differ in the byte `j`. -/
structure OneByteApart (s s' : State) (j : Nat) : Prop where
  call : HashCall s
  call' : HashCall s'
  data : s.regs .rdi ≠ 0
  data' : s'.regs .rdi ≠ 0
  size : s'.regs .rsi = s.regs .rsi
  bytes : DifferAt s.mem (s.regs .rdi) s'.mem (s'.regs .rdi) (s.regs .rsi).toNat j

/-- Both calls succeed, and the first three lanes that they write differ. -/
theorem single_byte_detected (h : OneByteApart s s' j) : ∃ d d' : Lanes, d.Differ d' ∧
    Ev I.machine (Hashed I s g d) ⟨entry (.simd .simdHashBlocks), s, g⟩ ∧
    Ev I.machine (Hashed I s' g' d') ⟨entry (.simd .simdHashBlocks), s', g'⟩ := by
  refine ⟨_, _, ?_, h.call.hashed h.data, h.call'.hashed h.data'⟩
  rw [h.size]
  exact hashBlocks_differ h.bytes

/-! ## Two buffers of forty bytes -/

/-- The 40 bytes at 0x1000 are hashed to 0x2000. Byte 17 is `b`, and every other one is
the low byte of its address. -/
def hashSample (b : Byte) : State :=
  { sampleState fun
      | .rdi => 0x1000
      | .rsi => 40
      | .rdx => 0x2000
      | .rsp => 0x8000
      | _ => 0 with
    mem := Mem.write8 (fun a => a.setWidth 8) 0x1011 b }

theorem hashSample_call (b : Byte) : HashCall (hashSample b) where
  output := show (0x2000 : Word) ≠ 0 by decide
  clear := show Apart (0x2000 : Word) 32 (0x8000 - 56) 64 from apart_of_gap (by decide) (by decide)
  data := show Apart (0x1000 : Word) 40 (0x8000 - 56) 64 from apart_of_gap (by decide) (by decide)

def hashSampleImage : Image :=
  sampleImage (sampleEnv 0 fun _ => .succeed) ⟨.asWritten, .asWritten, .asWritten⟩

theorem single_byte_detected_sample : ∃ d d' : Lanes, d.Differ d' ∧
    Ev hashSampleImage.machine (Hashed hashSampleImage (hashSample 0) [] d)
      ⟨entry (.simd .simdHashBlocks), hashSample 0, []⟩ ∧
    Ev hashSampleImage.machine (Hashed hashSampleImage (hashSample 1) [] d')
      ⟨entry (.simd .simdHashBlocks), hashSample 1, []⟩ :=
  single_byte_detected (j := 17) {
    call := hashSample_call 0
    call' := hashSample_call 1
    data := by decide
    data' := by decide
    size := rfl
    bytes := ⟨by decide, by decide, by decide⟩ }

end Kernova
