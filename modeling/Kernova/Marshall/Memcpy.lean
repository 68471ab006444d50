import Kernova.Marshall.ReturnCodes
import Kernova.X86.Record

/-!
# Overlapping and aligned copies

`simd_secure_memcpy` copies upward, and with aligned moves only if both pointers
are aligned.

* `alignedMove_width` — the aligned moves of the program are 32 bytes wide.
* `memcpy_exact` — the copy is exact wherever an upward copy can be, and no
  aligned move has a misaligned address.
-/

namespace Kernova

open X86
open Machine (entry)

variable {I : Image}

/-! ## Aligned moves of the program -/

theorem readBody_alignedMoves (r : Reading) :
    (readBody r).filterMap Instr.alignedMove = [] := by
  cases r <;> rfl

theorem writeBody_alignedMoves (r : Reading) :
    (writeBody r).filterMap Instr.alignedMove = [] := by
  cases r <;> rfl

/-- Only the loop of `simd_secure_memcpy` has aligned moves. -/
theorem alignedMoves_eq_nil {l : Label} (hl : l ≠ .simd .simdSecureMemcpyMemcpyLoop) :
    (I.machine.text l).filterMap Instr.alignedMove = [] := by
  cases l with
  | simd b => cases b <;> first | rfl | exact absurd rfl hl
  | trace b => cases b <;> rfl
  | vmx b => cases b <;> rfl
  | vmcs b => cases b <;> rfl
  | intercept b =>
    cases b with
    | vmcsRead64 => exact readBody_alignedMoves _
    | vmcsWrite64 => exact writeBody_alignedMoves _
    | vmcsRead32 => exact readBody_alignedMoves _
    | _ => rfl

/-- The aligned moves are those of YMM registers. -/
theorem alignedMove_width {c : Config Label} {w : Nat} {a : Word}
    (h : I.machine.MovesAligned c w a) : w = 32 := by
  rcases h with ⟨⟨l, k⟩, i, o, -, hi, hmove, -⟩
  have hmem : (w, o) ∈ (I.machine.text l).filterMap Instr.alignedMove :=
    List.mem_filterMap.mpr ⟨i, List.mem_of_getElem? hi, hmove⟩
  by_cases hl : l = .simd .simdSecureMemcpyMemcpyLoop
  · subst hl
    have hloop : (I.machine.text (.simd .simdSecureMemcpyMemcpyLoop)).filterMap
        Instr.alignedMove = [(32, .sib .r13 .rbx 0), (32, .sib .r12 .rbx 0)] := rfl
    rw [hloop] at hmem
    simp only [List.mem_cons, List.not_mem_nil, Prod.mk.injEq, or_false] at hmem
    omega
  · rw [alignedMoves_eq_nil hl] at hmem
    exact absurd hmem List.not_mem_nil

/-! ## Exact copies -/

/-- A call of `simd_secure_memcpy` with RDI = dest, RSI = src and RDX = size. The
ranges do not wrap, they do not overlap or the destination is the lower one, and
they keep off the stack of the call. -/
structure UpwardCall (s : State) : Prop where
  dest : (s.regs .rdi).toNat + (s.regs .rdx).toNat ≤ 2 ^ 64
  src : (s.regs .rsi).toNat + (s.regs .rdx).toNat ≤ 2 ^ 64
  order : Apart (s.regs .rdi) (s.regs .rdx).toNat (s.regs .rsi) (s.regs .rdx).toNat ∨
    s.regs .rdi ≤ s.regs .rsi
  destStack : Clear (InRange · (s.regs .rdi) (s.regs .rdx).toNat) (s.regs .rsp) 40
  srcStack : Clear (InRange · (s.regs .rsi) (s.regs .rdx).toNat) (s.regs .rsp) 40

/-- The call is back with the size; the destination holds what the source held,
and nothing else has changed but the stack of the call. -/
structure CopiesExactly (I : Image) (s : State) (c : Config Label) : Prop where
  back : c.loc = I.machine.retLoc s.top
  rax : c.st.regs .rax = s.regs .rdx
  bytes : ∀ i < (s.regs .rdx).toNat,
    c.st.mem (s.regs .rdi + BitVec.ofNat 64 i) = s.mem (s.regs .rsi + BitVec.ofNat 64 i)
  frame : ∀ a, ¬ InRange a (s.regs .rdi) (s.regs .rdx).toNat →
    ¬ InRange a (s.regs .rsp - BitVec.ofNat 64 40) 40 → c.st.mem a = s.mem a

variable {s : State} {c : Config Label}

theorem UpwardCall.ahead (h : UpwardCall s) :
    Ahead (s.regs .rdi) (s.regs .rsi) (s.regs .rdx).toNat := by
  rcases h.order with hap | hle
  · exact hap.ahead (Nat.le_of_lt (BitVec.isLt _))
  · exact ahead_of_le hle h.dest h.src

theorem CopiesExactly.no_fault (h : CopiesExactly I s c) : c.loc ≠ .fault := by
  rw [h.back, Machine.retLoc]
  split
  · intro hfault
    cases hfault
  · intro hfault
    cases hfault

/-- `simd_secure_memcpy` is exact, by either loop, and every aligned move it makes
has an address that is a multiple of 32. -/
theorem memcpy_exact (g : List (Ctl Label)) (h : UpwardCall s) :
    ∃ n, CopiesExactly I s (I.machine.run n ⟨entry (.simd .simdSecureMemcpy), s, g⟩) ∧
      ∀ m < n, ∀ w a, I.machine.MovesAligned
        (I.machine.run m ⟨entry (.simd .simdSecureMemcpy), s, g⟩) w a → a.toNat % 32 = 0 := by
  rcases simd_secure_memcpy_shifts (I := I) s g h.destStack with ⟨n, hn⟩
  have hexact : CopiesExactly I s (I.machine.run n ⟨entry (.simd .simdSecureMemcpy), s, g⟩) := by
    refine ⟨hn.ret.loc, hn.rax, hn.shifts h.ahead h.srcStack, ?_⟩
    exact fun a ha hstack => hn.ret.mem a hstack ha
  -- a misaligned move would have ended the run with a fault
  refine ⟨n, hexact, fun m hm w a hmove => ?_⟩
  have haligned : a.toNat % w = 0 := hmove.aligned hm hexact.no_fault
  rwa [alignedMove_width hmove] at haligned

/-! ## A copy of overlapping ranges -/

/-- 100 bytes from `0x2020` down to `0x2000`, with the stack at `0x8000`. Every byte is
the low byte of its address. -/
def memcpySample : State :=
  { sampleState fun
      | .rdi => 0x2000
      | .rsi => 0x2020
      | .rdx => 100
      | .rsp => 0x8000
      | _ => 0 with
    mem := fun a => a.setWidth 8 }

theorem memcpySample_upward : UpwardCall memcpySample where
  dest := by decide
  src := by decide
  order := Or.inr (by decide)
  destStack := apart_of_gap (by decide) (by decide)
  srcStack := apart_of_gap (by decide) (by decide)

theorem memcpy_exact_sample : ∃ n, CopiesExactly narrowImage memcpySample
      (narrowImage.machine.run n ⟨entry (.simd .simdSecureMemcpy), memcpySample, []⟩) ∧
    ∀ m < n, ∀ w a, narrowImage.machine.MovesAligned
      (narrowImage.machine.run m ⟨entry (.simd .simdSecureMemcpy), memcpySample, []⟩) w a →
        a.toNat % 32 = 0 :=
  memcpy_exact [] memcpySample_upward

end Kernova
