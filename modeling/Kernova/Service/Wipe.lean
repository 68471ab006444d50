import Kernova.Service.Enclave
import Kernova.Marshall.ReturnCodes

/-!
# Wiping the enclave

`simd_zero_memory` clears a buffer, and `EnclaveBuffer::zero` reports it.

* `wipe_returns` — a call on a buffer of any size, as the C++ side sees it.
* `wipe_exact` — nothing but the buffer is cleared, all of it is, and `zero` says
  so.
-/

namespace Kernova.Service

open X86
open Machine (entry)

variable {I : Image}

/-! ## The routine -/

/-- A call of `simd_zero_memory` with RDI = buffer and RSI = size. The range does
not wrap, and it keeps off the stack of the call. -/
structure WipeCall (s : State) : Prop where
  buffer : s.regs .rdi ≠ 0
  size : s.regs .rsi ≠ 0
  fits : (s.regs .rdi).toNat + (s.regs .rsi).toNat ≤ 2 ^ 64
  stack : Clear (InRange · (s.regs .rdi) (s.regs .rsi).toNat) (s.regs .rsp) 32

/-- The call is back with the size; the buffer is clear, and nothing else has
changed but the stack of the call. -/
structure WipesExactly (I : Image) (s : State) (c : Config Label) : Prop where
  back : c.loc = I.machine.retLoc s.top
  rax : c.st.regs .rax = s.regs .rsi
  bytes : ∀ i < (s.regs .rsi).toNat, c.st.mem (s.regs .rdi + BitVec.ofNat 64 i) = 0
  frame : ∀ a, ¬ InRange a (s.regs .rdi) (s.regs .rsi).toNat →
    ¬ InRange a (s.regs .rsp - BitVec.ofNat 64 32) 32 → c.st.mem a = s.mem a

/-- What an accepted call leaves behind. -/
theorem cleared_of_outcome {s : State} {c : Config Label} (hbuffer : s.regs .rdi ≠ 0)
    (hsize : s.regs .rsi ≠ 0) (hc : ZeroOutcome I s c) :
    Returns I.machine [.rax, .rcx] (InRange · (s.regs .rdi) (s.regs .rsi).toNat) 32 s c ∧
      c.st.regs .rax = s.regs .rsi ∧
      ∀ a, InRange a (s.regs .rdi) (s.regs .rsi).toNat → c.st.mem a = 0 := by
  have hvalid : ¬ (s.regs .rdi = 0 ∨ s.regs .rsi = 0) := not_or.mpr ⟨hbuffer, hsize⟩
  rcases hc with ⟨-, hc⟩
  rwa [if_neg hvalid] at hc

theorem wipesExactly_of_outcome {s : State} {c : Config Label} (h : WipeCall s)
    (hc : ZeroOutcome I s c) : WipesExactly I s c := by
  rcases cleared_of_outcome h.buffer h.size hc with ⟨hret, hrax, hzero⟩
  constructor
  · exact hret.loc
  · exact hrax
  · intro i hi
    exact hzero _ (inRange_add_ofNat _ hi (by omega))
  · intro a ha hstack
    exact hret.mem a hstack ha

/-! ## The enclave's buffer -/

/-- The whole buffer is clear. -/
def Wiped (t : Process) : Prop :=
  t.enclave.data ≠ 0 ∧ ∀ a, InRange a t.enclave.data t.enclave.size.toNat → t.mem a = 0

/-- A call of `EnclaveBuffer::zero`. A buffer that was allocated has a size, and
it is off the stack. -/
structure ZeroCall (I : Image) (e : CallEnv) (t : Process) : Prop where
  caller : I.site e.returnTo = none
  size : t.enclave.data ≠ 0 → t.enclave.size ≠ 0
  stack : t.enclave.data ≠ 0 →
    ∀ a, InRange a t.enclave.data t.enclave.size.toNat → ¬ e.Stack a

/-- The call returns whether the buffer is clear, as it is if there is one, and
nothing off the stack has changed but the buffer. -/
structure ZeroReturns (e : CallEnv) (t : Process) (b : Bool) (u : Process) : Prop where
  tells : b = true ↔ Wiped u
  wiped : t.enclave.data ≠ 0 → b = true
  enclave : u.enclave = t.enclave
  frame : ∀ a, ¬ InRange a t.enclave.data t.enclave.size.toNat → ¬ e.Stack a →
    u.mem a = t.mem a

section

variable {e : CallEnv} {t : Process}

/-- `simd_zero_memory` on the enclave's buffer. -/
theorem wipe_returns (h : ZeroCall I e t) (hdata : t.enclave.data ≠ 0) :
    Ev I.machine (fun c => c.loc = .out e.returnTo ∧ c.st.regs .rax = t.enclave.size ∧
        (∀ a, InRange a t.enclave.data t.enclave.size.toNat → c.st.mem a = 0) ∧
        ∀ a, ¬ InRange a t.enclave.data t.enclave.size.toNat → ¬ e.Stack a →
          c.st.mem a = t.mem a)
      ⟨entry (.simd .simdZeroMemory),
        e.enter [(.rdi, t.enclave.data), (.rsi, t.enclave.size)] t.mem, []⟩ := by
  have hclear : Clear (InRange · t.enclave.data t.enclave.size.toNat)
      ((e.enter [(.rdi, t.enclave.data), (.rsi, t.enclave.size)] t.mem).regs .rsp) 32 :=
    CallEnv.clear (h.stack hdata) rfl (by omega)
  refine (simd_zero_memory_spec _ [] fun _ => hclear).mono fun c hc => ?_
  rcases cleared_of_outcome hdata (h.size hdata) hc with ⟨hret, hrax, hzero⟩
  refine ⟨?_, hrax, hzero, fun a ha hstack => ?_⟩
  · rw [hret.loc, CallEnv.top_enter rfl]
    exact Image.retLoc_out h.caller
  · exact mem_of_returns hret rfl (by omega) hstack ha

/-- Where there is no buffer, `zero` returns false and does nothing. -/
theorem zeroReturns_null (hdata : t.enclave.data = 0) : ZeroReturns e t false t where
  tells := iff_of_false Bool.false_ne_true fun hw => hw.1 hdata
  wiped := fun hbuffer => absurd hdata hbuffer
  enclave := rfl
  frame := fun _ _ _ => rfl

theorem zero_tells (h : ZeroCall I e t) :
    ∃ b u, Gives (fun n => zero I e n t) (b, u) ∧ ZeroReturns e t b u := by
  by_cases hdata : t.enclave.data = 0
  · refine ⟨false, t, Gives.of_forall fun n => ?_, zeroReturns_null hdata⟩
    rw [zero, if_pos hdata]
  · rcases callAsm_returns (wipe_returns h hdata) with ⟨c, ⟨hrax, hzero, hframe⟩, hcall⟩
    refine ⟨true, { t with mem := c.st.mem }, ?_, ?_⟩
    · unfold zero
      simp only [if_neg hdata]
      refine hcall.bind (Gives.of_forall fun n => ?_)
      simp [hrax]
    · constructor
      · exact iff_of_true rfl ⟨hdata, hzero⟩
      · exact fun _ => rfl
      · rfl
      · exact hframe

end

/-! ## Exactness -/

/-- `simd_zero_memory` clears its buffer and nothing else, and `EnclaveBuffer::zero`
returns true exactly if the whole buffer has been cleared. -/
theorem wipe_exact :
    (∀ s g, WipeCall s → Ev I.machine (WipesExactly I s) ⟨entry (.simd .simdZeroMemory), s, g⟩) ∧
    ∀ e t, ZeroCall I e t →
      ∃ b u, Gives (fun n => zero I e n t) (b, u) ∧ ZeroReturns e t b u := by
  constructor
  · intro s g h
    exact (simd_zero_memory_spec s g fun _ => h.stack).mono fun c hc => wipesExactly_of_outcome h hc
  · intro e t h
    exact zero_tells h

/-! ## A buffer with a tail -/

/-- 100 bytes at 0x2000, with the stack at 0x8000. -/
def wipeSample : State :=
  sampleState fun
    | .rdi => 0x2000
    | .rsi => 100
    | .rsp => 0x8000
    | _ => 0

theorem wipeSample_call : WipeCall wipeSample where
  buffer := by decide
  size := by decide
  fits := by decide
  stack := apart_of_gap (by decide) (by decide)

/-- The same buffer as the enclave's. -/
def wipeProcess : Process :=
  { Process.start fun _ => 0xFF with enclave := ⟨0x2000, 100⟩ }

theorem wipeProcess_call : ZeroCall narrowImage (sampleCaller 0) wipeProcess where
  caller := show narrowImage.site 0 = none by decide
  size := by
    intro _
    decide
  stack := fun _ => show Apart (0x2000 : Word) 100 (0x8000 - 72) 80 from
    apart_of_gap (by decide) (by decide)

theorem wipe_exact_sample :
    Ev narrowImage.machine (WipesExactly narrowImage wipeSample)
      ⟨entry (.simd .simdZeroMemory), wipeSample, []⟩ ∧
    ∃ b u, Gives (fun n => zero narrowImage (sampleCaller 0) n wipeProcess) (b, u) ∧
      ZeroReturns (sampleCaller 0) wipeProcess b u :=
  ⟨wipe_exact.1 _ [] wipeSample_call, wipe_exact.2 _ _ wipeProcess_call⟩

end Kernova.Service
