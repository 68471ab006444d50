import Kernova.Marshall.ReturnCodes
import Kernova.Marshall.Widths
import Kernova.Monitor.Baseline
import Kernova.Monitor.Check
import Kernova.Monitor.Watch

/-!
# The calling convention

The routines that `simd_packer.asm` and `trace_engine.asm` export, and when a
call of one comes back the way the C++ side relies on: at the return address it
pushed, with the stack pointer and the callee-saved registers as they were.
-/

namespace Kernova

open X86
open Machine (entry)

/-- The `global` labels of the two files. -/
inductive Routine where
  | simdPackData | simdUnpackData | simdSecureMemcpy | simdZeroMemory | simdHashBlocks
  | traceInit | traceLogEvent | traceCheckIntegrity | traceSetWatchpoint | traceGetStatistics
deriving DecidableEq, Repr

namespace Routine

def label : Routine → Label
  | simdPackData => .simd .simdPackData
  | simdUnpackData => .simd .simdUnpackData
  | simdSecureMemcpy => .simd .simdSecureMemcpy
  | simdZeroMemory => .simd .simdZeroMemory
  | simdHashBlocks => .simd .simdHashBlocks
  | traceInit => .trace .traceInit
  | traceLogEvent => .trace .traceLogEvent
  | traceCheckIntegrity => .trace .traceCheckIntegrity
  | traceSetWatchpoint => .trace .traceSetWatchpoint
  | traceGetStatistics => .trace .traceGetStatistics

/-- The calls that return before they write anything: only the routines that
check their arguments have any. -/
def Refused (s : State) : Routine → Prop
  | simdPackData => Marshaller.pack.Rejected s
  | simdUnpackData => Marshaller.unpack.Rejected s
  | simdZeroMemory => Marshaller.zero.Rejected s
  | simdHashBlocks => HashRefused s
  | simdSecureMemcpy | traceInit | traceLogEvent | traceCheckIntegrity | traceSetWatchpoint
  | traceGetStatistics => False

/-- Where a call with the arguments of `s` may write, beside its stack. -/
def writes (l : Layout) (s : State) : Routine → Word → Prop
  | simdPackData | simdUnpackData | simdSecureMemcpy =>
      (InRange · (s.regs .rdi) (s.regs .rdx).toNat)
  | simdZeroMemory => (InRange · (s.regs .rdi) (s.regs .rsi).toNat)
  | simdHashBlocks => (InRange · (s.regs .rdx) 32)
  | traceInit | traceSetWatchpoint => l.TraceStorage
  | traceLogEvent | traceCheckIntegrity => LogWrites l (s.mem.read64 l.writeIndex)
  | traceGetStatistics => (InRange · (s.regs .rdi) 32)

/-- The bytes of stack a call uses. -/
def depth : Routine → Nat
  | simdPackData => 72
  | simdUnpackData | simdSecureMemcpy => 40
  | simdZeroMemory | traceGetStatistics => 32
  | simdHashBlocks => 56
  | traceInit => 64
  | traceLogEvent => 48
  | traceCheckIntegrity => 152
  | traceSetWatchpoint => 24

end Routine

variable {I : Image}

/-- A call as the C++ side can make it, with any arguments: what the routine
writes, if it does not refuse them, keeps off its stack, the caller is outside the
program, and no stack address is one of the program's return sites. -/
structure Callable (I : Image) (r : Routine) (s : State) : Prop where
  clear : ¬ r.Refused s → Clear (r.writes I.layout s) (s.regs .rsp) r.depth
  caller : I.site s.top = none
  stack : ∀ a, InRange a (s.regs .rsp - BitVec.ofNat 64 r.depth) r.depth → I.site a = none

/-- Back at the caller, as the convention asks. -/
structure SafelyBack (s : State) (c : Config Label) : Prop where
  loc : c.loc = .out s.top
  rsp : c.st.regs .rsp = s.regs .rsp + 8
  saved : ∀ r ∈ calleeSaved, c.st.regs r = s.regs r

def SafeReturn (I : Image) (r : Routine) (s : State) : Prop :=
  Ev I.machine (SafelyBack s) ⟨entry r.label, s, []⟩

/-- The one call that goes wrong: `simd_pack_data` on its 512-bit path with a
size that is no multiple of 64. -/
def WideTail (e : Env) (r : Routine) (s : State) : Prop :=
  r = .simdPackData ∧ packPath e s = .wide ∧ (s.regs .rdx).toNat % 64 ≠ 0

section

variable {s : State} {r : Routine} {c : Config Label}

/-- A routine that returns has kept the convention. -/
theorem safelyBack_of_returns {X : List Reg} {W : Word → Prop} {d : Nat}
    (h : Returns I.machine X W d s c) (hX : X ⊆ volatile) (hs : I.site s.top = none) :
    SafelyBack s c := by
  refine ⟨?_, h.rsp, fun r hr => ?_⟩
  · rw [h.loc, Machine.retLoc, show I.machine.decode s.top = none from hs]
  · obtain ⟨hne, hv⟩ := not_volatile hr
    exact h.regs r hne fun hx => hv (hX hx)

/-- Every routine but a wide `simd_pack_data` keeps the convention. -/
theorem safeReturn_of_not_wideTail (h : Callable I r s) (hw : ¬ WideTail I.env r s) :
    SafeReturn I r s := by
  have hclear := h.clear
  have hcaller := h.caller
  unfold SafeReturn
  cases r with
  | simdPackData =>
    refine (simd_pack_data_outcome hclear).mono fun c hc => ?_
    rw [PackOutcome] at hc
    cases hp : packPath I.env s with
    | refused =>
      rw [hp] at hc
      exact safelyBack_of_returns hc.1 (List.Subset.refl _) hcaller
    | empty =>
      rw [hp] at hc
      exact safelyBack_of_returns hc.1 (List.Subset.refl _) hcaller
    | narrow =>
      rw [hp] at hc
      exact safelyBack_of_returns hc.ret (List.Subset.refl _) hcaller
    | wide =>
      rw [hp] at hc
      rcases hc with ⟨-, hc⟩ | ⟨htail, -, -⟩
      · exact safelyBack_of_returns hc.ret (List.Subset.refl _) hcaller
      · exact absurd ⟨rfl, hp, htail⟩ hw
  | simdUnpackData =>
    refine (simd_unpack_data_outcome hclear).mono fun c hc => ?_
    unfold UnpackOutcome at hc
    split_ifs at hc
    · exact safelyBack_of_returns hc.1 (List.Subset.refl _) hcaller
    · exact safelyBack_of_returns hc.ret (List.Subset.refl _) hcaller
  | simdSecureMemcpy =>
    exact (simd_secure_memcpy_spec s [] (hclear id)).mono fun c hc =>
      safelyBack_of_returns hc.ret (List.Subset.refl _) hcaller
  | simdZeroMemory =>
    exact (simd_zero_memory_spec s [] hclear).mono fun c hc =>
      safelyBack_of_returns (zero_returned hc).1 (by decide) hcaller
  | simdHashBlocks =>
    exact (simd_hash_blocks_spec s [] hclear).mono fun c hc =>
      safelyBack_of_returns (hash_returns hc) (List.Subset.refl _) hcaller
  | traceInit =>
    exact (trace_init_spec s [] (hclear id)).mono fun c hc =>
      safelyBack_of_returns hc.ret (List.Subset.refl _) hcaller
  | traceLogEvent =>
    exact (trace_log_event_spec s [] (hclear id)).mono fun c hc =>
      safelyBack_of_returns hc.ret (List.Subset.refl _) hcaller
  | traceCheckIntegrity =>
    refine (trace_check_integrity_spec s [] (hclear id)).mono fun c hc => ?_
    obtain ⟨m₁, m₂, m₃, hm⟩ := hc
    exact safelyBack_of_returns hm.ret (List.Subset.refl _) hcaller
  | traceSetWatchpoint =>
    exact (trace_set_watchpoint_spec s [] (hclear id)).mono fun c hc =>
      safelyBack_of_returns hc.ret (List.Subset.refl _) hcaller
  | traceGetStatistics =>
    refine (trace_get_statistics_spec s [] (hclear id)).mono fun c hc => ?_
    obtain ⟨m, hm⟩ := hc
    exact safelyBack_of_returns hm.ret (by decide) hcaller

/-- A wide `simd_pack_data` with a tail pops the address of a saved register. -/
theorem not_safeReturn_of_wideTail (h : Callable I r s) (hw : WideTail I.env r s) :
    ¬ SafeReturn I r s := by
  obtain ⟨rfl, hp, htail⟩ := hw
  intro hsafe
  have hlost := retLoc_below h.stack
  have hout : Ev I.machine (fun c => c.loc = .out (s.regs .rsp - 8) ∧
      c.st.regs .rsp = s.regs .rsp - 56) ⟨entry (.simd .simdPackData), s, []⟩ := by
    refine (simd_pack_data_outcome h.clear).mono fun c hc => ?_
    rw [PackOutcome, hp] at hc
    rcases hc with ⟨hwhole, -⟩ | ⟨-, hloc, hrsp⟩
    · exact absurd hwhole htail
    · exact ⟨hloc.trans hlost, hrsp⟩
  obtain ⟨c, hc, -, hrsp⟩ := hsafe.final_unique hout (fun c hc => final_of_out hc.loc)
    (fun c hc => final_of_out hc.1)
  exact rsp_not_restored (hc.rsp.symm.trans hrsp)

/-- The convention is kept by every call but that one. -/
theorem safeReturn_iff (h : Callable I r s) : SafeReturn I r s ↔ ¬ WideTail I.env r s := by
  constructor
  · intro hsafe hw
    exact not_safeReturn_of_wideTail h hw hsafe
  · exact safeReturn_of_not_wideTail h

end

/-! ## A call of 100 bytes -/

theorem packSample_callable : Callable packSampleImage .simdPackData packSample :=
  ⟨fun _ => packSample_wide.destStack, packSample_wide.caller, packSample_wide.stack⟩

theorem packSample_wideTail : WideTail packSampleImage.env .simdPackData packSample :=
  ⟨rfl, packSample_wide.path, by decide⟩

theorem safeReturn_iff_sample : SafeReturn packSampleImage .simdPackData packSample ↔
    ¬ WideTail packSampleImage.env .simdPackData packSample :=
  safeReturn_iff packSample_callable

/-- So the convention is not kept by all calls. -/
theorem not_safeReturn :
    ¬ ∀ r s, Callable packSampleImage r s → SafeReturn packSampleImage r s := by
  intro h
  exact not_safeReturn_of_wideTail packSample_callable packSample_wideTail
    (h _ _ packSample_callable)

end Kernova
