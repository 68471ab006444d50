import Kernova.Vmx.Handler

/-!
# Emulation of CPUID

`intercept_cpuid` taken with `vmcs_read64` and `vmcs_write64` as their comments
promise. The leaf is read first and lost: RAX still holds the second read when
`cpuid` executes. The second read names `VMCS_GUEST_RCX`, which carries the
encoding of the guest RSP field, and the results go to VMCS fields while the
guest's registers come back from the stack.
-/

namespace Kernova

open X86
open Machine (entry)

variable {I : Image} {s : State}

/-- An exit for CPUID, handled through helpers that keep their promise. -/
structure CpuidExit (I : Image) (s : State) : Prop where
  room : ExitRoom I s
  reads : I.helpers.read64 = .byComment
  writes : I.helpers.write64 = .byComment
  reason : s.sys.vmcs vmcsExitReason = exitReasonCpuid

/-- The CPUID function at the guest's leaf and subleaf. -/
def guestCpuid (e : Env) (s : State) : CpuidResult :=
  e.cpuid (low32 (s.regs .rax)) (low32 (s.regs .rcx))

/-- What the guest sees of a CPUID executed on its behalf. -/
structure Emulated (I : Image) (s : State) (c : Config Label) : Prop where
  executed : cpuids c.st.sys.events =
    (low32 (s.regs .rax), low32 (s.regs .rcx)) :: cpuids s.sys.events
  rax : c.st.regs .rax = ext32 (guestCpuid I.env s).eax
  rbx : c.st.regs .rbx = ext32 (guestCpuid I.env s).ebx
  rcx : c.st.regs .rcx = ext32 (guestCpuid I.env s).ecx
  rdx : c.st.regs .rdx = ext32 (guestCpuid I.env s).edx
  rsp : c.st.sys.vmcs vmcsGuestRsp = s.sys.vmcs vmcsGuestRsp
  rip : c.st.sys.vmcs vmcsGuestRip =
    s.sys.vmcs vmcsGuestRip + ext32 (low32 (s.sys.vmcs vmcsExitInstrLen))

/-- The handler emulates the instruction. -/
def EmulatesCpuid (I : Image) (s : State) : Prop :=
  Ev I.machine (fun c => c.loc.Final ∧ Emulated I s c)
    ⟨entry (.intercept .vmexitHandler), s, []⟩

/-- What the handler makes of the exit; `x` is the low half of the guest RSP. -/
structure CpuidOutcome (I : Image) (s : State) (x : BitVec 32) (c : Config Label) : Prop where
  loc : c.loc.Final
  executed : cpuids c.st.sys.events = (x, x) :: cpuids s.sys.events
  regs : c.st.regs = s.regs
  rsp : c.st.sys.vmcs vmcsGuestRsp = ext32 (I.env.cpuid x x).ecx
  rip : c.st.sys.vmcs vmcsGuestRip = nextRip I s

theorem cpuid_outcome (h : CpuidExit I s) :
    Ev I.machine (CpuidOutcome I s (low32 (s.sys.vmcs vmcsGuestRsp)))
      ⟨entry (.intercept .vmexitHandler), s, []⟩ := by
  refine (vmexit_handler_spec h.room).mono fun c hc => ?_
  rcases hc.resumed.resume with ⟨r, es, -, hloc⟩
  rcases hc.cpuid h.reads h.reason with ⟨y, ⟨z, hz, hze, hzy⟩, hvmcs, hev⟩
  rw [h.writes, fieldWrite_byComment] at hvmcs
  refine ⟨?_, ?_, hc.resumed.regs, ?_, ?_⟩
  · rw [hloc]
    split_ifs <;> trivial
  · rw [hev, hzy]
    simp only [cpuidStored, fieldWrite_cpuids]
    exact hze
  · rw [hvmcs, hzy, h.writes]
    simp only [cpuidStored, fieldWrite_byComment]
    -- the last two writes are to the guest RIP field, the one before is to RSP
    rw [setField, if_neg (by decide), setField, if_neg (by decide), setField,
      if_pos (show vmcsGuestRsp = vmcsGuestRcx from rfl),
      show fieldMask vmcsGuestRsp = BitVec.allOnes 64 by decide, BitVec.and_allOnes]
    rfl
  · rw [hvmcs]
    exact setField_guestRip _ _

/-- The exits on which emulation comes out right. -/
structure CpuidCoincides (I : Image) (s : State) : Prop where
  leaf : low32 (s.sys.vmcs vmcsGuestRsp) = low32 (s.regs .rax)
  subleaf : low32 (s.sys.vmcs vmcsGuestRsp) = low32 (s.regs .rcx)
  rax : s.regs .rax = ext32 (guestCpuid I.env s).eax
  rbx : s.regs .rbx = ext32 (guestCpuid I.env s).ebx
  rcx : s.regs .rcx = ext32 (guestCpuid I.env s).ecx
  rdx : s.regs .rdx = ext32 (guestCpuid I.env s).edx
  rsp : s.sys.vmcs vmcsGuestRsp = ext32 (guestCpuid I.env s).ecx
  length : low32 (exitInstrLen I s) = low32 (s.sys.vmcs vmcsExitInstrLen)

/-- Emulation comes out right exactly when the guest's registers, its RSP and the
results happen to be the same values. -/
theorem emulatesCpuid_iff (h : CpuidExit I s) : EmulatesCpuid I s ↔ CpuidCoincides I s := by
  have hout := cpuid_outcome h
  have hrip : nextRip I s = s.sys.vmcs vmcsGuestRip + ext32 (low32 (exitInstrLen I s)) := by
    rw [nextRip, exitField, h.reads]
  constructor
  · intro hem
    rcases hout.final_unique hem (fun c hc => hc.loc) (fun c hc => hc.1) with ⟨c, hc, -, hc'⟩
    have hpair := hc.executed.symm.trans hc'.executed
    simp only [List.cons.injEq, Prod.mk.injEq, and_true] at hpair
    have hsame : I.env.cpuid (low32 (s.sys.vmcs vmcsGuestRsp)) (low32 (s.sys.vmcs vmcsGuestRsp)) =
        guestCpuid I.env s := by
      rw [guestCpuid, ← hpair.1, ← hpair.2]
    have hlen := hc.rip.symm.trans hc'.rip
    rw [hrip] at hlen
    refine ⟨hpair.1, hpair.2, ?_, ?_, ?_, ?_, ?_, ?_⟩
    · rw [← hc.regs, hc'.rax]
    · rw [← hc.regs, hc'.rbx]
    · rw [← hc.regs, hc'.rcx]
    · rw [← hc.regs, hc'.rdx]
    · rw [← hsame, ← hc.rsp, hc'.rsp]
    · have hext := add_left_cancel hlen
      have hlow := congrArg low32 hext
      simpa using hlow
  · intro hco
    have hsame : I.env.cpuid (low32 (s.sys.vmcs vmcsGuestRsp)) (low32 (s.sys.vmcs vmcsGuestRsp)) =
        guestCpuid I.env s := by
      rw [guestCpuid, ← hco.leaf, ← hco.subleaf]
    refine hout.mono fun c hc => ⟨hc.loc, ?_, ?_, ?_, ?_, ?_, ?_, ?_⟩
    · rw [hc.executed, ← hco.leaf, ← hco.subleaf]
    · rw [hc.regs, hco.rax]
    · rw [hc.regs, hco.rbx]
    · rw [hc.regs, hco.rcx]
    · rw [hc.regs, hco.rdx]
    · rw [hc.rsp, hsame, ← hco.rsp]
    · rw [hc.rip, hrip, hco.length]

/-! ## The wrong leaf -/

/-- CPUID leaf 0 for a guest whose stack is at 0x7000. -/
def cpuidZero : State :=
  exitSample 0 fun f =>
    if f = vmcsExitReason then exitReasonCpuid
    else if f = vmcsGuestRsp then 0x7000
    else 0

theorem cpuidZero_exit : CpuidExit commentImage cpuidZero :=
  ⟨exitSample_room, rfl, rfl, by decide⟩

theorem emulatesCpuid_iff_sample :
    EmulatesCpuid commentImage cpuidZero ↔ CpuidCoincides commentImage cpuidZero :=
  emulatesCpuid_iff cpuidZero_exit

/-- Leaf 0x7000 is executed in place of leaf 0. -/
theorem cpuidZero_wrong : ¬ ∀ s, CpuidExit commentImage s → EmulatesCpuid commentImage s := by
  intro h
  have hem := h cpuidZero cpuidZero_exit
  rcases (cpuid_outcome cpuidZero_exit).final_unique hem (fun c hc => hc.loc)
    (fun c hc => hc.1) with
    ⟨c, hc, -, hc'⟩
  have hpair := hc.executed.symm.trans hc'.executed
  simp only [List.cons.injEq, Prod.mk.injEq, and_true] at hpair
  exact absurd hpair.1 (by decide)

end Kernova
