import Mathlib.Logic.Function.Basic
import Kernova.Driver.Abi
import Kernova.Lts.Ledger
import Kernova.X86.Machine

/-!
# `amd_svm.c`

The driver's state and its SVM operations. A call runs on one processor from
beginning to end; `CallEnv` is everything about a call that the driver does not
decide.
-/

namespace Kernova.Driver

open X86

def kernovaEferSvme : Word := 1 <<< 12
def kernovaVmCrSvmdis : Word := 1 <<< 4

def kernovaVmcbSize : Nat := 4096
def kernovaGuestPageSize : Nat := 4096

def vmcbControlIntercept : Word := 0x00c
def vmcbControlAsid : Word := 0x058
def vmcbControlTlbControl : Word := 0x05c
def vmcbControlExitCode : Word := 0x070
def vmcbControlExitInfo1 : Word := 0x078
def vmcbControlExitInfo2 : Word := 0x080
def vmcbControlNRip : Word := 0x0c8
def vmcbSaveEs : Word := 0x400
def vmcbSaveCs : Word := 0x410
def vmcbSaveSs : Word := 0x420
def vmcbSaveDs : Word := 0x430
def vmcbSaveFs : Word := 0x440
def vmcbSaveGs : Word := 0x450
def vmcbSaveGdtr : Word := 0x460
def vmcbSaveLdtr : Word := 0x470
def vmcbSaveIdtr : Word := 0x480
def vmcbSaveTr : Word := 0x490
def vmcbSaveEfer : Word := 0x4d0
def vmcbSaveCr4 : Word := 0x548
def vmcbSaveCr3 : Word := 0x550
def vmcbSaveCr0 : Word := 0x558
def vmcbSaveDr7 : Word := 0x560
def vmcbSaveDr6 : Word := 0x568
def vmcbSaveRflags : Word := 0x570
def vmcbSaveRip : Word := 0x578
def vmcbSaveRsp : Word := 0x5d8
def vmcbSaveRax : Word := 0x5f8

def svmInterceptHlt : Nat := 24

/-! ## State -/

/-- `struct kernova_amd_svm_context`; a null pointer is 0. -/
structure SvmContext where
  vmcb : Word
  hostSaveArea : Word
  guestPage : Word
  vmcbPa : Word
  hostSavePa : Word
  guestPa : Word
  originalEfer : Word
  originalVmHsavePa : Word
  eferSaved : Bool
  hsaveSaved : Bool
  initialized : Bool
  vmCreated : Bool
  lastExitCode : Word
  lastExitInfo1 : Word
  lastExitInfo2 : Word
deriving DecidableEq, Repr

/-- `memset(&state->svm, 0, sizeof(state->svm))` -/
def SvmContext.zero : SvmContext :=
  ⟨0, 0, 0, 0, 0, 0, 0, 0, false, false, false, false, 0, 0, 0⟩

/-- What one processor has of its own: two MSRs, RFLAGS.IF and the global
interrupt flag. -/
structure Processor where
  efer : Word
  vmHsavePa : Word
  interrupts : Bool
  gif : Bool
deriving DecidableEq, Repr

/-- The driver's state, and the part of the machine that it works on: the
processors, the kernel's memory, and the page allocator's ledger. -/
structure Kernel (Cpu : Type) where
  caps : Caps
  svm : SvmContext
  processors : Cpu → Processor
  mem : Mem
  pages : Ledger Word
  loaded : Bool

/-- `__get_free_page`: a page that is not in use, or none. -/
structure PageAllocator where
  get : List Word → Option Word
  fresh : ∀ used p, get used = some p → p ≠ 0 ∧ p ∉ used

/-- The surroundings of a call: the processor it runs on and what `CPUID` and
VM_CR say there, the page allocator, the value of `allow_vmrun` at the three
places where it is read, and what a guest does to memory until its #VMEXIT. -/
structure CallEnv (Cpu : Type) where
  cpu : Cpu
  hasSvm : Bool
  hasVmx : Bool
  cpuid : BitVec 32 → BitVec 32 → CpuidResult
  vmCr : Word
  allocator : PageAllocator
  allowAtEntry : Bool
  allowAtRun : Bool
  allowAtExit : Bool
  guest : Word → Mem → Mem

section

variable {Cpu : Type} (virtToPhys : Word → Word) (e : CallEnv Cpu)

/-! ## Pages -/

/-- `kernova_alloc_page`: a zeroed page and its physical address. -/
def kernovaAllocPage (s : Kernel Cpu) : Option (Word × Word) × Kernel Cpu :=
  match e.allocator.get s.pages.outstanding with
  | none => (none, s)
  | some memory =>
    (some (memory, virtToPhys memory),
      { s with mem := s.mem.fill memory 4096 0, pages := .alloc memory :: s.pages })

/-- `kernova_free_page`: the pointer is null afterwards. -/
def kernovaFreePage (page : Word) (s : Kernel Cpu) : Word × Kernel Cpu :=
  if page ≠ 0 then (0, { s with pages := .free page :: s.pages }) else (page, s)

/-- `kernova_prepare_guest_page` -/
def kernovaPrepareGuestPage (ctx : SvmContext) (m : Mem) : Mem :=
  let guest := ctx.guestPage
  let m := m.fill guest kernovaGuestPageSize 0xf4
  ((m.write8 guest 0x90).write8 (guest + 1) 0x90).write8 (guest + 2) 0xf4

/-- `vmcb_write_segment`: selector, attributes, limit and base, packed. -/
def vmcbWriteSegment (m : Mem) (vmcb : Word) (offset : Word) (selector attrib : BitVec 16)
    (limit : BitVec 32) (base : Word) : Mem :=
  let p := vmcb + offset
  (((m.store p 2 selector.toNat).store (p + 2) 2 attrib.toNat).write32 (p + 4) limit).write64
    (p + 8) base

/-- `kernova_prepare_vmcb` -/
def kernovaPrepareVmcb (ctx : SvmContext) (m : Mem) : Mem :=
  let vmcb := ctx.vmcb
  let m := m.fill vmcb kernovaVmcbSize 0
  let m := m.write64 (vmcb + vmcbControlIntercept) (1 <<< svmInterceptHlt)
  let m := m.write32 (vmcb + vmcbControlAsid) 1
  let m := m.write8 (vmcb + vmcbControlTlbControl) 1
  let m := vmcbWriteSegment m vmcb vmcbSaveEs 0 0x93 0xffff 0
  let m := vmcbWriteSegment m vmcb vmcbSaveCs 0 0x9b 0xffff 0
  let m := vmcbWriteSegment m vmcb vmcbSaveSs 0 0x93 0xffff 0
  let m := vmcbWriteSegment m vmcb vmcbSaveDs 0 0x93 0xffff 0
  let m := vmcbWriteSegment m vmcb vmcbSaveFs 0 0x93 0xffff 0
  let m := vmcbWriteSegment m vmcb vmcbSaveGs 0 0x93 0xffff 0
  let m := vmcbWriteSegment m vmcb vmcbSaveGdtr 0 0x82 0xffff 0
  let m := vmcbWriteSegment m vmcb vmcbSaveLdtr 0 0x82 0xffff 0
  let m := vmcbWriteSegment m vmcb vmcbSaveIdtr 0 0x82 0xffff 0
  let m := vmcbWriteSegment m vmcb vmcbSaveTr 0 0x8b 0xffff 0
  let m := m.write64 (vmcb + vmcbSaveEfer) 0
  let m := m.write64 (vmcb + vmcbSaveCr0) 0x10
  let m := m.write64 (vmcb + vmcbSaveCr3) 0
  let m := m.write64 (vmcb + vmcbSaveCr4) 0
  let m := m.write64 (vmcb + vmcbSaveDr6) 0xffff0ff0
  let m := m.write64 (vmcb + vmcbSaveDr7) 0x400
  let m := m.write64 (vmcb + vmcbSaveRflags) 0x2
  let m := m.write64 (vmcb + vmcbSaveRip) ctx.guestPa
  let m := m.write64 (vmcb + vmcbSaveRsp) (ctx.guestPa + BitVec.ofNat 64 kernovaGuestPageSize - 16)
  let m := m.write64 (vmcb + vmcbSaveRax) 0
  m.write64 (vmcb + vmcbControlNRip) (ctx.guestPa + 3)

/-! ## Processors -/

section

variable [DecidableEq Cpu] (s : Kernel Cpu) (cpu : Cpu)

/-- `wrmsrl(KERNOVA_MSR_EFER, value)` -/
def Kernel.writeEfer (value : Word) : Kernel Cpu :=
  { s with processors :=
      Function.update s.processors cpu { s.processors cpu with efer := value } }

/-- `wrmsrl(KERNOVA_MSR_VM_HSAVE_PA, value)` -/
def Kernel.writeVmHsavePa (value : Word) : Kernel Cpu :=
  { s with processors :=
      Function.update s.processors cpu { s.processors cpu with vmHsavePa := value } }

/-- `local_irq_save` and `local_irq_restore` -/
def Kernel.setInterrupts (value : Bool) : Kernel Cpu :=
  { s with processors :=
      Function.update s.processors cpu { s.processors cpu with interrupts := value } }

/-- `VMRUN` where EFER.SVME is set: the guest runs, and #VMEXIT leaves the global
interrupt flag clear. Where SVME is clear the processor raises #UD instead. The fault
is not modelled: what follows it here stands for no run of the driver (`Vmrun.Enabled`). -/
def vmrun (rax : Word) : Kernel Cpu :=
  { s with
    mem := e.guest rax s.mem
    processors := Function.update s.processors e.cpu { s.processors e.cpu with gif := false } }

end

/-! ## Operations -/

/-- `kernova_amd_svm_fill_caps`, for the value of `allow_vmrun` that it reads -/
def kernovaAmdSvmFillCaps (allowVmrun : Bool) (svm : SvmContext) (caps : Caps) : Caps :=
  let caps := { caps with
    svmInitialized := svm.initialized
    vmCreated := svm.vmCreated
    vmrunEnabled := allowVmrun
    lastVmexitValid := svm.lastExitCode ≠ 0
    lastExitCode := svm.lastExitCode
    lastExitInfo1 := svm.lastExitInfo1
    lastExitInfo2 := svm.lastExitInfo2 }
  if svm.vmCreated then { caps with runtimeState := .vmCreated }
  else if svm.initialized then { caps with runtimeState := .backendInitialized }
  else caps

/-- `if (!state->svm.vmcb)` of `kernova_amd_svm_create_vm` -/
def createVmcb (s : Kernel Cpu) : Int × Kernel Cpu :=
  if s.svm.vmcb ≠ 0 then (0, s)
  else
    match kernovaAllocPage virtToPhys e s with
    | (none, s) => (-ENOMEM, s)
    | (some (page, pa), s) => (0, { s with svm := { s.svm with vmcb := page, vmcbPa := pa } })

/-- `if (!state->svm.guest_page)`, with the rollback of the VMCB -/
def createGuestPage (s : Kernel Cpu) : Int × Kernel Cpu :=
  if s.svm.guestPage ≠ 0 then (0, s)
  else
    match kernovaAllocPage virtToPhys e s with
    | (none, s) =>
      match kernovaFreePage s.svm.vmcb s with
      | (vmcb, s) => (-ENOMEM, { s with svm := { s.svm with vmcb := vmcb } })
    | (some (page, pa), s) => (0, { s with svm := { s.svm with guestPage := page, guestPa := pa } })

/-- `kernova_amd_svm_create_vm` -/
def kernovaAmdSvmCreateVm (s : Kernel Cpu) (guestSize : BitVec 32) : Int × Kernel Cpu :=
  if s.svm.initialized = false then (-EINVAL, s)
  else if guestSize ≠ 0 ∧ guestSize.toNat > kernovaGuestPageSize then (-EINVAL, s)
  else
    match createVmcb virtToPhys e s with
    | (ret, s) =>
      if ret ≠ 0 then (ret, s)
      else
        match createGuestPage virtToPhys e s with
        | (ret, s) =>
          if ret ≠ 0 then (ret, s)
          else
            let m := kernovaPrepareGuestPage s.svm s.mem
            let m := kernovaPrepareVmcb s.svm m
            (0, { s with mem := m, svm := { s.svm with vmCreated := true } })

/-- A `VMRUN` that was executed: its operand, the processor as it found it, and
the host save area that the driver believes in. -/
structure Vmrun where
  rax : Word
  processor : Processor
  hostSavePa : Word
deriving DecidableEq, Repr

/-- SVM was on. Otherwise the `VMRUN` was #UD, and the call did not come back. -/
def Vmrun.Enabled (v : Vmrun) : Prop := v.processor.efer &&& kernovaEferSvme ≠ 0

instance (v : Vmrun) : Decidable v.Enabled := inferInstanceAs (Decidable (_ ≠ _))

/-- What `kernova_amd_svm_run` leaves: its result, the request, and the `VMRUN`
if it came to that. -/
structure RunResult (Cpu : Type) where
  ret : Int
  request : RunRequest
  vmrun : Option Vmrun
  kernel : Kernel Cpu

section

variable [DecidableEq Cpu]

/-- `kernova_amd_svm_init` -/
def kernovaAmdSvmInit (s : Kernel Cpu) : Int × Kernel Cpu :=
  if s.caps.svmSupported = false then (-ENODEV, s)
  else if e.vmCr &&& kernovaVmCrSvmdis ≠ 0 then (-EOPNOTSUPP, s)
  else if s.svm.initialized = true then (0, s)
  else
    match kernovaAllocPage virtToPhys e s with
    | (none, s) => (-ENOMEM, s)
    | (some (page, pa), s) =>
      let svm := { s.svm with
        hostSaveArea := page
        hostSavePa := pa
        originalEfer := (s.processors e.cpu).efer
        eferSaved := true
        originalVmHsavePa := (s.processors e.cpu).vmHsavePa
        hsaveSaved := true }
      let s := s.writeEfer e.cpu (svm.originalEfer ||| kernovaEferSvme)
      let s := s.writeVmHsavePa e.cpu svm.hostSavePa
      (0, { s with svm := { svm with initialized := true } })

/-- `kernova_amd_svm_run`. On a processor with SVME clear a launch ends in #UD with
the driver's mutex held, and the call does not return; only the `VMRUN` in the result
says so. -/
def kernovaAmdSvmRun (s : Kernel Cpu) (request : RunRequest) : RunResult Cpu :=
  let request := { request with
    status := 0, runtimeState := RuntimeState.uninitialized.code
    exitCode := 0, exitInfo1 := 0, exitInfo2 := 0 }
  if s.svm.initialized = false ∨ s.svm.vmCreated = false then
    ⟨-EINVAL, { request with
      status := BitVec.ofInt 32 (-EINVAL), runtimeState := RuntimeState.error.code }, none, s⟩
  else if e.allowAtRun = false ∨ request.flags &&& kernovaRunAllowPrivileged = 0 then
    ⟨-EPERM, { request with
      status := BitVec.ofInt 32 (-EPERM), runtimeState := RuntimeState.launchBlocked.code },
      none, s⟩
  else
    let irqFlags := (s.processors e.cpu).interrupts
    let s := s.setInterrupts e.cpu false
    -- no STGI follows: the flag is as #VMEXIT has left it
    let executed := ⟨s.svm.vmcbPa, s.processors e.cpu, s.svm.hostSavePa⟩
    let s := vmrun e s s.svm.vmcbPa
    let s := s.setInterrupts e.cpu irqFlags
    let svm := { s.svm with
      lastExitCode := s.mem.read64 (s.svm.vmcb + vmcbControlExitCode)
      lastExitInfo1 := s.mem.read64 (s.svm.vmcb + vmcbControlExitInfo1)
      lastExitInfo2 := s.mem.read64 (s.svm.vmcb + vmcbControlExitInfo2) }
    ⟨0, { request with
      runtimeState := RuntimeState.vmexitReceived.code, exitCode := svm.lastExitCode
      exitInfo1 := svm.lastExitInfo1, exitInfo2 := svm.lastExitInfo2 },
      some executed, { s with svm := svm }⟩

/-- `kernova_amd_svm_destroy` -/
def kernovaAmdSvmDestroy (s : Kernel Cpu) : Kernel Cpu :=
  let s := if s.svm.hsaveSaved then s.writeVmHsavePa e.cpu s.svm.originalVmHsavePa else s
  let s := if s.svm.eferSaved then s.writeEfer e.cpu s.svm.originalEfer else s
  let s := (kernovaFreePage s.svm.guestPage s).2
  let s := (kernovaFreePage s.svm.vmcb s).2
  let s := (kernovaFreePage s.svm.hostSaveArea s).2
  { s with svm := .zero }

end

end

end Kernova.Driver
