import Kernova.Driver.Svm
import Kernova.Lts.Run

/-!
# `kernova_main.c`

The driver's entry points: its start, `kernova_ioctl`, and its exit. A run of
the driver is a sequence of calls, each under the driver's lock and so from
beginning to end without another.
-/

namespace Kernova.Driver

open X86

/-! ## Capabilities -/

/-- The bytes of a dword in memory. -/
def dwordBytes (v : BitVec 32) : List Byte :=
  [v.setWidth 8, (v >>> 8).setWidth 8, (v >>> 16).setWidth 8, (v >>> 24).setWidth 8]

section

variable {Cpu : Type} (virtToPhys : Word → Word) (e : CallEnv Cpu)

/-- The two features that are looked for. -/
def detectFeatures (caps : Caps) : Caps :=
  let caps : Caps := if e.hasSvm then
      { caps with backendFlags := caps.backendFlags ||| kernovaBackendAmdSvm, svmSupported := true }
    else caps
  if e.hasVmx then
    { caps with backendFlags := caps.backendFlags ||| kernovaBackendIntelVmx, vmxSupported := true }
  else caps

/-- The SVM leaf of `CPUID`, if there is one. -/
def detectSvmLeaf (caps : Caps) : Caps :=
  if (e.cpuid 0x80000000 0).eax.toNat ≥ 0x8000000A ∧ caps.svmSupported then
    let svm := e.cpuid 0x8000000A 0
    { caps with svmRevision := svm.eax &&& 0xff, svmAsidCount := svm.ebx }
  else caps

/-- `kernova_detect_cpu` -/
def kernovaDetectCpu : Caps :=
  let vendor := e.cpuid 0 0
  let caps : Caps := { Caps.zero with
    abiVersion := kernovaAbiVersion
    driverLoaded := true
    runtimeState := .capsReady
    driverName := kernovaDriverName
    cpuVendor := dwordBytes vendor.ebx ++ dwordBytes vendor.edx ++ dwordBytes vendor.ecx ++ [0] }
  let caps := detectSvmLeaf e (detectFeatures e caps)
  if caps.backendFlags = 0 then { caps with backendFlags := kernovaBackendUserspaceFallback }
  else caps

/-- `kernova_intel_vmx_fill_caps` -/
def kernovaIntelVmxFillCaps (caps : Caps) : Caps :=
  if caps.vmxSupported = false then caps
  else { caps with backendFlags := caps.backendFlags ||| kernovaBackendIntelVmx }

/-- `kernova_refresh_caps_locked`, for the value of `allow_vmrun` that it reads -/
def kernovaRefreshCapsLocked (allowVmrun : Bool) (s : Kernel Cpu) : Kernel Cpu :=
  let caps := kernovaAmdSvmFillCaps allowVmrun s.svm (kernovaDetectCpu e)
  { s with caps := kernovaIntelVmxFillCaps caps }

/-! ## Calls -/

/-- What `arg` points to: the request that `copy_from_user` finds there, if it
does not fail, and whether `copy_to_user` succeeds. -/
structure UserArg where
  init : Option InitRequest
  createVm : Option CreateVmRequest
  run : Option RunRequest
  writable : Bool

/-- What was copied to the user. -/
inductive Copied where
  | caps (caps : Caps)
  | request (request : RunRequest)
deriving DecidableEq, Repr

/-- What the caller and the processor see of a call. -/
structure Answer where
  ret : Int
  copied : Option Copied
  vmrun : Option Vmrun
deriving DecidableEq, Repr

variable [DecidableEq Cpu]

/-- `case KERNOVA_IOCTL_INIT_BACKEND` -/
def ioctlInitBackend (arg : UserArg) (s : Kernel Cpu) : Answer × Kernel Cpu :=
  match arg.init with
  | none => (⟨-EFAULT, none, none⟩, s)
  | some request =>
    let (ret, s) :=
      if request.backendFlags &&& kernovaBackendAmdSvm ≠ 0 then kernovaAmdSvmInit virtToPhys e s
      else (-ENODEV, s)
    (⟨ret, none, none⟩, kernovaRefreshCapsLocked e e.allowAtExit s)

/-- `case KERNOVA_IOCTL_CREATE_VM` -/
def ioctlCreateVm (arg : UserArg) (s : Kernel Cpu) : Answer × Kernel Cpu :=
  match arg.createVm with
  | none => (⟨-EFAULT, none, none⟩, s)
  | some request =>
    let (ret, s) :=
      if request.backendFlags &&& kernovaBackendAmdSvm ≠ 0 then
        kernovaAmdSvmCreateVm virtToPhys e s request.guestSize
      else (-ENODEV, s)
    (⟨ret, none, none⟩, kernovaRefreshCapsLocked e e.allowAtExit s)

/-- `case KERNOVA_IOCTL_RUN_VM` -/
def ioctlRunVm (arg : UserArg) (s : Kernel Cpu) : Answer × Kernel Cpu :=
  match arg.run with
  | none => (⟨-EFAULT, none, none⟩, s)
  | some request =>
    let r := kernovaAmdSvmRun e s request
    (⟨if arg.writable then r.ret else -EFAULT,
      if arg.writable then some (.request r.request) else none, r.vmrun⟩,
      kernovaRefreshCapsLocked e e.allowAtExit r.kernel)

/-- `kernova_ioctl` -/
def kernovaIoctl (cmd : BitVec 32) (arg : UserArg) (s : Kernel Cpu) : Answer × Kernel Cpu :=
  match Command.decode cmd with
  | none => (⟨-ENOTTY, none, none⟩, s)
  | some command =>
    let s := kernovaRefreshCapsLocked e e.allowAtEntry s
    match command with
    | .queryCaps =>
      if arg.writable then (⟨0, some (.caps s.caps), none⟩, s) else (⟨-EFAULT, none, none⟩, s)
    | .initBackend => ioctlInitBackend virtToPhys e arg s
    | .createVm => ioctlCreateVm virtToPhys e arg s
    | .runVm => ioctlRunVm e arg s
    | .destroyVm =>
      (⟨0, none, none⟩,
        kernovaRefreshCapsLocked e e.allowAtExit (kernovaAmdSvmDestroy e s))
    | .unknown => (⟨-ENOTTY, none, none⟩, s)

omit [DecidableEq Cpu] in
/-- `kernova_module_init`, on a machine in any state; the driver's own state is
zero before. -/
def kernovaModuleInit (registered : Bool) (processors : Cpu → Processor) (m : Mem) : Kernel Cpu :=
  let s : Kernel Cpu := ⟨.zero, .zero, processors, m, [], false⟩
  { kernovaRefreshCapsLocked e e.allowAtEntry s with loaded := registered }

/-- `kernova_module_exit` -/
def kernovaModuleExit (s : Kernel Cpu) : Kernel Cpu :=
  { kernovaAmdSvmDestroy e s with loaded := false }

end

/-! ## Runs -/

/-- What a call asks for. -/
inductive Op where
  | ioctl (cmd : BitVec 32) (arg : UserArg)
  | moduleExit

/-- A call with its surroundings and its answer. -/
structure Event (Cpu : Type) where
  env : CallEnv Cpu
  op : Op
  answer : Answer

section

variable {Cpu : Type} [DecidableEq Cpu] (virtToPhys : Word → Word)

def serve (e : CallEnv Cpu) (op : Op) (s : Kernel Cpu) : Answer × Kernel Cpu :=
  match op with
  | .ioctl cmd arg => kernovaIoctl virtToPhys e cmd arg s
  | .moduleExit => (⟨0, none, none⟩, kernovaModuleExit e s)

/-- A call of the loaded driver. -/
structure Step (s : Kernel Cpu) (event : Event Cpu) (t : Kernel Cpu) : Prop where
  loaded : s.loaded = true
  serve : serve virtToPhys event.env event.op s = (event.answer, t)

/-- The driver after its start. -/
def Booted (s : Kernel Cpu) : Prop :=
  ∃ e registered processors m, s = kernovaModuleInit e registered processors m

/-- The states after any sequence of calls. -/
def Reachable (s : Kernel Cpu) : Prop :=
  ∃ s₀ events, Booted s₀ ∧ Lts.Run (Step virtToPhys) s₀ events s

end

end Kernova.Driver
