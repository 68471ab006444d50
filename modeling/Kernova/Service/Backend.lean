import Kernova.Service.CpuFeatures

/-!
# `hypervisor_backend.cpp`

The four backends and the choice between them. What lies outside the service
answers each call of a backend: the kernel driver through `open` and the
ioctls, and the VMX routines the program is linked with.
-/

namespace Kernova.Service

open X86
open Driver (Caps RunRequest kernovaBackendAmdSvm kernovaBackendIntelVmx kernovaRunAllowPrivileged)

/-! ## The environment -/

/-- The two environment variables, as `std::getenv` finds them. -/
structure EnvVars where
  strictVmx : Option String
  enableHardwareBackend : Option String
deriving DecidableEq, Repr

/-- `config::strict_vmx_required` -/
def EnvVars.strictVmxRequired (v : EnvVars) : Bool := v.strictVmx == some "1"

/-- `config::hardware_backend_enabled` of `main.cpp` -/
def EnvVars.configHardwareBackendEnabled (v : EnvVars) : Bool := v.enableHardwareBackend == some "1"

/-- `hardware_backend_enabled` of `hypervisor_backend.cpp` -/
def EnvVars.hardwareBackendEnabled (v : EnvVars) : Bool :=
  v.enableHardwareBackend == some "1" || v.strictVmx == some "1"

/-- What is answered during one call of a backend, which asks for each at most
once: the descriptor from `open`, the capabilities copied by `QUERY_CAPS` (none
if it fails), the results of the other ioctls, with the request `RUN_VM` copies
back, and the results of the VMX routines. -/
structure HostAnswers where
  openDevice : Int
  queryCaps : Option Caps
  initBackend : Int
  createVm : Int
  runVm : Int × RunRequest
  vmxInit : Word
  vmcsSetup : Word
  vmxLaunch : Word
deriving DecidableEq, Repr

/-- What a backend asks for. -/
inductive HostRequest where
  | openDevice
  | queryCaps (fd : Int)
  | initBackend (fd : Int) (backendFlags : BitVec 32)
  | createVm (fd : Int) (backendFlags guestSize : BitVec 32)
  | runVm (fd : Int) (flags : BitVec 32)
  | destroyVm (fd : Int)
  | close (fd : Int)
  | vmxInit | vmcsSetup | vmxLaunch | vmxoff
deriving DecidableEq, Repr

/-! ## The backends -/

inductive BackendKind where
  | userspacePoC | kernelDriver | intelVmx | amdSvm
deriving DecidableEq, Repr

/-- `struct BackendStatus` -/
structure BackendStatus where
  kind : BackendKind
  cpu : CpuFeatures
  hardwareSupported : Bool
  hardwareValidated : Bool
  kernelDriverAvailable : Bool
  mode : String
  reason : String
deriving DecidableEq, Repr

structure KernelDriverBackend where
  fd : Int
  initialized : Bool
  configured : Bool
deriving DecidableEq, Repr

structure IntelVmxBackend where
  initialized : Bool
  configured : Bool
deriving DecidableEq, Repr

/-- The backend objects, and what they have asked for, latest first. -/
structure Backends where
  kernel : KernelDriverBackend
  intel : IntelVmxBackend
  amd : SvmRuntimeContext
  requests : List HostRequest

/-- The objects as they are constructed. -/
def Backends.start : Backends := ⟨⟨-1, false, false⟩, ⟨false, false⟩, .zero, []⟩

namespace Backends

def ask (b : Backends) (q : HostRequest) : Backends := { b with requests := q :: b.requests }

section

variable (vars : EnvVars) (cpu : CpuFeatures) (a : HostAnswers) (b : Backends)

/-! ### `KernelDriverBackend` -/

/-- `available` -/
def kernelAvailable : Bool × Backends :=
  if 0 ≤ b.kernel.fd then (true, b)
  else (decide (0 ≤ a.openDevice), { b.ask .openDevice with kernel.fd := a.openDevice })

/-- `ioctl(fd_, KERNOVA_IOCTL_QUERY_CAPS, &caps)` -/
def kernelQueryCaps : Option Caps × Backends := (a.queryCaps, b.ask (.queryCaps b.kernel.fd))

def kernelStatus : BackendStatus × Backends :=
  let status : BackendStatus := {
    kind := .kernelDriver
    cpu := cpu
    hardwareSupported := false
    hardwareValidated := false
    kernelDriverAvailable := decide (0 ≤ b.kernel.fd)
    mode := "kernel-driver-unavailable"
    reason := "Kernova kernel driver is not loaded" }
  if b.kernel.fd < 0 then (status, b)
  else
    match b.kernelQueryCaps a with
    | (none, b) =>
      ({ status with
        mode := "kernel-driver-error"
        reason := "Kernova kernel driver did not respond to QUERY_CAPS" }, b)
    | (some caps, b) =>
      ({ status with
        kernelDriverAvailable := caps.driverLoaded
        hardwareSupported := caps.svmSupported || caps.vmxSupported
        hardwareValidated := caps.lastVmexitValid
        mode :=
          if caps.lastVmexitValid then "kernel-driver-vmexit"
          else if caps.vmCreated then "kernel-driver-vm-created"
          else "kernel-driver-ready"
        reason := caps.driverName }, b)

def kernelInit : Int × Backends :=
  match b.kernelAvailable a with
  | (false, b) => (-1, b)
  | (true, b) =>
    match b.kernelQueryCaps a with
    | (none, b) => (-2, b)
    | (some caps, b) =>
      if caps.svmSupported = false ∧ caps.vmxSupported = false then (-3, b)
      else
        let flags := if caps.svmSupported then kernovaBackendAmdSvm else kernovaBackendIntelVmx
        let b := b.ask (.initBackend b.kernel.fd flags)
        if a.initBackend ≠ 0 then (-4, b) else (0, { b with kernel.initialized := true })

def kernelSetupGuest : Int × Backends :=
  if b.kernel.fd < 0 ∨ b.kernel.initialized = false then (-1, b)
  else
    match b.kernelQueryCaps a with
    | (none, b) => (-2, b)
    | (some caps, b) =>
      let flags := if caps.svmSupported then kernovaBackendAmdSvm else kernovaBackendIntelVmx
      let b := b.ask (.createVm b.kernel.fd flags 4096)
      if a.createVm ≠ 0 then (-3, b) else (0, { b with kernel.configured := true })

def kernelLaunch : Int × Backends :=
  if b.kernel.fd < 0 ∨ b.kernel.configured = false then (-1, b)
  else
    let flags := if vars.hardwareBackendEnabled then kernovaRunAllowPrivileged else 0
    let b := b.ask (.runVm b.kernel.fd flags)
    let (ret, request) := a.runVm
    if ret ≠ 0 then (if request.status ≠ 0 then request.status.toInt else -2, b) else (0, b)

def kernelShutdown : Backends :=
  let b := if b.kernel.fd < 0 then b
    else { (b.ask (.destroyVm b.kernel.fd)).ask (.close b.kernel.fd) with kernel.fd := -1 }
  { b with kernel.initialized := false, kernel.configured := false }

/-! ### `IntelVmxBackend` -/

def intelStatus : BackendStatus :=
  let supported := cpu.vendor == .intel && cpu.vmx
  let validated := b.intel.initialized && b.intel.configured
  { kind := .intelVmx
    cpu := cpu
    hardwareSupported := supported
    hardwareValidated := validated
    kernelDriverAvailable := false
    mode := if validated then "hardware-vmx" else "hardware-vmx-pending"
    reason :=
      if supported then "Intel VMX is advertised by CPUID"
      else "Intel VMX is not available on this CPU/runtime" }

def intelInit : Int × Backends :=
  if (b.intelStatus cpu).hardwareSupported = false then (-1, b)
  else if vars.hardwareBackendEnabled = false then (-3, b)
  else
    let b := b.ask .vmxInit
    if a.vmxInit ≠ 0 then (-2, b) else (0, { b with intel.initialized := true })

def intelSetupGuest : Int × Backends :=
  if b.intel.initialized = false then (-1, b)
  else
    let b := b.ask .vmcsSetup
    if a.vmcsSetup ≠ 0 then (-2, b) else (0, { b with intel.configured := true })

/-- The result is cut down to an `int`. -/
def intelLaunch : Int × Backends :=
  if b.intel.configured = false then (-1, b) else ((low32 a.vmxLaunch).toInt, b.ask .vmxLaunch)

def intelShutdown : Backends :=
  if b.intel.initialized then { b.ask .vmxoff with intel := ⟨false, false⟩ } else b

/-! ### `AmdSvmBackend` -/

def amdStatus : BackendStatus where
  kind := .amdSvm
  cpu := cpu
  hardwareSupported := (capabilitiesFromCpuFeatures cpu).hasMinimumRuntimeSupport
  hardwareValidated := false
  kernelDriverAvailable := false
  mode := runtimeStateName b.amd.state
  reason := b.amd.lastError

def amdInit : Int × Backends :=
  let (ret, context) := prepareRuntimeContext b.amd cpu
  (ret, { b with amd := context })

def amdSetupGuest : Int × Backends := (if b.amd.state ≠ .prepared then -1 else 0, b)

def amdLaunch : Int × Backends :=
  let (ret, context) := attemptVmrun b.amd
  (ret, { b with amd := context })

def amdShutdown : Backends := { b with amd := .zero }

/-! ### `UserspacePoCBackend` -/

def userspaceStatus : BackendStatus where
  kind := .userspacePoC
  cpu := cpu
  hardwareSupported := false
  hardwareValidated := false
  kernelDriverAvailable := false
  mode := "userspace-poc"
  reason := "hardware virtualization backend unavailable in this environment"

/-! ## Virtual calls -/

variable (kind : BackendKind)

def status : BackendStatus × Backends :=
  match kind with
  | .userspacePoC => (userspaceStatus cpu, b)
  | .kernelDriver => b.kernelStatus cpu a
  | .intelVmx => (b.intelStatus cpu, b)
  | .amdSvm => (b.amdStatus cpu, b)

def init : Int × Backends :=
  match kind with
  | .userspacePoC => (0, b)
  | .kernelDriver => b.kernelInit a
  | .intelVmx => b.intelInit vars cpu a
  | .amdSvm => b.amdInit cpu

def setupGuest : Int × Backends :=
  match kind with
  | .userspacePoC => (0, b)
  | .kernelDriver => b.kernelSetupGuest a
  | .intelVmx => b.intelSetupGuest a
  | .amdSvm => b.amdSetupGuest

def launch : Int × Backends :=
  match kind with
  | .userspacePoC => (0, b)
  | .kernelDriver => b.kernelLaunch vars a
  | .intelVmx => b.intelLaunch a
  | .amdSvm => b.amdLaunch

def shutdown : Backends :=
  match kind with
  | .userspacePoC => b
  | .kernelDriver => b.kernelShutdown
  | .intelVmx => b.intelShutdown
  | .amdSvm => b.amdShutdown

/-- `select_backend` -/
def selectBackend : BackendKind × Backends :=
  match b.kernelAvailable a with
  | (true, b) => (.kernelDriver, b)
  | (false, b) =>
    if cpu.vendor = .intel ∧ cpu.vmx then (.intelVmx, b)
    else if cpu.vendor = .amd ∧ cpu.svm then (.amdSvm, b)
    else (.userspacePoC, b)

end

end Backends

end Kernova.Service
