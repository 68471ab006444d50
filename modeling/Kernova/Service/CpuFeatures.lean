import Kernova.Driver.Ioctl

/-!
# `cpu_features.cpp` and `amd_svm.cpp`

What the service learns from `CPUID`, and the SVM context it prepares from it in
user space. No `VMRUN` is ever executed there.
-/

namespace Kernova.Service

open X86
open Driver (dwordBytes)

/-! ## Detection -/

inductive CpuVendor where
  | intel | amd | unknown
deriving DecidableEq, Repr

/-- `struct CpuFeatures` -/
structure CpuFeatures where
  vendor : CpuVendor
  vendorId : List Byte
  vmx : Bool
  svm : Bool
  avx2 : Bool
  avx512 : Bool
  svmRevision : BitVec 32
  svmAsidCount : BitVec 32
  svmNestedPaging : Bool
  svmLbrVirtualization : Bool
  svmLock : Bool
  svmNripSave : Bool
  svmTscRateMsr : Bool
  svmVmcbClean : Bool
  svmFlushByAsid : Bool
  svmDecodeAssists : Bool
  svmPauseFilter : Bool
  svmPauseFilterThreshold : Bool
  svmAvic : Bool
  svmVmsaveVirtualization : Bool
  svmVgif : Bool
deriving DecidableEq, Repr

/-- `CpuFeatures features{}` -/
def CpuFeatures.zero : CpuFeatures :=
  ⟨.unknown, [], false, false, false, false, 0, 0, false, false, false, false, false, false, false,
    false, false, false, false, false, false⟩

/-- The characters of a C string. -/
def chars (s : String) : List Byte := s.toList.map fun c => BitVec.ofNat 8 c.toNat

/-- The vendor whose name the twelve characters spell. -/
def vendorOf (id : List Byte) : CpuVendor :=
  if id = chars "GenuineIntel" then .intel
  else if id = chars "AuthenticAMD" then .amd
  else .unknown

section

variable (cpuid : BitVec 32 → BitVec 32 → CpuidResult)

/-- The SVM leaf of `CPUID`, if there is one. -/
def detectSvmFeatures (features : CpuFeatures) : CpuFeatures :=
  if features.svm ∧ 0x8000000A#32 ≤ (cpuid 0x80000000 0).eax then
    let r := cpuid 0x8000000A 0
    { features with
      svmRevision := r.eax &&& 0xFF
      svmAsidCount := r.ebx
      svmNestedPaging := r.edx.getLsbD 0
      svmLbrVirtualization := r.edx.getLsbD 1
      svmLock := r.edx.getLsbD 2
      svmNripSave := r.edx.getLsbD 3
      svmTscRateMsr := r.edx.getLsbD 4
      svmVmcbClean := r.edx.getLsbD 5
      svmFlushByAsid := r.edx.getLsbD 6
      svmDecodeAssists := r.edx.getLsbD 7
      svmPauseFilter := r.edx.getLsbD 10
      svmPauseFilterThreshold := r.edx.getLsbD 12
      svmAvic := r.edx.getLsbD 13
      svmVmsaveVirtualization := r.edx.getLsbD 15
      svmVgif := r.edx.getLsbD 16 }
  else features

/-- `detect_cpu_features` -/
def detectCpuFeatures : CpuFeatures :=
  let r := cpuid 0 0
  let id := dwordBytes r.ebx ++ dwordBytes r.edx ++ dwordBytes r.ecx
  let leaf7 := cpuid 7 0
  let features : CpuFeatures := { CpuFeatures.zero with
    vendor := vendorOf id
    vendorId := id ++ [0]
    vmx := (cpuid 1 0).ecx.getLsbD 5
    avx2 := leaf7.ebx.getLsbD 5
    avx512 := leaf7.ebx.getLsbD 16
    svm := decide (0x80000001#32 ≤ (cpuid 0x80000000 0).eax) && (cpuid 0x80000001 0).ecx.getLsbD 2 }
  detectSvmFeatures cpuid features

end

/-! ## The SVM context -/

/-- `enum class SvmRuntimeState` -/
inductive SvmRuntimeState where
  | unsupported | supported | prepared | launchBlocked | launchAttempted
deriving DecidableEq, Repr

/-- `struct SvmCapabilities` -/
structure SvmCapabilities where
  supported : Bool
  revision : BitVec 32
  asidCount : BitVec 32
  nestedPaging : Bool
  lbrVirtualization : Bool
  svmLock : Bool
  nripSave : Bool
  tscRateMsr : Bool
  vmcbClean : Bool
  flushByAsid : Bool
  decodeAssists : Bool
  pauseFilter : Bool
  pauseFilterThreshold : Bool
  avic : Bool
  vmsaveVirtualization : Bool
  vgif : Bool
deriving DecidableEq, Repr

/-- `has_minimum_runtime_support` -/
def SvmCapabilities.hasMinimumRuntimeSupport (c : SvmCapabilities) : Bool :=
  c.supported && c.revision != 0 && c.asidCount != 0

/-- `capabilities_from_cpu_features` -/
def capabilitiesFromCpuFeatures (f : CpuFeatures) : SvmCapabilities where
  supported := f.vendor == .amd && f.svm
  revision := f.svmRevision
  asidCount := f.svmAsidCount
  nestedPaging := f.svmNestedPaging
  lbrVirtualization := f.svmLbrVirtualization
  svmLock := f.svmLock
  nripSave := f.svmNripSave
  tscRateMsr := f.svmTscRateMsr
  vmcbClean := f.svmVmcbClean
  flushByAsid := f.svmFlushByAsid
  decodeAssists := f.svmDecodeAssists
  pauseFilter := f.svmPauseFilter
  pauseFilterThreshold := f.svmPauseFilterThreshold
  avic := f.svmAvic
  vmsaveVirtualization := f.svmVmsaveVirtualization
  vgif := f.svmVgif

/-- `capability_summary` -/
def capabilitySummary (c : SvmCapabilities) : String :=
  if c.supported = false then "AMD SVM is not advertised by CPUID"
  else if c.hasMinimumRuntimeSupport = false then
    "AMD SVM is present, but minimum runtime metadata is incomplete"
  else if c.nestedPaging ∧ c.nripSave then
    "AMD SVM is present with nested paging and NRIP save"
  else "AMD SVM is present with baseline VMRUN support"

/-- `runtime_state_name` -/
def runtimeStateName : SvmRuntimeState → String
  | .unsupported => "unsupported"
  | .supported => "supported"
  | .prepared => "prepared"
  | .launchBlocked => "launch-blocked"
  | .launchAttempted => "launch-attempted"

/-- `struct Vmcb`: the three areas of the page, by offset. -/
structure Vmcb where
  controlArea : Nat → Byte
  saveStateArea : Nat → Byte
  reserved : Nat → Byte

/-- `Vmcb{}` -/
def Vmcb.zero : Vmcb := ⟨fun _ => 0, fun _ => 0, fun _ => 0⟩

/-- `write16` of `prepare_minimal_vmcb` -/
def Vmcb.write16 (v : Vmcb) (offset : Nat) (value : BitVec 16) : Vmcb :=
  { v with controlArea := fun i =>
      if i = offset then value.setWidth 8
      else if i = offset + 1 then (value >>> 8).setWidth 8
      else v.controlArea i }

/-- `write32` of `prepare_minimal_vmcb` -/
def Vmcb.write32 (v : Vmcb) (offset : Nat) (value : BitVec 32) : Vmcb :=
  { v with controlArea := fun i =>
      if i = offset then value.setWidth 8
      else if i = offset + 1 then (value >>> 8).setWidth 8
      else if i = offset + 2 then (value >>> 16).setWidth 8
      else if i = offset + 3 then (value >>> 24).setWidth 8
      else v.controlArea i }

/-- `initialize_vmcb` -/
def initializeVmcb (_v : Vmcb) : Vmcb := Vmcb.zero

/-- `initialize_host_save_area` -/
def initializeHostSaveArea (_area : Nat → Byte) : Nat → Byte := fun _ => 0

/-- `prepare_minimal_vmcb` -/
def prepareMinimalVmcb (v : Vmcb) (c : SvmCapabilities) : Vmcb :=
  let v := initializeVmcb v
  let v := v.write16 0x000 0xFFFF
  let v := v.write16 0x002 0xFFFF
  let v := v.write32 0x00C 1
  let v := if c.nestedPaging then v.write32 0x090 1 else v
  if c.vmcbClean then v.write32 0x0C0 0 else v

/-- `struct SvmRuntimeContext` -/
structure SvmRuntimeContext where
  vmcb : Vmcb
  hostSaveArea : Nat → Byte
  capabilities : SvmCapabilities
  state : SvmRuntimeState
  lastError : String

/-- `SvmRuntimeContext{}` -/
def SvmRuntimeContext.zero : SvmRuntimeContext where
  vmcb := .zero
  hostSaveArea _ := 0
  capabilities := capabilitiesFromCpuFeatures .zero
  state := .unsupported
  lastError := "not initialized"

/-- `context = SvmRuntimeContext{}` -/
def SvmRuntimeContext.reset (_context : SvmRuntimeContext) : SvmRuntimeContext := .zero

/-- `prepare_runtime_context` -/
def prepareRuntimeContext (context : SvmRuntimeContext) (features : CpuFeatures) :
    Int × SvmRuntimeContext :=
  let context := context.reset
  let context := { context with capabilities := capabilitiesFromCpuFeatures features }
  if context.capabilities.hasMinimumRuntimeSupport = false then
    (-1, { context with
      state := .unsupported
      lastError := capabilitySummary context.capabilities })
  else
    (0, { context with
      hostSaveArea := initializeHostSaveArea context.hostSaveArea
      vmcb := prepareMinimalVmcb context.vmcb context.capabilities
      state := .prepared
      lastError := "AMD SVM runtime context prepared; VMRUN requires privileged execution" })

/-- `attempt_vmrun` -/
def attemptVmrun (context : SvmRuntimeContext) : Int × SvmRuntimeContext :=
  if context.state ≠ .prepared then
    (-1, { context with lastError := "AMD SVM context is not prepared" })
  else
    (-2, { context with
      state := .launchBlocked
      lastError :=
        "VMRUN is blocked in userspace builds; use the Linux kernel driver for privileged execution" })

end Kernova.Service
