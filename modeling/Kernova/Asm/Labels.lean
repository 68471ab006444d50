import Kernova.X86.Machine

/-!
# Labels and data layout of the assembly sources

One enumeration of labels for each assembly file. A local label carries the
name of its routine: `simd_pack_data.use_avx2` is `simdPackDataUseAvx2`.

`Layout` says where the linker put the code and the `.bss` and `.rodata`
sections; the offsets inside a section are those of the source.
-/

namespace Kernova

open X86

/-- `marshall/simd_packer.asm` -/
inductive SimdLabel where
  | simdPackData | simdPackDataUseAvx2 | simdPackDataTryAvx512 | simdPackDataInvalidParam
  | simdPackDataZeroSize | simdPackDataPackDone | simdPackDataPackExit
  | simdPack256bit | simdPack256bitPackLoop | simdPack256bitPackRemaining
  | simdPack256bitUseByteCopy | simdPack256bitUseXmm | simdPack256bitPackComplete
  | simdPack512bit | simdPack512bitPackLoop | simdPack512bitPackRemaining
  | simdPack512bitPack512Done
  | simdUnpackData | simdUnpackDataUnpackLoop | simdUnpackDataUnpackRemaining
  | simdUnpackDataUnpackComplete | simdUnpackDataInvalidParam | simdUnpackDataZeroSize
  | simdUnpackDataUnpackDone
  | simdSecureMemcpy | simdSecureMemcpyAlignedCopy | simdSecureMemcpyMemcpyLoop
  | simdSecureMemcpyUnalignedCopy | simdSecureMemcpyUnalignedLoop
  | simdSecureMemcpyMemcpyRemaining | simdSecureMemcpyMemcpyDone
  | simdZeroMemory | simdZeroMemoryZeroLoop | simdZeroMemoryZeroRemaining
  | simdZeroMemoryZeroComplete | simdZeroMemoryZeroDone
  | simdHashBlocks | simdHashBlocksHashLoop | simdHashBlocksHashFinalize
  | simdHashBlocksInvalidData | simdHashBlocksInvalidParam | simdHashBlocksHashZero
  | simdHashBlocksFmix64 | simdHashBlocksHashDone
  | checkAvx512Support | checkAvx512SupportSupported | checkAvx512SupportDone
deriving DecidableEq, Repr

/-- `monitor/trace_engine.asm` -/
inductive TraceLabel where
  | traceInit | traceInitDone
  | traceLogEvent | traceLogEventNotCritical | traceLogEventBufferFull | traceLogEventDone
  | traceCheckIntegrity | traceCheckIntegrityIdtCompromised
  | traceCheckIntegrityGdtCompromised | traceCheckIntegritySyscallCompromised
  | traceCheckIntegrityDone
  | checkRegionIntegrity | checkRegionIntegrityFindLoop | checkRegionIntegrityNotFound
  | checkRegionIntegrityFound | checkRegionIntegrityModified | checkRegionIntegrityDone
  | traceSetWatchpoint | traceSetWatchpointSizeOk | traceSetWatchpointFindFree
  | traceSetWatchpointNoFree | traceSetWatchpointFoundFree | traceSetWatchpointDone
  | traceGetStatistics
  | computeBaselineHashes
  | compareMemory | compareMemoryCompareLoop | compareMemoryDone
deriving DecidableEq, Repr

/-- `virtualization/intel_vmx/core/vmx_init.asm` -/
inductive VmxLabel where
  | vmxInit | vmxInitVmxonFailed | vmxInitVmcsSetupFailed | vmxInitAllocFailed
  | vmxInitInitFailed | vmxInitInitDone
  | enableCr4Vmx | enableCr4VmxSuccess | enableCr4VmxDone
  | allocVmxRegion
  | initVmxRegion | initVmxRegionDone
  | doVmxon | doVmxonVerificationFailed | doVmxonInvalidAlignment | doVmxonDone
  | doVmxoff
  | vmxon | vmxoff | vmxLaunch | vmxResume
deriving DecidableEq, Repr

/-- `virtualization/intel_vmx/core/vmcs_config.asm` -/
inductive VmcsLabel where
  | vmcsSetup | vmcsSetupConfigFailed | vmcsSetupLoadFailed | vmcsSetupClearFailed
  | vmcsSetupAllocFailed | vmcsSetupSetupDone
  | allocVmcsRegion
  | doVmclear | doVmclearClearFailed | doVmclearDone
  | doVmptrld | doVmptrldLoadFailed | doVmptrldDone
  | configureVmcsControl | configureVmcsControlDone
  | configureVmcsGuest | configureVmcsGuestDone
  | configureVmcsHost | configureVmcsHostDone
  | vmcsWrite | vmcsWriteWriteSuccess | vmcsRead
  | vmcsClear | vmcsLoad | vmcsLaunchState
  | guestEntryPoint
deriving DecidableEq, Repr

/-- `virtualization/intel_vmx/monitor/intercept.asm` -/
inductive InterceptLabel where
  | vmexitHandler
  | vmexitDispatch | vmexitDispatchHandleCrAccess | vmexitDispatchHandleMsrWrite
  | vmexitDispatchHandleCpuid | vmexitDispatchHandleIo | vmexitDispatchHandleVmcall
  | vmexitDispatchHandleHlt | vmexitDispatchExitDone
  | interceptCrAccess | interceptCrAccessCheckCr0 | interceptCrAccessCheckCr4
  | interceptCrAccessAllowAccess | interceptCrAccessDone
  | interceptMsrWrite | interceptMsrWriteCheckLstarHook | interceptMsrWriteCheckStarHook
  | interceptMsrWriteCheckSfmaskHook | interceptMsrWriteAllowMsr | interceptMsrWriteDone
  | interceptCpuid | interceptCpuidNotHypervisorCheck | interceptCpuidDone
  | interceptIoInstruction
  | vmexitError | vmexitErrorErrorHalt
  | vmcsRead64 | vmcsWrite64 | vmcsRead32
deriving DecidableEq, Repr

/-- Every label of the linked program. -/
inductive Label where
  | simd (l : SimdLabel)
  | trace (l : TraceLabel)
  | vmx (l : VmxLabel)
  | vmcs (l : VmcsLabel)
  | intercept (l : InterceptLabel)
deriving DecidableEq, Repr

instance : Coe SimdLabel Label := ⟨.simd⟩
instance : Coe TraceLabel Label := ⟨.trace⟩
instance : Coe VmxLabel Label := ⟨.vmx⟩
instance : Coe VmcsLabel Label := ⟨.vmcs⟩
instance : Coe InterceptLabel Label := ⟨.intercept⟩

/-! ## Sections -/

/-- The linker's choice of addresses. -/
structure Layout where
  /-- The instruction at a position of the code. -/
  code : Pc Label → Word
  /-- The `.bss` of `trace_engine.asm`. -/
  traceBss : Word
  /-- The `.bss` of `vmx_init.asm`. -/
  vmxBss : Word
  /-- The `.bss` of `vmcs_config.asm`. -/
  vmcsBss : Word
  /-- The `.rodata` of `intercept.asm`. -/
  interceptRodata : Word

namespace Layout

variable (l : Layout)

/-! ### `trace_engine.asm` -/

def traceBuffer : Word := l.traceBss
def traceStats : Word := l.traceBss + 32784
def integrityBaseline : Word := l.traceBss + 32816
def watchpoints : Word := l.traceBss + 33096
def currentHashBuffer : Word := l.traceBss + 33192

def writeIndex : Word := l.traceBuffer + 32776
def eventCount : Word := l.traceStats
def criticalEvents : Word := l.traceStats + 8
def integrityChecks : Word := l.traceStats + 16
def integrityFailures : Word := l.traceStats + 24

/-- The size of the trace engine's storage. -/
abbrev traceSize : Nat := 33224

/-! ### `vmx_init.asm` and `vmcs_config.asm` -/

def vmxonRegion : Word := l.vmxBss
def vmxonRegionPtr : Word := l.vmxBss + 4096
def hostStackPtr : Word := l.vmxBss + 4104

def vmcsRegion : Word := l.vmcsBss
def vmcsRegionPtr : Word := l.vmcsBss + 4096
def vmcsLaunchStateValue : Word := l.vmcsBss + 4104
def hostStackForExit : Word := l.vmcsBss + 4108
def guestStackBottom : Word := l.vmcsBss + 4128
def guestStackTop : Word := l.vmcsBss + 20512

/-! ### `intercept.asm` -/

def eventCr0Write : Word := l.interceptRodata
def eventCr4Write : Word := l.interceptRodata + 19
def eventLstarWrite : Word := l.interceptRodata + 38
def eventStarWrite : Word := l.interceptRodata + 78
def eventSfmaskWrite : Word := l.interceptRodata + 94

end Layout

end Kernova
