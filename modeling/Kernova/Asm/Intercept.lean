import Kernova.Asm.VmcsConfig

/-!
# `virtualization/intel_vmx/monitor/intercept.asm`

The VM-exit handler and its interceptors, instruction by instruction. The
three VMCS access helpers can be taken as written or by their header comments
(`RAX` = value of the field in `RDI`; field in `RDI` := value in `RSI`), so
that the code above them can be studied on its own.
-/

namespace Kernova

open X86 Reg Op

/-- How a helper's body is read. -/
inductive Reading where
  | asWritten | byComment
deriving DecidableEq, Repr

/-- The reading chosen for each VMCS access helper. -/
structure Helpers where
  read64 : Reading
  write64 : Reading
  read32 : Reading
deriving DecidableEq, Repr

/-- "Read 64-bit field", "Read 32-bit field": RDI = field encoding, RAX = value. -/
def readBody : Reading → List (Instr Label)
  | .asWritten => [vmread rdi rax, .ret]
  | .byComment => [fieldGet rax rdi, .ret]

/-- "Write 64-bit field": RDI = field encoding, RSI = value. -/
def writeBody : Reading → List (Instr Label)
  | .asWritten => [vmwrite rdi rsi, .ret]
  | .byComment => [fieldSet rdi rsi, .ret]

/-- Exit reasons of `vmx_defs.inc`. -/
def exitReasonCpuid : Word := 10
def exitReasonHlt : Word := 12
def exitReasonVmcall : Word := 18
def exitReasonCrAccess : Word := 28
def exitReasonIoInstr : Word := 30
def exitReasonMsrWrite : Word := 32

/-- MSR numbers the monitor watches. -/
def ia32Star : Word := 0xC0000081
def ia32Lstar : Word := 0xC0000082
def ia32SfMask : Word := 0xC0000084

/-- `intercept_cpuid` up to the test for leaf 1. -/
def readCpuidInputs : List (Instr Label) := [
  push rbp, mov rbp rsp, push rbx, push rcx, push rdx,
  mov rdi (.imm vmcsGuestRax), .call (.intercept .vmcsRead64), mov rbx rax,
  mov rdi (.imm vmcsGuestRcx), .call (.intercept .vmcsRead64), mov rcx rax,
  cmp rbx (.imm 1), .jcc .nz (.intercept .interceptCpuidNotHypervisorCheck)]

/-- The results of `CPUID`, stored in the fields taken for guest registers. -/
def storeCpuidResults : List (Instr Label) := [
  mov rdi (.imm vmcsGuestRax), mov rsi rax, .call (.intercept .vmcsWrite64),
  mov rdi (.imm vmcsGuestRbx), mov rsi rbx, .call (.intercept .vmcsWrite64),
  mov rdi (.imm vmcsGuestRcx), mov rsi rcx, .call (.intercept .vmcsWrite64),
  mov rdi (.imm vmcsGuestRdx), mov rsi rdx, .call (.intercept .vmcsWrite64)]

/-- `vmexit_handler`, first part: the guest's registers and segment selectors
go on the stack and the hypervisor's data segments are loaded. -/
def saveGuest : List (Instr Label) := [
  push rax, push rbx, push rcx, push rdx, push rsi, push rdi, push rbp, push r8,
  push r9, push r10, push r11, push r12, push r13, push r14, push r15,
  movFromSeg rax .ds, push rax, movFromSeg rax .es, push rax,
  movFromSeg rax .fs, push rax, movFromSeg rax .gs, push rax,
  movw rax 0x10, movToSeg .ds rax, movToSeg .es rax, movToSeg .fs rax, movToSeg .gs rax]

/-- Second part: read the exit information, dispatch, advance the guest RIP. -/
def readExit : List (Instr Label) := [
  mov rdi (.imm vmcsExitReason), .call (.intercept .vmcsRead64), mov r15 rax,
  mov rdi (.imm vmcsExitQualification), .call (.intercept .vmcsRead64), mov r14 rax,
  mov rdi (.imm vmcsGuestRip), .call (.intercept .vmcsRead64), mov r13 rax,
  mov rdi (.imm vmcsExitInstrLen), .call (.intercept .vmcsRead32), movl r12 rax,
  mov rdi r15, .call (.intercept .vmexitDispatch),
  mov rdi (.imm vmcsGuestRip), mov rsi r13, add rsi r12, .call (.intercept .vmcsWrite64)]

/-- Third part: restore the guest's registers and resume it. -/
def restoreGuest : List (Instr Label) := [
  pop rax, movToSeg .gs rax, pop rax, movToSeg .fs rax,
  pop rax, movToSeg .es rax, pop rax, movToSeg .ds rax,
  pop r15, pop r14, pop r13, pop r12, pop r11, pop r10, pop r9, pop r8,
  pop rbp, pop rdi, pop rsi, pop rdx, pop rcx, pop rbx, pop rax,
  .vmresume, .jmp (.intercept .vmexitError)]

def interceptText (l : Layout) (h : Helpers) : InterceptLabel → List (Instr Label)
  | .vmexitHandler => saveGuest ++ (readExit ++ restoreGuest)
  /- vmexit_dispatch: RDI = exit reason -/
  | .vmexitDispatch => [
      push rbp, mov rbp rsp,
      cmp rdi (.imm exitReasonCrAccess), .jcc .z (.intercept .vmexitDispatchHandleCrAccess),
      cmp rdi (.imm exitReasonMsrWrite), .jcc .z (.intercept .vmexitDispatchHandleMsrWrite),
      cmp rdi (.imm exitReasonCpuid), .jcc .z (.intercept .vmexitDispatchHandleCpuid),
      cmp rdi (.imm exitReasonIoInstr), .jcc .z (.intercept .vmexitDispatchHandleIo),
      cmp rdi (.imm exitReasonVmcall), .jcc .z (.intercept .vmexitDispatchHandleVmcall),
      cmp rdi (.imm exitReasonHlt), .jcc .z (.intercept .vmexitDispatchHandleHlt),
      .jmp (.intercept .vmexitDispatchExitDone)]
  | .vmexitDispatchHandleCrAccess => [
      .call (.intercept .interceptCrAccess), .jmp (.intercept .vmexitDispatchExitDone)]
  | .vmexitDispatchHandleMsrWrite => [
      .call (.intercept .interceptMsrWrite), .jmp (.intercept .vmexitDispatchExitDone)]
  | .vmexitDispatchHandleCpuid => [
      .call (.intercept .interceptCpuid), .jmp (.intercept .vmexitDispatchExitDone)]
  | .vmexitDispatchHandleIo => [
      .call (.intercept .interceptIoInstruction), .jmp (.intercept .vmexitDispatchExitDone)]
  | .vmexitDispatchHandleVmcall => [
      xorl rax rax, .jmp (.intercept .vmexitDispatchExitDone)]
  | .vmexitDispatchHandleHlt => [
      xorl rax rax, .jmp (.intercept .vmexitDispatchExitDone)]
  | .vmexitDispatchExitDone => [pop rbp, .ret]
  /- intercept_cr_access: R14 = exit qualification -/
  | .interceptCrAccess => [
      push rbp, mov rbp rsp, push rbx, push rdi,
      mov rax r14, mov rbx rax, and rbx (.imm 0xF),
      cmp rbx (.imm 0), .jcc .z (.intercept .interceptCrAccessCheckCr0),
      cmp rbx (.imm 4), .jcc .z (.intercept .interceptCrAccessCheckCr4),
      .jmp (.intercept .interceptCrAccessAllowAccess)]
  | .interceptCrAccessCheckCr0 => [
      mov rdi (.imm vmcsExitQualification), .call (.intercept .vmcsRead64), mov rbx rax,
      and rax (.imm 0x30), shr rax 4,
      cmp rax (.imm 0), .jcc .nz (.intercept .interceptCrAccessAllowAccess),
      mov rdi (.imm l.eventCr0Write), mov rsi rbx, .call (.trace .traceLogEvent),
      .jmp (.intercept .interceptCrAccessAllowAccess)]
  | .interceptCrAccessCheckCr4 => [
      mov rdi (.imm l.eventCr4Write), mov rsi rax, .call (.trace .traceLogEvent),
      .jmp (.intercept .interceptCrAccessAllowAccess)]
  | .interceptCrAccessAllowAccess => [
      xorl rax rax, .jmp (.intercept .interceptCrAccessDone)]
  | .interceptCrAccessDone => [pop rdi, pop rbx, pop rbp, .ret]
  | .interceptMsrWrite => [
      push rbp, mov rbp rsp, push rbx, push rdi, push rsi,
      mov rdi (.imm vmcsGuestRcx), .call (.intercept .vmcsRead64), mov rbx rax,
      mov rbx (.imm ia32Lstar), cmp rax rbx,
      .jcc .z (.intercept .interceptMsrWriteCheckLstarHook),
      mov rbx (.imm ia32Star), cmp rax rbx,
      .jcc .z (.intercept .interceptMsrWriteCheckStarHook),
      mov rbx (.imm ia32SfMask), cmp rax rbx,
      .jcc .z (.intercept .interceptMsrWriteCheckSfmaskHook),
      .jmp (.intercept .interceptMsrWriteAllowMsr)]
  | .interceptMsrWriteCheckLstarHook => [
      mov rdi (.imm l.eventLstarWrite), mov rsi rbx, .call (.trace .traceLogEvent),
      .call (.trace .traceCheckIntegrity), .jmp (.intercept .interceptMsrWriteAllowMsr)]
  | .interceptMsrWriteCheckStarHook => [
      mov rdi (.imm l.eventStarWrite), .call (.trace .traceLogEvent),
      .jmp (.intercept .interceptMsrWriteAllowMsr)]
  | .interceptMsrWriteCheckSfmaskHook => [
      mov rdi (.imm l.eventSfmaskWrite), .call (.trace .traceLogEvent),
      .jmp (.intercept .interceptMsrWriteAllowMsr)]
  | .interceptMsrWriteAllowMsr => [
      xorl rax rax, .jmp (.intercept .interceptMsrWriteDone)]
  | .interceptMsrWriteDone => [pop rsi, pop rdi, pop rbx, pop rbp, .ret]
  | .interceptCpuid => readCpuidInputs ++ .op cpuid :: (storeCpuidResults ++
      .jmp (.intercept .interceptCpuidDone) :: [])
  | .interceptCpuidNotHypervisorCheck => .op cpuid :: storeCpuidResults
  | .interceptCpuidDone => [pop rdx, pop rcx, pop rbx, pop rbp, .ret]
  | .interceptIoInstruction => [push rbp, mov rbp rsp, xorl rax rax, pop rbp, .ret]
  | .vmexitError => [cli]
  | .vmexitErrorErrorHalt => [.hlt, .jmp (.intercept .vmexitErrorErrorHalt)]
  | .vmcsRead64 => readBody h.read64
  | .vmcsWrite64 => writeBody h.write64
  | .vmcsRead32 => readBody h.read32

def interceptNext : InterceptLabel → Option Label
  | .interceptCpuidNotHypervisorCheck => some (.intercept .interceptCpuidDone)
  | .vmexitError => some (.intercept .vmexitErrorErrorHalt)
  | _ => none

end Kernova
