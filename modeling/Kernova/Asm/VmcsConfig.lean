import Kernova.Asm.Labels

/-!
# `virtualization/intel_vmx/core/vmcs_config.asm`

VMCS set-up, instruction by instruction, with the field encodings of
`vmx_defs.inc` that both it and `intercept.asm` use.
-/

namespace Kernova

open X86 Reg Op

/-! ## Field encodings -/

def vmcsGuestEsSelector : Word := 0x0800
def vmcsGuestCsSelector : Word := 0x0802
def vmcsGuestSsSelector : Word := 0x0804
def vmcsGuestDsSelector : Word := 0x0806
def vmcsGuestFsSelector : Word := 0x0808
def vmcsGuestGsSelector : Word := 0x080A

def vmcsGuestEsLimit : Word := 0x4800
def vmcsGuestCsLimit : Word := 0x4802
def vmcsGuestSsLimit : Word := 0x4804
def vmcsGuestDsLimit : Word := 0x4806

def vmcsGuestCr0 : Word := 0x6800
def vmcsGuestCr3 : Word := 0x6802
def vmcsGuestCr4 : Word := 0x6804
def vmcsGuestRsp : Word := 0x681C
def vmcsGuestRip : Word := 0x681E
def vmcsGuestRflags : Word := 0x6820

def vmcsHostEsSelector : Word := 0x0C00
def vmcsHostCsSelector : Word := 0x0C02
def vmcsHostSsSelector : Word := 0x0C04
def vmcsHostDsSelector : Word := 0x0C06
def vmcsHostFsSelector : Word := 0x0C08
def vmcsHostGsSelector : Word := 0x0C0A

def vmcsHostCr0 : Word := 0x6C00
def vmcsHostCr3 : Word := 0x6C02
def vmcsHostCr4 : Word := 0x6C04
def vmcsHostRsp : Word := 0x6C1C
def vmcsHostRip : Word := 0x6C1E

/-- "Guest register state (for CPUID intercept)": `vmcsGuestRcx` is the
encoding of `vmcsGuestRsp`, `vmcsGuestRdx` that of `vmcsGuestRip`. -/
def vmcsGuestRax : Word := 0x681A
def vmcsGuestRbx : Word := 0x6818
def vmcsGuestRcx : Word := 0x681C
def vmcsGuestRdx : Word := 0x681E

def vmcsLinkPointer : Word := 0x2800
def vmcsLinkPtrInvalid : Word := 0xFFFFFFFFFFFFFFFF

def vmcsExitReason : Word := 0x4402
def vmcsExitQualification : Word := 0x6400
def vmcsExitInstrLen : Word := 0x440C

/-! ## Code -/

/-- Selectors and limits of the guest's segments. -/
def guestSegments : List (Instr Label) := [
  mov rbx (.imm 0x08), mov rcx (.imm vmcsGuestCsSelector), vmwrite rcx rbx,
  mov rbx (.imm 0x10), mov rcx (.imm vmcsGuestDsSelector), vmwrite rcx rbx,
  mov rcx (.imm vmcsGuestEsSelector), vmwrite rcx rbx,
  mov rcx (.imm vmcsGuestSsSelector), vmwrite rcx rbx,
  mov rcx (.imm vmcsGuestFsSelector), vmwrite rcx rbx,
  mov rcx (.imm vmcsGuestGsSelector), vmwrite rcx rbx,
  mov rbx (.imm 0xFFFFFFFF), mov rcx (.imm vmcsGuestCsLimit), vmwrite rcx rbx,
  mov rcx (.imm vmcsGuestDsLimit), vmwrite rcx rbx,
  mov rcx (.imm vmcsGuestEsLimit), vmwrite rcx rbx,
  mov rcx (.imm vmcsGuestSsLimit), vmwrite rcx rbx]

/-- Selectors of the host's segments. -/
def hostSegments : List (Instr Label) := [
  mov rbx (.imm 0x08), mov rcx (.imm vmcsHostCsSelector), vmwrite rcx rbx,
  mov rbx (.imm 0x10), mov rcx (.imm vmcsHostDsSelector), vmwrite rcx rbx,
  mov rcx (.imm vmcsHostEsSelector), vmwrite rcx rbx,
  mov rcx (.imm vmcsHostSsSelector), vmwrite rcx rbx,
  mov rbx (.imm 0), mov rcx (.imm vmcsHostFsSelector), vmwrite rcx rbx,
  mov rcx (.imm vmcsHostGsSelector), vmwrite rcx rbx]

/-- Control registers, entry point, stack, flags and link pointer of the guest. -/
def guestControl (l : Layout) : List (Instr Label) := [
  mov rbx (.imm 1), mov rcx (.imm vmcsGuestCr0), vmwrite rcx rbx,
  mov rbx (.imm 0), mov rcx (.imm vmcsGuestCr3), vmwrite rcx rbx,
  mov rbx (.imm 0x20), mov rcx (.imm vmcsGuestCr4), vmwrite rcx rbx,
  mov rbx (.imm (l.code ⟨.vmcs .guestEntryPoint, 0⟩)),
  mov rcx (.imm vmcsGuestRip), vmwrite rcx rbx,
  mov rbx (.imm l.guestStackTop), mov rcx (.imm vmcsGuestRsp), vmwrite rcx rbx,
  mov rbx (.imm 2), mov rcx (.imm vmcsGuestRflags), vmwrite rcx rbx,
  mov rbx (.imm vmcsLinkPtrInvalid), mov rcx (.imm vmcsLinkPointer), vmwrite rcx rbx,
  movl rax (.imm 1), .jmp (.vmcs .configureVmcsGuestDone)]

/-- Control registers, handler and stack of the host. -/
def hostControl (l : Layout) : List (Instr Label) := [
  movFromCr rbx .cr0, mov rcx (.imm vmcsHostCr0), vmwrite rcx rbx,
  movFromCr rbx .cr3, mov rcx (.imm vmcsHostCr3), vmwrite rcx rbx,
  movFromCr rbx .cr4, mov rcx (.imm vmcsHostCr4), vmwrite rcx rbx,
  mov rbx (.imm (l.code ⟨.intercept .vmexitHandler, 0⟩)),
  mov rcx (.imm vmcsHostRip), vmwrite rcx rbx,
  mov rbx (.imm l.hostStackForExit), mov rcx (.imm vmcsHostRsp), vmwrite rcx rbx,
  movl rax (.imm 1), .jmp (.vmcs .configureVmcsHostDone)]

def vmcsText (l : Layout) : VmcsLabel → List (Instr Label)
  | .vmcsSetup => [
      push rbp, mov rbp rsp, push rbx, push rcx, push rdx, push rdi, push rsi,
      .call (.vmcs .allocVmcsRegion), test rax rax, .jcc .z (.vmcs .vmcsSetupAllocFailed),
      store (.abs l.vmcsRegionPtr) rax,
      mov rdi rax, .call (.vmcs .doVmclear),
      testl rax rax, .jcc .z (.vmcs .vmcsSetupClearFailed),
      mov rdi (.mem (.abs l.vmcsRegionPtr)), .call (.vmcs .doVmptrld),
      testl rax rax, .jcc .z (.vmcs .vmcsSetupLoadFailed),
      .call (.vmcs .configureVmcsControl),
      testl rax rax, .jcc .z (.vmcs .vmcsSetupConfigFailed),
      .call (.vmcs .configureVmcsGuest),
      testl rax rax, .jcc .z (.vmcs .vmcsSetupConfigFailed),
      .call (.vmcs .configureVmcsHost),
      testl rax rax, .jcc .z (.vmcs .vmcsSetupConfigFailed),
      xorl rax rax, .jmp (.vmcs .vmcsSetupSetupDone)]
  | .vmcsSetupConfigFailed => [movl rax (.imm (-4)), .jmp (.vmcs .vmcsSetupSetupDone)]
  | .vmcsSetupLoadFailed => [movl rax (.imm (-3)), .jmp (.vmcs .vmcsSetupSetupDone)]
  | .vmcsSetupClearFailed => [movl rax (.imm (-2)), .jmp (.vmcs .vmcsSetupSetupDone)]
  | .vmcsSetupAllocFailed => [movl rax (.imm (-1))]
  | .vmcsSetupSetupDone => [pop rsi, pop rdi, pop rdx, pop rcx, pop rbx, pop rbp, .ret]
  | .allocVmcsRegion => [mov rax (.imm l.vmcsRegion), .ret]
  /- do_vmclear, do_vmptrld: RDI = pointer to the VMCS region -/
  | .doVmclear => [
      push rbx, test rdi (.imm 0xFFF), .jcc .nz (.vmcs .doVmclearClearFailed),
      vmclear (.base rdi 0), .jcc .z (.vmcs .doVmclearClearFailed),
      movl rax (.imm 1), .jmp (.vmcs .doVmclearDone)]
  | .doVmclearClearFailed => [xorl rax rax]
  | .doVmclearDone => [pop rbx, .ret]
  | .doVmptrld => [
      push rbx, test rdi (.imm 0xFFF), .jcc .nz (.vmcs .doVmptrldLoadFailed),
      vmptrld (.base rdi 0), .jcc .z (.vmcs .doVmptrldLoadFailed),
      movl rax (.imm 1), .jmp (.vmcs .doVmptrldDone)]
  | .doVmptrldLoadFailed => [xorl rax rax]
  | .doVmptrldDone => [pop rbx, .ret]
  | .configureVmcsControl => [
      push rbx, push rcx, push rdx,
      movl rcx (.imm 0x481), rdmsr, movl rdx (.imm 0),
      movl rbx rax, orl rbx (.imm 9), andl rbx rdx,
      mov rcx (.imm 0), vmwrite rcx rbx,
      movl rcx (.imm 0x482), rdmsr,
      mov rbx rax, mov r8 (.imm 0x80000083), or rbx r8,
      mov rcx (.imm 0x4002), vmwrite rcx rbx,
      movl rcx (.imm 0x483), rdmsr,
      mov rbx rax, or rbx (.imm 0x200), mov rcx (.imm 0x400C), vmwrite rcx rbx,
      movl rcx (.imm 0x484), rdmsr,
      mov rbx rax, or rbx (.imm 0x200), mov rcx (.imm 0x4012), vmwrite rcx rbx,
      movl rax (.imm 1), .jmp (.vmcs .configureVmcsControlDone)]
  | .configureVmcsControlDone => [pop rdx, pop rcx, pop rbx, .ret]
  | .configureVmcsGuest => .op (push rbx) :: .op (push rcx) :: (guestSegments ++ guestControl l)
  | .configureVmcsGuestDone => [pop rcx, pop rbx, .ret]
  | .configureVmcsHost => .op (push rbx) :: .op (push rcx) :: (hostSegments ++ hostControl l)
  | .configureVmcsHostDone => [pop rcx, pop rbx, .ret]
  /- vmcs_write: RDI = field, RSI = value; vmcs_read: RDI = field -/
  | .vmcsWrite => [
      vmwrite rdi rsi, .jcc .nz (.vmcs .vmcsWriteWriteSuccess), xorl rax rax, .ret]
  | .vmcsWriteWriteSuccess => [movl rax (.imm 1), .ret]
  | .vmcsRead => [vmread rdi rax, .ret]
  | .vmcsClear => [push rbp, mov rbp rsp, .call (.vmcs .doVmclear), pop rbp, .ret]
  | .vmcsLoad => [push rbp, mov rbp rsp, .call (.vmcs .doVmptrld), pop rbp, .ret]
  | .vmcsLaunchState => [movl rax (.mem (.abs l.vmcsLaunchStateValue)), .ret]
  | .guestEntryPoint => [.hlt, .jmp (.vmcs .guestEntryPoint)]

def vmcsNext : VmcsLabel → Option Label
  | .vmcsSetupAllocFailed => some (.vmcs .vmcsSetupSetupDone)
  | .doVmclearClearFailed => some (.vmcs .doVmclearDone)
  | .doVmptrldLoadFailed => some (.vmcs .doVmptrldDone)
  | _ => none

end Kernova
