import Kernova.Asm.Labels

/-!
# `virtualization/intel_vmx/core/vmx_init.asm`

VMX bring-up, instruction by instruction. Local labels that stand at the same
place (`.already_enabled` and `.success`, `.vmxon_failed` and
`.verification_failed`) share one block.
-/

namespace Kernova

open X86 Reg Op

/-- `CR4_VMXE`, `IA32_VMX_BASIC`. -/
def cr4Vmxe : Word := 0x2000
def ia32VmxBasic : Word := 0x480

def vmxText (l : Layout) : VmxLabel → List (Instr Label)
  | .vmxInit => [
      push rbp, mov rbp rsp, push rbx, push rcx, push rdx, push rdi,
      .call (.vmx .enableCr4Vmx), testl rax rax, .jcc .z (.vmx .vmxInitInitFailed),
      .call (.vmx .allocVmxRegion), test rax rax, .jcc .z (.vmx .vmxInitAllocFailed),
      store (.abs l.vmxonRegionPtr) rax,
      .call (.vmx .initVmxRegion), testl rax rax, .jcc .z (.vmx .vmxInitInitFailed),
      mov rdi (.mem (.abs l.vmxonRegionPtr)),
      .call (.vmx .doVmxon), testl rax rax, .jcc .z (.vmx .vmxInitVmxonFailed),
      .call (.vmcs .vmcsSetup), testl rax rax, .jcc .z (.vmx .vmxInitVmcsSetupFailed),
      xorl rax rax, .jmp (.vmx .vmxInitInitDone)]
  | .vmxInitVmxonFailed => [movl rax (.imm (-3)), .jmp (.vmx .vmxInitInitDone)]
  | .vmxInitVmcsSetupFailed => [
      .call (.vmx .doVmxoff), movl rax (.imm (-4)), .jmp (.vmx .vmxInitInitDone)]
  | .vmxInitAllocFailed => [movl rax (.imm (-2)), .jmp (.vmx .vmxInitInitDone)]
  | .vmxInitInitFailed => [movl rax (.imm (-1))]
  | .vmxInitInitDone => [pop rdi, pop rdx, pop rcx, pop rbx, pop rbp, .ret]
  | .enableCr4Vmx => [
      push rbx, movFromCr rax .cr4,
      test rax (.imm cr4Vmxe), .jcc .nz (.vmx .enableCr4VmxSuccess),
      or rax (.imm cr4Vmxe), movToCr .cr4 rax,
      movFromCr rbx .cr4, test rbx (.imm cr4Vmxe), .jcc .nz (.vmx .enableCr4VmxSuccess),
      xorl rax rax, .jmp (.vmx .enableCr4VmxDone)]
  | .enableCr4VmxSuccess => [movl rax (.imm 1)]
  | .enableCr4VmxDone => [pop rbx, .ret]
  | .allocVmxRegion => [mov rax (.imm l.vmxonRegion), .ret]
  | .initVmxRegion => [
      push rbx, push rcx, push rdx,
      movl rcx (.imm ia32VmxBasic), rdmsr, movl rbx rax,
      mov rdi (.mem (.abs l.vmxonRegionPtr)),
      xorl rax rax, movl rcx (.imm 1024), repStosd,
      mov rdi (.mem (.abs l.vmxonRegionPtr)), storel (.base rdi 0) rbx,
      andlMem (.base rdi 0) 0x7FFFFFFF,
      movl rax (.imm 1), .jmp (.vmx .initVmxRegionDone)]
  | .initVmxRegionDone => [pop rdx, pop rcx, pop rbx, .ret]
  /- do_vmxon: RDI = pointer to the VMXON region -/
  | .doVmxon => [
      push rbx, push rdx,
      test rdi (.imm 0xFFF), .jcc .nz (.vmx .doVmxonInvalidAlignment),
      vmxon (.base rdi 0), .jcc .z (.vmx .doVmxonVerificationFailed),
      testlMem (.base rdi 0) 0x80000000, .jcc .z (.vmx .doVmxonVerificationFailed),
      movl rax (.imm 1), .jmp (.vmx .doVmxonDone)]
  | .doVmxonVerificationFailed => [xorl rax rax, .jmp (.vmx .doVmxonDone)]
  | .doVmxonInvalidAlignment => [xorl rax rax]
  | .doVmxonDone => [pop rdx, pop rbx, .ret]
  | .doVmxoff => [vmxoff, movl rax (.imm 1), .ret]
  | .vmxon => [
      push rbp, mov rbp rsp,
      .call (.vmx .enableCr4Vmx), .call (.vmx .doVmxon), pop rbp, .ret]
  | .vmxoff => [push rbp, mov rbp rsp, .call (.vmx .doVmxoff), pop rbp, .ret]
  | .vmxLaunch => [
      push rbp, mov rbp rsp, store (.abs l.hostStackPtr) rsp,
      .vmlaunch, movl rax (.imm (-1)), pop rbp, .ret]
  | .vmxResume => [
      push rbp, mov rbp rsp, store (.abs l.hostStackPtr) rsp,
      .vmresume, movl rax (.imm (-1)), pop rbp, .ret]

def vmxNext : VmxLabel → Option Label
  | .vmxInitInitFailed => some (.vmx .vmxInitInitDone)
  | .enableCr4VmxSuccess => some (.vmx .enableCr4VmxDone)
  | .doVmxonInvalidAlignment => some (.vmx .doVmxonDone)
  | _ => none

end Kernova
