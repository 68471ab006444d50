import Kernova.Asm.Labels

/-!
# `monitor/trace_engine.asm`

The event log and the integrity monitor, instruction by instruction. Field
offsets of the source's structures:

* `TraceEvent` (32 bytes) — timestamp 0, type 8, severity 9, data 12;
* `TraceBuffer` — events 0, read_index 32768, write_index 32776;
* `TraceStatistics` — event_count 0, critical_events 8, integrity_checks 16,
  integrity_failures 24;
* `IntegrityEntry` (56 bytes) — tag 0, address 8, size 16, hash 24;
* `Watchpoint` (24 bytes) — address 0, size 8, type 16.
-/

namespace Kernova

open X86 Reg Op

/-- The region tags, as the assembler packs their characters. -/
def tagIdt : Word := 0x20544449   -- "IDT "
def tagGdt : Word := 0x20544447   -- "GDT "
def tagSysc : Word := 0x43535953  -- "SYSC"

/-- The event types that are logged or should be: `TRACE_EVENT_CR_WRITE`,
`TRACE_EVENT_MSR_WRITE`, `TRACE_EVENT_HOOK_DETECT`, `TRACE_EVENT_INTEGRITY_FAIL`. -/
def traceEventCrWrite : Word := 1
def traceEventMsrWrite : Word := 2
def traceEventHookDetect : Word := 3
def traceEventIntegrityFail : Word := 5

/-- `TRACE_SEVERITY_CRITICAL`, `TRACE_MAX_EVENTS`. -/
def traceSeverityCritical : Word := 2
def traceMaxEvents : Word := 1024

/-- `compare_memory.compare_loop` between its test and its jump. -/
def compareTurn : List Op := [
  movb rax (.base rdi 0), xorb rax (.base rsi 0), orb rbx rax, inc rdi, inc rsi, dec rcx]

/-- `trace_log_event` from the address of the slot to the counters. -/
def logStore (l : Layout) : List Op := [
  lea rbx (.abs l.traceBuffer), shl rax 5, lea rdi (.sib rbx rax 0),
  rdtsc, store (.base rdi 0) rax,
  storeb (.base rdi 8) r12,
  store (.base rdi 12) r13,
  lockInc (.abs l.writeIndex),
  lockInc (.abs l.eventCount)]

/-- `trace_log_event` from the test of the type on. -/
def logCritical (l : Layout) : List (Instr Label) := [
  cmp r12 (.imm traceSeverityCritical), .jcc .nz (.trace .traceLogEventNotCritical),
  lockInc (.abs l.criticalEvents)]

def traceText (l : Layout) : TraceLabel → List (Instr Label)
  | .traceInit => [
      push rbp, mov rbp rsp, push rbx, push rdi,
      mov rdi (.imm l.traceBuffer), mov rsi (.imm 32784),
      .call (.simd .simdZeroMemory),
      store (.abs l.eventCount) (.imm 0), store (.abs l.criticalEvents) (.imm 0),
      store (.abs l.integrityChecks) (.imm 0), store (.abs l.integrityFailures) (.imm 0),
      .call (.trace .computeBaselineHashes),
      xorl rax rax, .jmp (.trace .traceInitDone)]
  | .traceInitDone => [pop rdi, pop rbx, pop rbp, .ret]
  /- trace_log_event: RDI = event type, RSI = event-specific data -/
  | .traceLogEvent =>
      .op (push rbp) :: .op (mov rbp rsp) :: .op (push rbx) :: .op (push r12) ::
      .op (push r13) :: .op (push r14) :: .op (push r15) ::
      .op (mov r12 rdi) :: .op (mov r13 rsi) :: .op (mov rax (.mem (.abs l.writeIndex))) ::
      .op (cmp rax (.imm traceMaxEvents)) :: .jcc .ge (.trace .traceLogEventBufferFull) ::
      ((logStore l).map .op ++ logCritical l)
  | .traceLogEventNotCritical => [xorl rax rax, .jmp (.trace .traceLogEventDone)]
  | .traceLogEventBufferFull => [movl rax (.imm (-1))]
  | .traceLogEventDone => [
      pop r15, pop r14, pop r13, pop r12, pop rbx, pop rbp, .ret]
  | .traceCheckIntegrity => [
      push rbp, mov rbp rsp, push rbx, push r12, push r13, push r14,
      lockInc (.abs l.integrityChecks),
      mov rdi (.imm tagIdt), .call (.trace .checkRegionIntegrity),
      testl rax rax, .jcc .z (.trace .traceCheckIntegrityIdtCompromised),
      mov rdi (.imm tagGdt), .call (.trace .checkRegionIntegrity),
      testl rax rax, .jcc .z (.trace .traceCheckIntegrityGdtCompromised),
      mov rdi (.imm tagSysc), .call (.trace .checkRegionIntegrity),
      testl rax rax, .jcc .z (.trace .traceCheckIntegritySyscallCompromised),
      xorl rax rax, .jmp (.trace .traceCheckIntegrityDone)]
  | .traceCheckIntegrityIdtCompromised => [
      mov rdi (.imm traceEventIntegrityFail), mov rsi (.imm 1),
      .call (.trace .traceLogEvent),
      lockInc (.abs l.integrityFailures),
      movl rax (.imm (-1)), .jmp (.trace .traceCheckIntegrityDone)]
  | .traceCheckIntegrityGdtCompromised => [
      mov rdi (.imm traceEventIntegrityFail), mov rsi (.imm 2),
      .call (.trace .traceLogEvent),
      lockInc (.abs l.integrityFailures),
      movl rax (.imm (-1)), .jmp (.trace .traceCheckIntegrityDone)]
  | .traceCheckIntegritySyscallCompromised => [
      mov rdi (.imm traceEventIntegrityFail), mov rsi (.imm 3),
      .call (.trace .traceLogEvent),
      lockInc (.abs l.integrityFailures),
      movl rax (.imm (-1))]
  | .traceCheckIntegrityDone => [
      pop r14, pop r13, pop r12, pop rbx, pop rbp, .ret]
  /- check_region_integrity: RDI = region tag -/
  | .checkRegionIntegrity => [
      push rbp, mov rbp rsp, push rbx, push r12, push r13, push r14,
      mov r12 rdi, mov rbx (.imm l.integrityBaseline), mov r14 (.imm 5)]
  | .checkRegionIntegrityFindLoop => [
      test r14 r14, .jcc .z (.trace .checkRegionIntegrityNotFound),
      mov rax (.mem (.base rbx 0)),
      cmp rax r12, .jcc .z (.trace .checkRegionIntegrityFound),
      add rbx (.imm 56), dec r14, .jmp (.trace .checkRegionIntegrityFindLoop)]
  | .checkRegionIntegrityNotFound => [
      movl rax (.imm 1), .jmp (.trace .checkRegionIntegrityDone)]
  | .checkRegionIntegrityFound => [
      mov rdi (.mem (.base rbx 8)), mov rsi (.mem (.base rbx 16)),
      mov rdx (.imm l.currentHashBuffer), .call (.simd .simdHashBlocks),
      mov rdi (.imm l.currentHashBuffer), mov rsi rbx, add rsi (.imm 24),
      mov rcx (.imm 32), .call (.trace .compareMemory),
      testl rax rax, .jcc .z (.trace .checkRegionIntegrityModified),
      movl rax (.imm 1), .jmp (.trace .checkRegionIntegrityDone)]
  | .checkRegionIntegrityModified => [xorl rax rax]
  | .checkRegionIntegrityDone => [
      pop r14, pop r13, pop r12, pop rbx, pop rbp, .ret]
  /- trace_set_watchpoint: RDI = address, RSI = size, RDX = type -/
  | .traceSetWatchpoint => [
      push rbp, mov rbp rsp, push rbx, push rdx,
      mov rax rsi,
      cmp rax (.imm 1), .jcc .z (.trace .traceSetWatchpointSizeOk),
      cmp rax (.imm 2), .jcc .z (.trace .traceSetWatchpointSizeOk),
      cmp rax (.imm 4), .jcc .z (.trace .traceSetWatchpointSizeOk),
      cmp rax (.imm 8), .jcc .z (.trace .traceSetWatchpointSizeOk),
      movl rax (.imm (-1)), .jmp (.trace .traceSetWatchpointDone)]
  | .traceSetWatchpointSizeOk => [mov rbx (.imm l.watchpoints), mov rcx (.imm 4)]
  | .traceSetWatchpointFindFree => [
      test rcx rcx, .jcc .z (.trace .traceSetWatchpointNoFree),
      cmpMem (.base rbx 0) 0, .jcc .z (.trace .traceSetWatchpointFoundFree),
      add rbx (.imm 24), dec rcx, .jmp (.trace .traceSetWatchpointFindFree)]
  | .traceSetWatchpointNoFree => [
      movl rax (.imm (-1)), .jmp (.trace .traceSetWatchpointDone)]
  | .traceSetWatchpointFoundFree => [
      store (.base rbx 0) rdi, store (.base rbx 8) rsi, store (.base rbx 16) rdx,
      xorl rax rax]
  | .traceSetWatchpointDone => [pop rdx, pop rbx, pop rbp, .ret]
  /- trace_get_statistics: RDI = structure to fill -/
  | .traceGetStatistics => [
      push rbp, mov rbp rsp, push rdi, push rsi, push rcx,
      mov rsi (.imm l.traceStats), mov rcx (.imm 32), repMovsb,
      xorl rax rax, pop rcx, pop rsi, pop rdi, pop rbp, .ret]
  -- only the first entry's hash is written
  | .computeBaselineHashes => [
      push rbp, mov rbp rsp, push rbx,
      mov rbx (.imm l.integrityBaseline),
      store (.base rbx 0) (.imm tagIdt), store (.base rbx 8) (.imm 0),
      store (.base rbx 16) (.imm 256),
      mov rdi rbx, add rdi (.imm 24), mov rcx (.imm 32), xorl rax rax, repStosb,
      add rbx (.imm 56),
      store (.base rbx 0) (.imm tagGdt), store (.base rbx 8) (.imm 0),
      store (.base rbx 16) (.imm 256),
      add rbx (.imm 56),
      store (.base rbx 0) (.imm tagSysc), store (.base rbx 8) (.imm 0),
      store (.base rbx 16) (.imm 256),
      pop rbx, pop rbp, .ret]
  /- compare_memory: RDI, RSI = buffers, RCX = length -/
  | .compareMemory => [push rbx, xor rbx rbx]
  | .compareMemoryCompareLoop =>
      .op (test rcx rcx) :: .jcc .z (.trace .compareMemoryDone) ::
      (compareTurn.map .op ++ [.jmp (.trace .compareMemoryCompareLoop)])
  | .compareMemoryDone => [
      testb rbx rbx, setz rax, movzxbl rax rax, pop rbx, .ret]

def traceNext : TraceLabel → Option Label
  | .traceLogEvent => some (.trace .traceLogEventNotCritical)
  | .traceLogEventBufferFull => some (.trace .traceLogEventDone)
  | .traceCheckIntegritySyscallCompromised => some (.trace .traceCheckIntegrityDone)
  | .checkRegionIntegrity => some (.trace .checkRegionIntegrityFindLoop)
  | .checkRegionIntegrityModified => some (.trace .checkRegionIntegrityDone)
  | .traceSetWatchpointSizeOk => some (.trace .traceSetWatchpointFindFree)
  | .traceSetWatchpointFoundFree => some (.trace .traceSetWatchpointDone)
  | .compareMemory => some (.trace .compareMemoryCompareLoop)
  | _ => none

end Kernova
